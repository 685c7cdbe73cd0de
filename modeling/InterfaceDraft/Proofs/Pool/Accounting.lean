import InterfaceDraft.Extraction.Pool
import Mathlib.Data.List.Perm.Basic

set_option autoImplicit false

namespace InterfaceDraft.Extraction

def Worker.task? {α : Type} : Worker α → Option (Task α)
  | .busy task => some task
  | _ => none

theorem Worker.isSilent_of_isGone {α : Type} {worker : Worker α} (gone : worker.isGone = true) :
    worker.isSilent = true := by
  cases worker with
  | gone => rfl
  | idle | busy | falling => cases gone

namespace Pool

variable {α : Type}

def running (pool : Pool α) : List (Task α) :=
  pool.workers.filterMap Worker.task?

def silent (pool : Pool α) : Nat :=
  pool.workers.countP Worker.isSilent

structure History (α : Type) where
  -- The accepted tasks, in order.
  accepted : List (Task α)
  -- The tasks whose outcome was sent, in order, each behind the worker that ran it.
  reported : List (Nat × Task α)
  -- The tasks that brought their worker down.
  fallen : List (Task α)
  -- The tasks that were dropped with the queue.
  dropped : List (Task α)

namespace History

def empty : History α := ⟨[], [], [], []⟩

def accept (history : History α) (task : Task α) : History α :=
  { history with accepted := history.accepted ++ [task] }

def after (history : History α) (pool : Pool α) : Action → History α
  | .finish worker =>
    match pool.workers[worker]? with
    | some (.busy task) =>
      if task.isArmed then { history with fallen := history.fallen ++ [task] }
      else { history with reported := history.reported ++ [(worker, task)] }
    | _ => history
  | .leave worker =>
    if pool.isLast worker then { history with dropped := history.dropped ++ pool.queue }
    else history
  | _ => history

def outcomes (history : History α) : List (Outcome α) :=
  history.reported.map fun entry => entry.2.outcome entry.1

-- The tasks that no worker has to do with any more.
def settled (history : History α) : List (Task α) :=
  history.reported.map Prod.snd ++ history.fallen ++ history.dropped

@[simp] theorem after_accepted (history : History α) (pool : Pool α) (action : Action) :
    (history.after pool action).accepted = history.accepted := by
  unfold after
  split
  next =>
    split
    next => split <;> rfl
    next => rfl
  next => split <;> rfl
  next => rfl

theorem after_leave (history : History α) (pool : Pool α) (worker : Nat) :
    history.after pool (.leave worker) =
      if pool.isLast worker then { history with dropped := history.dropped ++ pool.queue }
      else history := rfl

theorem after_finish_dropped (history : History α) (pool : Pool α) (worker : Nat) :
    (history.after pool (.finish worker)).dropped = history.dropped := by
  rw [after]
  split
  next => split <;> rfl
  next => rfl

theorem settled_report (history : History α) (entry : Nat × Task α) :
    ({ history with reported := history.reported ++ [entry] }.settled).Perm
      (entry.2 :: history.settled) := by
  simp only [settled, List.map_append, List.map_cons, List.map_nil, List.append_assoc]
  exact List.perm_middle

theorem settled_fall (history : History α) (task : Task α) :
    ({ history with fallen := history.fallen ++ [task] }.settled).Perm (task :: history.settled) := by
  simp only [settled, List.append_assoc]
  exact (List.perm_middle.append_left _).trans List.perm_middle

theorem settled_drop (history : History α) (tasks : List (Task α)) :
    { history with dropped := history.dropped ++ tasks }.settled = history.settled ++ tasks := by
  simp only [settled, List.append_assoc]

end History

-- The runs of a pool, under any calls and any order of moves.
inductive Run (size : Nat) : History α → Pool α → Prop
  | start : Run size .empty (Pool.start size)
  | submit {history : History α} {pool next : Pool α} (before : Run size history pool)
      (task : Task α) (accepted : pool.submit task = .ok next) : Run size (history.accept task) next
  | refuse {history : History α} {pool : Pool α} (before : Run size history pool)
      (task : Task α) (error : PoolError) (refused : pool.submit task = .error error) :
      Run size history pool
  | close {history : History α} {pool : Pool α} (before : Run size history pool) :
      Run size history pool.close
  | act {history : History α} {pool next : Pool α} (before : Run size history pool)
      (action : Action) (moved : pool.act action = some next) : Run size (history.after pool action) next

theorem submit_ok {pool next : Pool α} {task : Task α} (h : pool.submit task = .ok next) :
    pool.isOpen = true ∧ pool.isDeserted = false ∧
      next = { pool with queue := pool.queue ++ [task], submitted := pool.submitted + 1 } := by
  unfold submit at h
  split at h
  next taken =>
    rw [Bool.and_eq_true, Bool.not_eq_true'] at taken
    exact ⟨taken.1, taken.2, by cases h; rfl⟩
  next => cases h

theorem act_take {pool next : Pool α} {worker : Nat} (h : pool.act (.take worker) = some next) :
    ∃ task queue, pool.workers[worker]? = some .idle ∧ pool.queue = task :: queue ∧
      next = { pool with queue := queue, workers := pool.workers.set worker (.busy task) } := by
  simp only [act] at h
  split at h
  next task queue idle queued => exact ⟨task, queue, idle, queued, by cases h; rfl⟩
  next => cases h

theorem act_finish {pool next : Pool α} {worker : Nat} (h : pool.act (.finish worker) = some next) :
    ∃ task, pool.workers[worker]? = some (.busy task) ∧
      (task.isArmed = true ∧ next = { pool with workers := pool.workers.set worker .falling } ∨
        task.isArmed = false ∧ next = { pool with
          workers := pool.workers.set worker .idle
          stream := pool.stream ++ [task.outcome worker] }) := by
  simp only [act] at h
  split at h
  next task busy =>
    split at h
    next armed => exact ⟨task, busy, .inl ⟨armed, by cases h; rfl⟩⟩
    next harmless => exact ⟨task, busy, .inr ⟨Bool.eq_false_iff.mpr harmless, by cases h; rfl⟩⟩
  next => cases h

theorem act_leave {pool next : Pool α} {worker : Nat} (h : pool.act (.leave worker) = some next) :
    (pool.workers[worker]? = some .idle ∧ pool.queue = [] ∧ pool.isOpen = false ∨
      pool.workers[worker]? = some .falling) ∧ next = pool.dismiss worker := by
  simp only [act] at h
  split at h
  next idle queued closed => exact ⟨.inl ⟨idle, queued, closed⟩, by cases h; rfl⟩
  next falling => exact ⟨.inr falling, by cases h; rfl⟩
  next => cases h

theorem act_receive {pool next : Pool α} (h : pool.act .receive = some next) :
    ∃ outcome stream, pool.stream = outcome :: stream ∧
      next = { pool with stream := stream, received := pool.received ++ [outcome] } := by
  simp only [act] at h
  split at h
  next outcome stream sent => exact ⟨outcome, stream, sent, by cases h; rfl⟩
  next => cases h

-- Only the caller opens or closes a pool, and only the consumer receives.
theorem act_keeps {pool next : Pool α} {action : Action} (moved : pool.act action = some next) :
    next.isOpen = pool.isOpen ∧ (action ≠ .receive → next.received = pool.received) := by
  cases action with
  | take worker =>
    obtain ⟨_, _, _, _, rfl⟩ := act_take moved
    exact ⟨rfl, fun _ => rfl⟩
  | finish worker =>
    obtain ⟨_, _, ⟨_, rfl⟩ | ⟨_, rfl⟩⟩ := act_finish moved
    · exact ⟨rfl, fun _ => rfl⟩
    · exact ⟨rfl, fun _ => rfl⟩
  | leave worker =>
    obtain ⟨_, rfl⟩ := act_leave moved
    exact ⟨rfl, fun _ => rfl⟩
  | receive =>
    obtain ⟨_, _, _, rfl⟩ := act_receive moved
    exact ⟨rfl, fun own => absurd rfl own⟩

theorem reachable_iff_run {size : Nat} {pool : Pool α} :
    Reachable size pool ↔ ∃ history, Run size history pool := by
  constructor
  next =>
    intro reachable
    induction reachable with
    | start => exact ⟨_, .start⟩
    | step _ step ih =>
      obtain ⟨history, run⟩ := ih
      cases step with
      | act action moved => exact ⟨_, run.act action moved⟩
      | submit task accepted => exact ⟨_, run.submit task accepted⟩
      | close => exact ⟨_, run.close⟩
  next =>
    rintro ⟨history, run⟩
    induction run with
    | start => exact .start
    | submit _ task accepted ih => exact ih.step (.submit task accepted)
    | refuse _ _ _ _ ih => exact ih
    | close _ ih => exact ih.step (.close _)
    | act _ action moved ih => exact ih.step (.act action moved)

theorem cons_set_perm {β : Type} {items : List β} {place : Nat} {old : β}
    (present : items[place]? = some old) (new : β) :
    (old :: items.set place new).Perm (new :: items) := by
  obtain ⟨inside, rfl⟩ := List.getElem?_eq_some_iff.mp present
  calc
    (items[place] :: items.set place new).Perm (items[place] :: new :: items.eraseIdx place) :=
      (List.set_perm_cons_eraseIdx inside new).cons _
    _ |>.Perm (new :: items[place] :: items.eraseIdx place) := .swap _ _ _
    _ |>.Perm (new :: items) := (List.getElem_cons_eraseIdx_perm inside).cons _

-- When `new` takes the place of `old`, its task comes into the work and that of `old` goes out.
theorem running_set {workers : List (Worker α)} {place : Nat} {old : Worker α}
    (present : workers[place]? = some old) (new : Worker α) :
    (old.task?.toList ++ (workers.set place new).filterMap Worker.task?).Perm
      (new.task?.toList ++ workers.filterMap Worker.task?) := by
  simpa only [List.filterMap_eq_flatMap_toList, List.flatMap_cons] using
    (cons_set_perm present new).filterMap Worker.task?

theorem countP_set {workers : List (Worker α)} {place : Nat} {old : Worker α}
    (present : workers[place]? = some old) (new : Worker α) (p : Worker α → Bool) :
    (workers.set place new).countP p + (if p old then 1 else 0) =
      workers.countP p + (if p new then 1 else 0) := by
  have staff := (cons_set_perm present new).countP_eq p
  rwa [List.countP_cons, List.countP_cons] at staff

-- A task that leaves the workers is settled.
theorem settle_perm {task : Task α} {running rest settled later : List (Task α)}
    (out : running.Perm (task :: rest)) (into : later.Perm (task :: settled)) :
    (running ++ settled).Perm (rest ++ later) := by
  calc
    (running ++ settled).Perm (task :: rest ++ settled) := out.append_right _
    _ |>.Perm (rest ++ task :: settled) := List.perm_middle.symm
    _ |>.Perm (rest ++ later) := into.symm.append_left _

-- Who is silent has left a pool with nothing to do, or it fell.
structure Accounted (size : Nat) (history : History α) (pool : Pool α) : Prop where
  tasks : history.accepted.Perm (pool.queue ++ pool.running ++ history.settled)
  submitted : pool.submitted = history.accepted.length
  outcomes : pool.received ++ pool.stream = history.outcomes
  staff : pool.workers.length = max 1 size
  numbers : ∀ entry ∈ history.reported, entry.1 < max 1 size
  harmless : ∀ entry ∈ history.reported, entry.2.isArmed = false
  armed : ∀ task ∈ history.fallen, task.isArmed = true
  fallen : history.fallen.length ≤ pool.silent
  staffed : pool.isOpen = true ∨ pool.queue ≠ [] → pool.silent = history.fallen.length
  dropped : history.dropped ≠ [] → history.fallen.length = max 1 size
  deserted : pool.isDeserted = true → pool.queue = []

theorem start_accounted (size : Nat) : Accounted size .empty (Pool.start size : Pool α) where
  tasks := by simp [History.empty, History.settled, start, running, Worker.task?]
  submitted := rfl
  outcomes := rfl
  staff := by simp [start]
  numbers := by simp [History.empty]
  harmless := by simp [History.empty]
  armed := by simp [History.empty]
  fallen := Nat.zero_le _
  staffed := by simp [History.empty, start, silent, Worker.isSilent]
  dropped := by simp [History.empty]
  deserted _ := rfl

theorem submit_accounted {size : Nat} {history : History α} {pool next : Pool α} {task : Task α}
    (before : Accounted size history pool) (accepted : pool.submit task = .ok next) :
    Accounted size (history.accept task) next := by
  obtain ⟨isOpen, staffed, rfl⟩ := submit_ok accepted
  constructor
  case tasks =>
    have behind : (pool.running ++ history.settled ++ [task]).Perm
        ([task] ++ (pool.running ++ history.settled)) := List.perm_append_comm
    have moved := (before.tasks.append_right [task]).trans
      (by simpa only [List.append_assoc] using behind.append_left pool.queue)
    simpa only [History.accept, History.settled, running, List.append_assoc] using moved
  case submitted => simp [History.accept, before.submitted]
  case outcomes => exact before.outcomes
  case staff => exact before.staff
  case numbers => exact before.numbers
  case harmless => exact before.harmless
  case armed => exact before.armed
  case fallen => exact before.fallen
  case staffed => exact fun _ => before.staffed (.inl isOpen)
  case dropped => exact before.dropped
  case deserted =>
    intro deserted
    cases staffed.symm.trans deserted

theorem close_accounted {size : Nat} {history : History α} {pool : Pool α}
    (before : Accounted size history pool) : Accounted size history pool.close where
  tasks := before.tasks
  submitted := before.submitted
  outcomes := before.outcomes
  staff := before.staff
  numbers := before.numbers
  harmless := before.harmless
  armed := before.armed
  fallen := before.fallen
  staffed := by
    rintro (isOpen | queued)
    · cases isOpen
    · exact before.staffed (.inr queued)
  dropped := before.dropped
  deserted := before.deserted

theorem not_deserted_of_set {workers : List (Worker α)} {place : Nat} {old new : Worker α}
    (present : workers[place]? = some old) (here : new.isGone = false) :
    (workers.set place new).all Worker.isGone = false := by
  obtain ⟨inside, -⟩ := List.getElem?_eq_some_iff.mp present
  exact List.all_eq_false.mpr ⟨new, List.mem_set inside new, by simp [here]⟩

theorem take_accounted {size worker : Nat} {history : History α} {pool next : Pool α}
    (before : Accounted size history pool) (moved : pool.act (.take worker) = some next) :
    Accounted size history next := by
  obtain ⟨task, queue, idle, queued, rfl⟩ := act_take moved
  have silent : (pool.workers.set worker (.busy task)).countP Worker.isSilent = pool.silent :=
    countP_set idle (.busy task) Worker.isSilent
  constructor
  case tasks =>
    have running := running_set idle (.busy task)
    refine before.tasks.trans ?_
    rw [queued]
    refine List.Perm.append_right _ ?_
    calc
      (task :: queue ++ pool.running).Perm (queue ++ task :: pool.running) := List.perm_middle.symm
      _ |>.Perm (queue ++ (pool.workers.set worker (.busy task)).filterMap Worker.task?) :=
        running.symm.append_left queue
  case submitted => exact before.submitted
  case outcomes => exact before.outcomes
  case staff => simpa using before.staff
  case numbers => exact before.numbers
  case harmless => exact before.harmless
  case armed => exact before.armed
  case fallen => exact Nat.le_trans before.fallen (Nat.le_of_eq silent.symm)
  case staffed => exact fun _ => silent.trans (before.staffed (.inr (by simp [queued])))
  case dropped => exact before.dropped
  case deserted =>
    intro deserted
    cases (not_deserted_of_set idle rfl).symm.trans deserted

-- The queue is dropped after the last worker.
theorem Accounted.nothing_dropped {size place : Nat} {history : History α} {pool : Pool α}
    (accounted : Accounted size history pool) {worker : Worker α}
    (present : pool.workers[place]? = some worker) (here : worker.isSilent = false) :
    history.dropped = [] := by
  by_contra dropped
  have everyone := accounted.dropped dropped
  have fallen := accounted.fallen
  have all : pool.silent = pool.workers.length := by
    refine Nat.le_antisymm List.countP_le_length ?_
    rw [accounted.staff, ← everyone]
    exact fallen
  have silent := List.countP_eq_length.mp all worker (List.mem_of_getElem? present)
  cases here.symm.trans silent

theorem fall_accounted {size worker : Nat} {history : History α} {pool : Pool α} {task : Task α}
    (before : Accounted size history pool) (busy : pool.workers[worker]? = some (.busy task))
    (armed : task.isArmed = true) :
    Accounted size { history with fallen := history.fallen ++ [task] }
      { pool with workers := pool.workers.set worker .falling } := by
  have silent : (pool.workers.set worker .falling).countP Worker.isSilent = pool.silent + 1 :=
    countP_set busy .falling Worker.isSilent
  constructor
  case tasks =>
    refine before.tasks.trans ?_
    rw [List.append_assoc, List.append_assoc]
    exact (settle_perm (running_set busy .falling).symm (history.settled_fall task)).append_left _
  case submitted => exact before.submitted
  case outcomes => exact before.outcomes
  case staff => simpa using before.staff
  case numbers => exact before.numbers
  case harmless => exact before.harmless
  case armed =>
    rw [List.forall_mem_append, List.forall_mem_singleton]
    exact ⟨before.armed, armed⟩
  case fallen =>
    rw [List.length_append, List.length_singleton]
    exact Nat.le_trans (Nat.succ_le_succ before.fallen) (Nat.le_of_eq silent.symm)
  case staffed =>
    intro work
    rw [List.length_append, List.length_singleton]
    exact silent.trans (congrArg (· + 1) (before.staffed work))
  case dropped =>
    intro dropped
    exact absurd (before.nothing_dropped busy rfl) dropped
  case deserted =>
    intro deserted
    cases (not_deserted_of_set busy rfl).symm.trans deserted

theorem report_accounted {size worker : Nat} {history : History α} {pool : Pool α} {task : Task α}
    (before : Accounted size history pool) (busy : pool.workers[worker]? = some (.busy task))
    (harmless : task.isArmed = false) :
    Accounted size { history with reported := history.reported ++ [(worker, task)] }
      { pool with
        workers := pool.workers.set worker .idle
        stream := pool.stream ++ [task.outcome worker] } := by
  have silent : (pool.workers.set worker .idle).countP Worker.isSilent = pool.silent :=
    countP_set busy .idle Worker.isSilent
  constructor
  case tasks =>
    refine before.tasks.trans ?_
    rw [List.append_assoc, List.append_assoc]
    exact (settle_perm (running_set busy .idle).symm
      (history.settled_report (worker, task))).append_left _
  case submitted => exact before.submitted
  case outcomes =>
    have sent := congrArg (· ++ [task.outcome worker]) before.outcomes
    simpa [History.outcomes] using sent
  case staff => simpa using before.staff
  case numbers =>
    obtain ⟨inside, -⟩ := List.getElem?_eq_some_iff.mp busy
    rw [List.forall_mem_append, List.forall_mem_singleton]
    exact ⟨before.numbers, before.staff ▸ inside⟩
  case harmless =>
    rw [List.forall_mem_append, List.forall_mem_singleton]
    exact ⟨before.harmless, harmless⟩
  case armed => exact before.armed
  case fallen => exact Nat.le_trans before.fallen (Nat.le_of_eq silent.symm)
  case staffed => exact fun work => silent.trans (before.staffed work)
  case dropped => exact before.dropped
  case deserted =>
    intro deserted
    cases (not_deserted_of_set busy rfl).symm.trans deserted

theorem finish_accounted {size worker : Nat} {history : History α} {pool next : Pool α}
    (before : Accounted size history pool) (moved : pool.act (.finish worker) = some next) :
    Accounted size (history.after pool (.finish worker)) next := by
  obtain ⟨task, busy, ⟨armed, rfl⟩ | ⟨harmless, rfl⟩⟩ := act_finish moved
  · have after : history.after pool (.finish worker) =
        { history with fallen := history.fallen ++ [task] } := by
      simp [History.after, busy, armed]
    rw [after]
    exact fall_accounted before busy armed
  · have after : history.after pool (.finish worker) =
        { history with reported := history.reported ++ [(worker, task)] } := by
      simp [History.after, busy, harmless]
    rw [after]
    exact report_accounted before busy harmless

-- The last worker to leave was among those that are silent.
theorem silent_of_isLast {pool : Pool α} {worker : Nat} {old : Worker α}
    (present : pool.workers[worker]? = some old) (isSilent : old.isSilent = true)
    (last : pool.isLast worker = true) : pool.silent = pool.workers.length := by
  have silent := countP_set present .gone Worker.isSilent
  have everyone : (pool.workers.set worker .gone).countP Worker.isSilent =
      (pool.workers.set worker .gone).length := by
    rw [List.countP_eq_length]
    exact fun other member => Worker.isSilent_of_isGone (List.all_eq_true.mp last other member)
  rw [everyone, List.length_set, isSilent] at silent
  exact (Nat.add_right_cancel silent).symm

theorem leave_accounted {size worker : Nat} {history : History α} {pool next : Pool α}
    (before : Accounted size history pool) (moved : pool.act (.leave worker) = some next) :
    Accounted size (history.after pool (.leave worker)) next := by
  obtain ⟨ready, rfl⟩ := act_leave moved
  -- Neither an idle nor a falling worker has a task.
  have running : (pool.dismiss worker).running.Perm pool.running := by
    rcases ready with ⟨idle, -, -⟩ | falling
    · exact running_set idle .gone
    · exact running_set falling .gone
  have silent : pool.silent ≤ (pool.dismiss worker).silent ∧
      (pool.isOpen = true ∨ pool.queue ≠ [] → (pool.dismiss worker).silent = pool.silent) := by
    rcases ready with ⟨idle, empty, closed⟩ | falling
    · have counted : (pool.dismiss worker).silent = pool.silent + 1 :=
        countP_set idle .gone Worker.isSilent
      exact ⟨by omega, by simp [empty, closed]⟩
    · have counted : (pool.dismiss worker).silent + 1 = pool.silent + 1 :=
        countP_set falling .gone Worker.isSilent
      exact ⟨by omega, fun _ => by omega⟩
  have staff : (pool.dismiss worker).workers.length = max 1 size := by
    rw [dismiss, List.length_set, before.staff]
  have fallen := Nat.le_trans before.fallen silent.1
  have staffed (work : pool.isOpen = true ∨ pool.queue ≠ []) :=
    (silent.2 work).trans (before.staffed work)
  cases last : pool.isLast worker with
  | false =>
    have queue : (pool.dismiss worker).queue = pool.queue := by simp [dismiss, last]
    rw [History.after_leave, last, if_neg Bool.false_ne_true]
    refine ⟨?_, before.submitted, before.outcomes, staff, before.numbers, before.harmless,
      before.armed, fallen, ?_, before.dropped, ?_⟩
    · rw [queue]
      exact before.tasks.trans ((running.symm.append_left _).append_right _)
    · rw [queue]
      exact staffed
    · intro deserted
      cases last.symm.trans deserted
  | true =>
    have queue : (pool.dismiss worker).queue = [] := by simp [dismiss, last]
    rw [History.after_leave, last, if_pos rfl]
    refine ⟨?_, before.submitted, before.outcomes, staff, before.numbers, before.harmless,
      before.armed, fallen, ?_, ?_, fun _ => queue⟩
    · rw [queue, List.nil_append, History.settled_drop]
      calc
        history.accepted.Perm (pool.queue ++ pool.running ++ history.settled) := before.tasks
        _ |>.Perm (pool.running ++ history.settled ++ pool.queue) := by
          rw [List.append_assoc]
          exact List.perm_append_comm
        _ |>.Perm ((pool.dismiss worker).running ++ (history.settled ++ pool.queue)) := by
          rw [List.append_assoc]
          exact running.symm.append_right _
    · rw [queue]
      exact fun work => staffed (.inl (work.resolve_right (absurd rfl)))
    · intro some
      by_cases dropped : history.dropped = []
      · have queued : pool.queue ≠ [] := by simpa [dropped] using some
        rcases ready with ⟨-, empty, -⟩ | falling
        · exact absurd empty queued
        · rw [← before.staffed (.inr queued), silent_of_isLast falling rfl last, before.staff]
      · exact before.dropped dropped

theorem receive_accounted {size : Nat} {history : History α} {pool next : Pool α}
    (before : Accounted size history pool) (moved : pool.act .receive = some next) :
    Accounted size history next := by
  obtain ⟨outcome, stream, sent, rfl⟩ := act_receive moved
  constructor
  case tasks => exact before.tasks
  case submitted => exact before.submitted
  case outcomes => simpa [sent] using before.outcomes
  case staff => exact before.staff
  case numbers => exact before.numbers
  case harmless => exact before.harmless
  case armed => exact before.armed
  case fallen => exact before.fallen
  case staffed => exact before.staffed
  case dropped => exact before.dropped
  case deserted => exact before.deserted

theorem Run.accounted {size : Nat} {history : History α} {pool : Pool α}
    (run : Run size history pool) : Accounted size history pool := by
  induction run with
  | start => exact start_accounted size
  | submit _ task accepted ih => exact submit_accounted ih accepted
  | refuse _ _ _ _ ih => exact ih
  | close _ ih => exact close_accounted ih
  | act _ action moved ih =>
    cases action with
    | take worker => exact take_accounted ih moved
    | finish worker => exact finish_accounted ih moved
    | leave worker => exact leave_accounted ih moved
    | receive => exact receive_accounted ih moved

theorem running_of_silent {pool : Pool α} (silent : pool.workers.all Worker.isSilent = true) :
    pool.running = [] := by
  refine List.filterMap_eq_nil_iff.mpr ?_
  intro worker member
  have isSilent := List.all_eq_true.mp silent worker member
  cases worker with
  | idle | busy => cases isSilent
  | falling | gone => rfl

namespace Accounted

variable {size : Nat} {history : History α} {pool : Pool α}

theorem running_length_le (accounted : Accounted size history pool) :
    pool.running.length ≤ max 1 size := by
  rw [← accounted.staff]
  exact List.length_filterMap_le _ _

theorem settled_subset (accounted : Accounted size history pool) :
    history.settled ⊆ history.accepted :=
  List.Subset.trans (List.subset_append_right _ _) accounted.tasks.symm.subset

-- An armed task is needed to lose any.
theorem nothing_lost (accounted : Accounted size history pool)
    (harmless : ∀ task ∈ history.accepted, task.isArmed = false) :
    history.fallen = [] ∧ history.dropped = [] := by
  have fallen : history.fallen = [] := by
    refine List.eq_nil_iff_forall_not_mem.mpr fun task member => ?_
    have accepted : task ∈ history.accepted :=
      accounted.settled_subset (by simp [History.settled, member])
    cases (harmless task accepted).symm.trans (accounted.armed task member)
  refine ⟨fallen, ?_⟩
  by_contra dropped
  have everyone := accounted.dropped dropped
  rw [fallen, List.length_nil] at everyone
  omega

theorem settled_of_harmless (accounted : Accounted size history pool)
    (harmless : ∀ task ∈ history.accepted, task.isArmed = false) :
    history.settled = history.reported.map Prod.snd := by
  obtain ⟨fallen, dropped⟩ := accounted.nothing_lost harmless
  simp [History.settled, fallen, dropped]

-- While there is work, a silent worker is one that fell.
theorem idle_of_silent (accounted : Accounted size history pool)
    (harmless : ∀ task ∈ history.accepted, task.isArmed = false) {worker : Worker α}
    (member : worker ∈ pool.workers) (silent : worker.isSilent = true) :
    pool.isOpen = false ∧ pool.queue = [] := by
  rw [← Bool.not_eq_true, ← not_not (a := pool.queue = []), ← not_or]
  intro work
  have none := accounted.staffed work
  rw [(accounted.nothing_lost harmless).1, List.length_nil, Pool.silent, List.countP_eq_zero] at none
  exact none worker member silent

theorem exists_worker (accounted : Accounted size history pool) :
    ∃ worker, worker ∈ pool.workers := by
  refine List.exists_mem_of_length_pos ?_
  rw [accounted.staff]
  omega

theorem not_deserted (accounted : Accounted size history pool)
    (harmless : ∀ task ∈ history.accepted, task.isArmed = false) (isOpen : pool.isOpen = true) :
    pool.isDeserted = false := by
  rw [Bool.eq_false_iff]
  intro deserted
  obtain ⟨worker, member⟩ := accounted.exists_worker
  have silent := Worker.isSilent_of_isGone (List.all_eq_true.mp deserted worker member)
  cases isOpen.symm.trans (accounted.idle_of_silent harmless member silent).1

theorem received_of_ended (accounted : Accounted size history pool) (ended : pool.hasEnded = true) :
    pool.received = history.outcomes ∧ history.accepted.Perm (pool.queue ++ history.settled) := by
  simp only [hasEnded, Bool.and_eq_true, List.isEmpty_iff] at ended
  have outcomes := accounted.outcomes
  rw [ended.1, List.append_nil] at outcomes
  have tasks := accounted.tasks
  rw [running_of_silent ended.2, List.append_nil] at tasks
  exact ⟨outcomes, tasks⟩

theorem idle_of_ended (accounted : Accounted size history pool)
    (harmless : ∀ task ∈ history.accepted, task.isArmed = false) (ended : pool.hasEnded = true) :
    pool.isOpen = false ∧ pool.queue = [] := by
  simp only [hasEnded, Bool.and_eq_true] at ended
  obtain ⟨worker, member⟩ := accounted.exists_worker
  exact accounted.idle_of_silent harmless member (List.all_eq_true.mp ended.2 worker member)

theorem ended (accounted : Accounted size history pool)
    (harmless : ∀ task ∈ history.accepted, task.isArmed = false) (ended : pool.hasEnded = true) :
    pool.isOpen = false ∧ pool.received = history.outcomes ∧
      (history.reported.map Prod.snd).Perm history.accepted := by
  obtain ⟨closed, empty⟩ := accounted.idle_of_ended harmless ended
  obtain ⟨received, tasks⟩ := accounted.received_of_ended ended
  rw [empty, List.nil_append, accounted.settled_of_harmless harmless] at tasks
  exact ⟨closed, received, tasks.symm⟩

-- At the end of the stream, one armed task is enough for an outcome to be missing.
theorem complete_iff (accounted : Accounted size history pool) (ended : pool.hasEnded = true) :
    pool.received.length = pool.submitted ↔ ∀ task ∈ history.accepted, task.isArmed = false := by
  obtain ⟨received, tasks⟩ := accounted.received_of_ended ended
  constructor
  · intro same
    have count := tasks.length_eq
    rw [← accounted.submitted, ← same, received] at count
    simp only [History.outcomes, History.settled, List.length_append, List.length_map] at count
    have queue : pool.queue = [] := List.length_eq_zero_iff.mp (by omega)
    have fallen : history.fallen = [] := List.length_eq_zero_iff.mp (by omega)
    have dropped : history.dropped = [] := List.length_eq_zero_iff.mp (by omega)
    intro task member
    have reported := tasks.subset member
    rw [queue, History.settled, fallen, dropped, List.nil_append, List.append_nil,
      List.append_nil] at reported
    obtain ⟨entry, ran, rfl⟩ := List.mem_map.mp reported
    exact accounted.harmless entry ran
  · intro harmless
    obtain ⟨-, -, all⟩ := accounted.ended harmless ended
    have count := all.length_eq
    rw [List.length_map] at count
    rw [received, History.outcomes, List.length_map, count, accounted.submitted]

end Accounted

theorem act_finish_panics {pool : Pool α} {worker : Nat} {payload : Payload}
    (busy : pool.workers[worker]? = some (.busy (.panics payload))) :
    pool.act (.finish worker) = some (
      if payload = .armed then { pool with workers := pool.workers.set worker .falling }
      else { pool with
        workers := pool.workers.set worker .idle
        stream := pool.stream ++ [.error (.taskPanicked worker payload.message)] }) := by
  cases payload <;> simp [act, busy, Task.isArmed, Task.outcome]

-- A task that panics brings its worker down if what it leaves behind is armed, and is an outcome like
-- any other if not. Without an armed task each accepted one is reported once.
theorem tasks_reported_unless_a_worker_falls (size : Nat) :
    (∀ pool : Pool α, Reachable size pool ↔ ∃ history, Run size history pool) ∧
    ∀ (history : History α) (pool : Pool α), Run size history pool →
      history.accepted.Perm (pool.queue ++ pool.running ++
        (history.reported.map Prod.snd ++ history.fallen ++ history.dropped)) ∧
      pool.received ++ pool.stream = history.outcomes ∧
      pool.submitted = history.accepted.length ∧
      pool.running.length ≤ max 1 size ∧
      pool.workers.length = max 1 size ∧
      (∀ entry ∈ history.reported, entry.1 < max 1 size ∧ entry.2.isArmed = false) ∧
      (∀ task ∈ history.fallen, task.isArmed = true) ∧
      (history.dropped ≠ [] → history.fallen.length = max 1 size) ∧
      (∀ worker payload, pool.workers[worker]? = some (.busy (.panics payload)) →
        pool.act (.finish worker) = some (
          if payload = .armed then { pool with workers := pool.workers.set worker .falling }
          else { pool with
            workers := pool.workers.set worker .idle
            stream := pool.stream ++ [.error (.taskPanicked worker payload.message)] })) ∧
      (pool.hasEnded = true → (pool.received.length = pool.submitted ↔
        ∀ task ∈ history.accepted, task.isArmed = false)) ∧
      ((∀ task ∈ history.accepted, task.isArmed = false) →
        history.fallen = [] ∧ history.dropped = [] ∧
        (∀ worker ∈ pool.workers, worker.isSilent = true → pool.isOpen = false ∧ pool.queue = []) ∧
        (pool.hasEnded = true → pool.isOpen = false ∧
          ∃ ran : List (Nat × Task α), (ran.map Prod.snd).Perm history.accepted ∧
            (∀ entry ∈ ran, entry.1 < max 1 size) ∧
            pool.received = ran.map fun entry => entry.2.outcome entry.1)) := by
  refine ⟨fun pool => reachable_iff_run, ?_⟩
  intro history pool run
  have accounted := run.accounted
  refine ⟨accounted.tasks, accounted.outcomes, accounted.submitted, accounted.running_length_le,
    accounted.staff, fun entry member => ⟨accounted.numbers entry member, accounted.harmless entry member⟩,
    accounted.armed, accounted.dropped, fun _ _ busy => act_finish_panics busy,
    accounted.complete_iff, fun harmless => ?_⟩
  obtain ⟨fallen, dropped⟩ := accounted.nothing_lost harmless
  refine ⟨fallen, dropped, fun _ member => accounted.idle_of_silent harmless member, fun ended => ?_⟩
  obtain ⟨closed, outcomes, tasks⟩ := accounted.ended harmless ended
  exact ⟨closed, history.reported, tasks, accounted.numbers, outcomes⟩

theorem tasks_reported_unless_a_worker_falls_two :
    ∃ (history : History Nat) (pool : Pool Nat), Run 2 history pool ∧ pool.hasEnded = true ∧
      history.accepted = [.returns 7, .panics (.text "boom")] ∧
      pool.received = [.error (.taskPanicked 1 "boom"), .ok 7] ∧
      ∃ ran : List (Nat × Task Nat), (ran.map Prod.snd).Perm history.accepted ∧
        (∀ entry ∈ ran, entry.1 < max 1 2) ∧
        pool.received = ran.map fun entry => entry.2.outcome entry.1 := by
  let value : Task Nat := .returns 7
  let panic : Task Nat := .panics (.text "boom")
  have taken : Run 2 ⟨[value, panic], [], [], []⟩
      ⟨true, 2, [], [.busy value, .busy panic], [], []⟩ :=
    (((Run.start.submit value rfl).submit panic rfl).act (.take 0) rfl).act (.take 1) rfl
  have closed : Run 2 ⟨[value, panic], [(1, panic), (0, value)], [], []⟩
      ⟨false, 2, [], [.idle, .idle], [panic.outcome 1, value.outcome 0], []⟩ :=
    ((taken.act (.finish 1) rfl).close).act (.finish 0) rfl
  have run : Run 2 ⟨[value, panic], [(1, panic), (0, value)], [], []⟩
      ⟨false, 2, [], [.gone, .gone], [], [panic.outcome 1, value.outcome 0]⟩ :=
    (((closed.act (.leave 1) rfl).act (.leave 0) rfl).act .receive rfl).act .receive rfl
  have harmless : ∀ task ∈ [value, panic], task.isArmed = false := by simp [value, panic, Task.isArmed]
  refine ⟨_, _, run, rfl, rfl, rfl, ?_⟩
  obtain ⟨-, -, -, -, -, -, -, -, -, -, whole⟩ :=
    (tasks_reported_unless_a_worker_falls 2).2 _ _ run
  obtain ⟨-, -, -, ended⟩ := whole harmless
  exact (ended rfl).2

-- The only worker falls over the first task, and the second one is dropped with the queue.
theorem no_outcome_of_armed_task :
    let armed : Task Nat := .panics .armed
    let value : Task Nat := .returns 7
    let pool : Pool Nat := ⟨false, 2, [], [.gone], [], []⟩
    Run 1 ⟨[armed, value], [], [armed], [value]⟩ pool ∧ pool.hasEnded = true ∧
      ¬ ∃ ran : List (Nat × Task Nat), (ran.map Prod.snd).Perm [armed, value] ∧
        pool.received = ran.map fun entry => entry.2.outcome entry.1 := by
  intro armed value pool
  have taken : Run 1 ⟨[armed, value], [], [], []⟩ ⟨true, 2, [value], [.busy armed], [], []⟩ :=
    ((Run.start.submit armed rfl).submit value rfl).act (.take 0) rfl
  have fallen : Run 1 ⟨[armed, value], [], [armed], []⟩ ⟨true, 2, [value], [.falling], [], []⟩ :=
    taken.act (.finish 0) rfl
  refine ⟨(fallen.act (.leave 0) rfl).close, rfl, ?_⟩
  rintro ⟨ran, tasks, received⟩
  have none : ran = [] := List.map_eq_nil_iff.mp received.symm
  have count := tasks.length_eq
  rw [none] at count
  cases count

end Pool

end InterfaceDraft.Extraction
