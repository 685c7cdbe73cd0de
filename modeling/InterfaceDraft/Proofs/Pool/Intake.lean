import InterfaceDraft.Proofs.Pool.Completion

set_option autoImplicit false

namespace InterfaceDraft.Extraction

namespace Intake

-- What becomes of a task that is given to the channel.
inductive Reply where
  | accepted
  | noSender
  | noReceiver
  deriving DecidableEq

def Reply.result : Reply → Except PoolError Unit
  | .accepted => .ok ()
  | .noSender => .error .closed
  | .noReceiver => .error .closed

end Intake

inductive Call (α : Type) where
  | submit (task : Task α) (reply : Intake.Reply)
  | close

def Call.isArmed {α : Type} : Call α → Bool
  | .submit task _ => task.isArmed
  | .close => false

-- A pool with the channel of its tasks and the calls that were made on it. Tasks are told apart by
-- the number of the call that brought them.
structure Intake (α : Type) where
  pool : Pool α
  -- How many receivers of the channel have not been dropped.
  receivers : Nat
  calls : List (Call α)
  -- The calls whose tasks are in the channel, in order.
  waiting : List Nat
  -- The calls whose tasks a worker has taken to run them, in order.
  taken : List Nat
  -- The calls whose tasks were dropped with the channel, in order.
  dropped : List Nat

namespace Intake

variable {α : Type}

-- The channel is made with one receiver, which is dropped when each worker has its copy.
def start (size : Nat) : Intake α :=
  ⟨.start size, 1 + max 1 size - 1, [], [], [], []⟩

def reply (state : Intake α) : Reply :=
  if state.pool.isOpen then
    if state.receivers = 0 then .noReceiver else .accepted
  else .noSender

def submit (state : Intake α) (task : Task α) : Intake α × Reply :=
  let called := { state with calls := state.calls ++ [.submit task state.reply] }
  match state.reply with
  | .accepted =>
    ({ called with
      pool := { state.pool with
        queue := state.pool.queue ++ [task]
        submitted := state.pool.submitted + 1 }
      waiting := state.waiting ++ [state.calls.length] }, .accepted)
  | refusal => (called, refusal)

def close (state : Intake α) : Intake α :=
  { state with pool := state.pool.close, calls := state.calls ++ [.close] }

-- A worker that takes a task takes the one that has waited longest. One that leaves drops its
-- receiver, and with the last one goes what is in the channel.
def act (state : Intake α) (action : Pool.Action) : Option (Intake α) :=
  (state.pool.act action).map fun next =>
    match action with
    | .take _ => { state with
        pool := next
        waiting := state.waiting.drop 1
        taken := state.taken ++ state.waiting.take 1 }
    | .leave _ =>
      if state.receivers - 1 = 0 then { state with
        pool := next
        receivers := 0
        waiting := []
        dropped := state.dropped ++ state.waiting }
      else { state with pool := next, receivers := state.receivers - 1 }
    | .finish _ | .receive => { state with pool := next }

-- The states that can be come to, under any calls and any order of moves.
inductive Reached (size : Nat) : Intake α → Prop
  | start : Reached size (Intake.start size)
  | submit {state : Intake α} (before : Reached size state) (task : Task α) :
      Reached size (state.submit task).1
  | close {state : Intake α} (before : Reached size state) : Reached size state.close
  | act {state next : Intake α} (before : Reached size state) (action : Pool.Action)
      (moved : state.act action = some next) : Reached size next

end Intake

namespace Pool

variable {α : Type}

theorem isDeserted_iff {pool : Pool α} : pool.isDeserted = true ↔ pool.present = 0 := by
  rw [isDeserted, present, List.all_eq_true, List.countP_eq_zero]
  simp

-- A worker that ends a task keeps its end of the queue, even if it falls.
theorem act_finish_keeps {pool next : Pool α} {worker : Nat}
    (moved : pool.act (.finish worker) = some next) :
    next.queue = pool.queue ∧ next.present = pool.present := by
  obtain ⟨task, busy, ⟨-, rfl⟩ | ⟨-, rfl⟩⟩ := act_finish moved
  · exact ⟨rfl, Nat.add_right_cancel (countP_set busy .falling (!Worker.isGone ·))⟩
  · exact ⟨rfl, Nat.add_right_cancel (countP_set busy .idle (!Worker.isGone ·))⟩

-- Who is still there has an end of the queue.
theorem Accounted.everyone_fell {size : Nat} {history : History α} {pool : Pool α}
    (accounted : Accounted size history pool) (isOpen : pool.isOpen = true) (none : pool.present = 0) :
    history.fallen.length = max 1 size := by
  rw [← accounted.staffed (.inl isOpen), ← accounted.staff, silent, List.countP_eq_length]
  exact fun worker member =>
    Worker.isSilent_of_isGone (List.all_eq_true.mp (isDeserted_iff.mpr none) worker member)

end Pool

namespace Intake

variable {α : Type}

def accepting (task : Task α) : Call α := .submit task .accepted

-- The accepted tasks are those of the first calls, and they leave the channel in order.
structure Tracks (size : Nat) (history : Pool.History α) (state : Intake α) : Prop where
  run : Pool.Run size history state.pool
  isOpen : state.pool.isOpen = true ↔ .close ∉ state.calls
  calls : history.accepted.map accepting <+: state.calls
  whole : state.reply = .accepted → state.calls = history.accepted.map accepting
  receivers : state.receivers = state.pool.present
  numbers : state.taken ++ state.dropped ++ state.waiting = List.range history.accepted.length
  queue : state.waiting.map (history.accepted[·]?) = state.pool.queue.map some
  dropped : state.dropped.map (history.accepted[·]?) = history.dropped.map some

theorem start_tracks (size : Nat) : Tracks size .empty (start size : Intake α) where
  run := .start
  isOpen := by simp [start, Pool.start]
  calls := List.nil_prefix
  whole _ := rfl
  receivers := by
    have here : (!Worker.isGone (.idle : Worker α)) = true := rfl
    simp [start, Pool.start, Pool.present, List.countP_replicate, here]
  numbers := rfl
  queue := rfl
  dropped := rfl

theorem reply_eq_accepted_iff {state : Intake α} :
    state.reply = .accepted ↔ state.pool.isOpen = true ∧ state.receivers ≠ 0 := by
  unfold reply
  split
  next isOpen => split <;> simp_all
  next => simp_all

theorem submit_of_accepted {state : Intake α} (accepted : state.reply = .accepted) (task : Task α) :
    state.submit task =
      ({ state with
        pool := { state.pool with
          queue := state.pool.queue ++ [task]
          submitted := state.pool.submitted + 1 }
        calls := state.calls ++ [accepting task]
        waiting := state.waiting ++ [state.calls.length] }, .accepted) := by
  rw [submit, accepted]
  rfl

theorem submit_of_refused {state : Intake α} (refused : state.reply ≠ .accepted) (task : Task α) :
    state.submit task =
      ({ state with calls := state.calls ++ [.submit task state.reply] }, state.reply) := by
  unfold submit
  split
  next accepted => exact absurd accepted refused
  next => rfl

-- The channel has a receiver as long as the pool has a worker.
theorem Tracks.submit_eq {size : Nat} {history : Pool.History α} {state : Intake α}
    (tracks : Tracks size history state) (task : Task α) :
    state.pool.submit task = state.reply.result.map fun _ => { state.pool with
      queue := state.pool.queue ++ [task]
      submitted := state.pool.submitted + 1 } := by
  cases isOpen : state.pool.isOpen with
  | false => simp [Pool.submit, reply, isOpen, Reply.result, Except.map]
  | true =>
    by_cases none : state.receivers = 0
    · have deserted := Pool.isDeserted_iff.mpr (tracks.receivers.symm.trans none)
      simp [Pool.submit, reply, isOpen, none, deserted, Reply.result, Except.map]
    · have staffed : state.pool.isDeserted = false := by
        rw [Bool.eq_false_iff, Ne, Pool.isDeserted_iff, ← tracks.receivers]
        exact none
      simp [Pool.submit, reply, isOpen, none, staffed, Reply.result, Except.map]

theorem map_accepted_append {tasks : List (Task α)} {numbers : List Nat} (task : Task α)
    (inside : ∀ number ∈ numbers, number < tasks.length) :
    numbers.map ((tasks ++ [task])[·]?) = numbers.map (tasks[·]?) :=
  List.map_congr_left fun number member => List.getElem?_append_left (inside number member)

theorem submit_tracks {size : Nat} {history : Pool.History α} {state : Intake α}
    (before : Tracks size history state) (task : Task α) :
    ∃ later, Tracks size later (state.submit task).1 := by
  by_cases accepted : state.reply = .accepted
  · have taken := before.submit_eq task
    rw [accepted] at taken
    rw [submit_of_accepted accepted]
    have calls := before.whole accepted
    have inside : ∀ number ∈ state.taken ++ state.dropped ++ state.waiting,
        number < history.accepted.length := by
      intro number member
      rwa [before.numbers, List.mem_range] at member
    refine ⟨_, before.run.submit task taken, ?_, ?_, ?_, before.receivers, ?_, ?_, ?_⟩
    · simp [before.isOpen, accepting]
    · simp [Pool.History.accept, calls]
    · intro _
      simp [Pool.History.accept, calls]
    · simp [Pool.History.accept, calls, ← List.append_assoc, before.numbers, List.range_succ]
    · have earlier := map_accepted_append task fun number member =>
        inside number (List.mem_append_right _ member)
      simp [Pool.History.accept, calls, earlier, before.queue]
    · exact (map_accepted_append task fun number member =>
        inside number (by simp [member])).trans before.dropped
  · rw [submit_of_refused accepted]
    refine ⟨history, before.run, ?_, ?_, ?_, before.receivers, before.numbers, before.queue,
      before.dropped⟩
    · simp [before.isOpen]
    · exact before.calls.trans (List.prefix_append _ _)
    · intro contrary
      exact absurd contrary accepted

theorem close_tracks {size : Nat} {history : Pool.History α} {state : Intake α}
    (before : Tracks size history state) : Tracks size history state.close where
  run := before.run.close
  isOpen := by simp [close, Pool.close]
  calls := before.calls.trans (List.prefix_append _ _)
  whole accepted := by
    obtain ⟨isOpen, -⟩ := reply_eq_accepted_iff.mp accepted
    cases isOpen
  receivers := before.receivers
  numbers := before.numbers
  queue := before.queue
  dropped := before.dropped

-- Moves of workers and consumer neither open the pool nor bring receivers back.
theorem Tracks.whole_after {size : Nat} {history : Pool.History α} {state next : Intake α}
    (before : Tracks size history state) (isOpen : next.pool.isOpen = state.pool.isOpen)
    (receivers : next.receivers ≤ state.receivers) (calls : next.calls = state.calls)
    (accepted : next.reply = .accepted) : next.calls = history.accepted.map accepting := by
  rw [calls]
  refine before.whole (reply_eq_accepted_iff.mpr ?_)
  rw [reply_eq_accepted_iff, isOpen] at accepted
  exact ⟨accepted.1, by omega⟩

theorem leave_tracks {size worker : Nat} {history : Pool.History α} {state next : Intake α}
    (before : Tracks size history state) (moved : state.act (.leave worker) = some next) :
    Tracks size (history.after state.pool (.leave worker)) next := by
  obtain ⟨pool, acted, rfl⟩ := Option.map_eq_some_iff.mp moved
  have run := before.run.act (.leave worker) acted
  obtain ⟨ready, rfl⟩ := Pool.act_leave acted
  have present : (state.pool.dismiss worker).present = state.receivers - 1 := by
    rw [before.receivers]
    rcases ready with ⟨idle, -, -⟩ | falling
    · exact Nat.eq_sub_of_add_eq (Pool.countP_set idle .gone (!Worker.isGone ·))
    · exact Nat.eq_sub_of_add_eq (Pool.countP_set falling .gone (!Worker.isGone ·))
  have last : state.pool.isLast worker = true ↔ state.receivers - 1 = 0 := by
    rw [← present]
    exact @Pool.isDeserted_iff _ (state.pool.dismiss worker)
  rw [Pool.History.after_leave] at run ⊢
  by_cases none : state.receivers - 1 = 0
  · have isLast := last.mpr none
    rw [isLast, if_pos rfl] at run ⊢
    simp only [none, if_true]
    refine ⟨run, before.isOpen, before.calls, before.whole_after rfl (Nat.zero_le _) rfl,
      (present.trans none).symm, ?_, ?_, ?_⟩
    · rw [List.append_nil, ← List.append_assoc]
      exact before.numbers
    · simp [Pool.dismiss, isLast]
    · simp [before.queue, before.dropped]
  · have more : state.pool.isLast worker = false := Bool.eq_false_iff.mpr (mt last.mp none)
    rw [more, if_neg Bool.false_ne_true] at run ⊢
    simp only [none, if_false]
    refine ⟨run, before.isOpen, before.calls, before.whole_after rfl (Nat.sub_le _ _) rfl,
      present.symm, before.numbers, ?_, before.dropped⟩
    simpa [Pool.dismiss, more] using before.queue

theorem act_tracks {size : Nat} {history : Pool.History α} {state next : Intake α}
    {action : Pool.Action} (before : Tracks size history state)
    (moved : state.act action = some next) :
    Tracks size (history.after state.pool action) next := by
  cases action with
  | leave worker => exact leave_tracks before moved
  | take worker =>
    obtain ⟨pool, acted, rfl⟩ := Option.map_eq_some_iff.mp moved
    have run := before.run.act (.take worker) acted
    obtain ⟨task, queue, idle, queued, rfl⟩ := Pool.act_take acted
    have present := Pool.countP_set idle (.busy task) (!Worker.isGone ·)
    -- The worker is still there, so the channel is as well.
    have none : state.dropped = [] := by
      have dropped := before.dropped
      rw [before.run.accounted.nothing_dropped idle rfl] at dropped
      exact List.map_eq_nil_iff.mp dropped
    refine ⟨run, before.isOpen, before.calls, before.whole_after rfl (Nat.le_refl _) rfl, ?_, ?_, ?_,
      before.dropped⟩
    · exact before.receivers.trans (Nat.add_right_cancel present).symm
    · have numbers := before.numbers
      rw [none, List.append_nil] at numbers
      rw [none, List.append_nil, List.append_assoc, List.take_append_drop]
      exact numbers
    · have rest := congrArg (List.drop 1) before.queue
      rwa [← List.map_drop, queued] at rest
  | finish worker =>
    obtain ⟨pool, acted, rfl⟩ := Option.map_eq_some_iff.mp moved
    have run := before.run.act (.finish worker) acted
    have accepted := history.after_accepted state.pool (.finish worker)
    have dropped := history.after_finish_dropped state.pool worker
    obtain ⟨isOpen, -⟩ := Pool.act_keeps acted
    obtain ⟨queue, present⟩ := Pool.act_finish_keeps acted
    refine ⟨run, ?_, ?_, ?_, before.receivers.trans present.symm, ?_, ?_, ?_⟩
    · rw [isOpen]
      exact before.isOpen
    · rw [accepted]
      exact before.calls
    · rw [accepted]
      exact before.whole_after isOpen (Nat.le_refl _) rfl
    · rw [accepted]
      exact before.numbers
    · rw [accepted, queue]
      exact before.queue
    · rw [accepted, dropped]
      exact before.dropped
  | receive =>
    obtain ⟨pool, acted, rfl⟩ := Option.map_eq_some_iff.mp moved
    have run := before.run.act .receive acted
    obtain ⟨outcome, stream, -, rfl⟩ := Pool.act_receive acted
    exact ⟨run, before.isOpen, before.calls, before.whole_after rfl (Nat.le_refl _) rfl,
      before.receivers, before.numbers, before.queue, before.dropped⟩

theorem Reached.tracks {size : Nat} {state : Intake α} (reached : Reached size state) :
    ∃ history, Tracks size history state := by
  induction reached with
  | start => exact ⟨_, start_tracks size⟩
  | submit _ task ih =>
    obtain ⟨history, before⟩ := ih
    exact submit_tracks before task
  | close _ ih =>
    obtain ⟨history, before⟩ := ih
    exact ⟨history, close_tracks before⟩
  | act _ action moved ih =>
    obtain ⟨history, before⟩ := ih
    exact ⟨_, act_tracks before moved⟩

theorem Tracks.call_of_number {size : Nat} {history : Pool.History α} {state : Intake α}
    (tracks : Tracks size history state) {number : Nat}
    (member : number ∈ state.taken ++ state.dropped ++ state.waiting) :
    number < history.accepted.length ∧
      state.calls[number]? = (history.accepted[number]?).map accepting := by
  rw [tracks.numbers, List.mem_range] at member
  refine ⟨member, ?_⟩
  obtain ⟨rest, calls⟩ := tracks.calls
  have inside : number < (history.accepted.map accepting).length := by rwa [List.length_map]
  rw [← calls, List.getElem?_append_left inside, List.getElem?_map]

theorem Tracks.map_calls {size : Nat} {history : Pool.History α} {state : Intake α}
    (tracks : Tracks size history state) {numbers : List Nat}
    (among : numbers ⊆ state.taken ++ state.dropped ++ state.waiting) :
    numbers.map (state.calls[·]?) =
      (numbers.map (history.accepted[·]?)).map (Option.map accepting) := by
  rw [List.map_map]
  exact List.map_congr_left fun number member => (tracks.call_of_number (among member)).2

-- What was taken out of the channel is being run, was reported or brought its worker down.
theorem Tracks.taken_perm {size : Nat} {history : Pool.History α} {state : Intake α}
    (tracks : Tracks size history state) :
    (state.taken.map (history.accepted[·]?)).Perm
      ((state.pool.running ++ history.reported.map Prod.snd ++ history.fallen).map some) := by
  have all : state.taken.map (history.accepted[·]?) ++
      (history.dropped ++ state.pool.queue).map some = history.accepted.map some := by
    rw [List.map_append, ← tracks.queue, ← tracks.dropped, ← List.map_append, ← List.map_append,
      ← List.append_assoc, tracks.numbers]
    apply List.ext_getElem?
    intro number
    by_cases inside : number < history.accepted.length <;> simp [inside]
  have tasks : history.accepted.Perm
      (state.pool.running ++ history.reported.map Prod.snd ++ history.fallen ++
        (history.dropped ++ state.pool.queue)) := by
    refine tracks.run.accounted.tasks.trans ?_
    simp only [Pool.History.settled, List.append_assoc]
    refine List.perm_append_comm.trans ?_
    simp only [List.append_assoc]
    exact .refl _
  have settled := tasks.map some
  rw [List.map_append, ← all] at settled
  exact (List.perm_append_right_iff _).mp settled

-- Each worker takes an armed task to fall.
theorem Tracks.receivers_ne_zero {size : Nat} {history : Pool.History α} {state : Intake α}
    (tracks : Tracks size history state) (isOpen : state.pool.isOpen = true)
    (few : state.calls.countP Call.isArmed < max 1 size) : state.receivers ≠ 0 := by
  intro none
  have accounted := tracks.run.accounted
  have everyone := accounted.everyone_fell isOpen (tracks.receivers.symm.trans none)
  have armed : history.fallen.countP Task.isArmed = history.fallen.length :=
    List.countP_eq_length.mpr accounted.armed
  have accepted : history.fallen.countP Task.isArmed ≤ history.accepted.countP Task.isArmed := by
    rw [accounted.tasks.countP_eq, List.countP_append, Pool.History.settled, List.countP_append,
      List.countP_append, List.countP_append]
    omega
  have called : history.accepted.countP Task.isArmed ≤ state.calls.countP Call.isArmed := by
    have same : (history.accepted.map accepting).countP Call.isArmed =
        history.accepted.countP Task.isArmed := List.countP_map
    rw [← same]
    exact tracks.calls.sublist.countP_le
  omega

theorem reached_of_reachable {size : Nat} {pool : Pool α} (reachable : Pool.Reachable size pool) :
    ∃ state : Intake α, Reached size state ∧ state.pool = pool := by
  induction reachable with
  | start => exact ⟨_, .start, rfl⟩
  | step _ step ih =>
    obtain ⟨state, reached, rfl⟩ := ih
    cases step with
    | act action moved =>
      obtain ⟨later, acted⟩ : ∃ later, state.act action = some later := by simp [act, moved]
      obtain ⟨pool, found, rfl⟩ := Option.map_eq_some_iff.mp acted
      obtain rfl := Option.some.inj (found.symm.trans moved)
      refine ⟨_, reached.act action acted, ?_⟩
      cases action with
      | leave worker =>
        simp only
        split <;> rfl
      | take | finish | receive => rfl
    | submit task accepted =>
      obtain ⟨_, tracks⟩ := reached.tracks
      refine ⟨_, reached.submit task, ?_⟩
      rw [tracks.submit_eq task] at accepted
      by_cases reply : state.reply = .accepted
      · rw [submit_of_accepted reply]
        rw [reply] at accepted
        exact Except.ok.inj accepted
      · cases refusal : state.reply with
        | accepted => exact absurd refusal reply
        | noSender | noReceiver =>
          rw [refusal] at accepted
          cases accepted
    | close => exact ⟨_, reached.close, rfl⟩

-- A task is refused if the sending end of the channel was dropped, or if all workers have fallen. A
-- refused task is never run.
theorem submit_succeeds_while_workers_are_left (size : Nat) :
    (∀ pool : Pool α, Pool.Reachable size pool ↔
      ∃ state : Intake α, Reached size state ∧ state.pool = pool) ∧
    ∀ state : Intake α, Reached size state →
      (state.pool.isOpen = true ↔ .close ∉ state.calls) ∧
      (state.calls.countP Call.isArmed < max 1 size → .close ∉ state.calls → state.receivers ≠ 0) ∧
      (∀ task,
        let answer := state.submit task
        state.pool.submit task = answer.2.result.map (fun _ => answer.1.pool) ∧
        (answer.2.result = .ok () ↔ .close ∉ state.calls ∧ state.receivers ≠ 0) ∧
        (answer.2 = .noReceiver ↔ .close ∉ state.calls ∧ state.receivers = 0) ∧
        (answer.2.result = .ok () → answer.1.pool = { state.pool with
          queue := state.pool.queue ++ [task]
          submitted := state.pool.submitted + 1 }) ∧
        (answer.2.result ≠ .ok () → answer.2.result = .error .closed ∧
          answer.1 = { state with calls := state.calls ++ [.submit task answer.2] })) ∧
      (state.taken ++ state.dropped ++ state.waiting).Nodup ∧
      (∀ number ∈ state.taken ++ state.dropped ++ state.waiting,
        ∃ task, state.calls[number]? = some (.submit task .accepted)) ∧
      ∃ history, Pool.Run size history state.pool ∧
        (.close ∉ state.calls → state.receivers = 0 → history.fallen.length = max 1 size) ∧
        state.waiting.map (state.calls[·]?) =
          state.pool.queue.map (fun task => some (.submit task .accepted)) ∧
        state.dropped.map (state.calls[·]?) =
          history.dropped.map (fun task => some (.submit task .accepted)) ∧
        (state.taken.map (state.calls[·]?)).Perm
          ((state.pool.running ++ history.reported.map Prod.snd ++ history.fallen).map fun task =>
            some (.submit task .accepted)) := by
  refine ⟨fun pool => ⟨reached_of_reachable, ?_⟩, fun state reached => ?_⟩
  · rintro ⟨state, reached, rfl⟩
    obtain ⟨history, tracks⟩ := reached.tracks
    exact Pool.reachable_iff_run.mpr ⟨history, tracks.run⟩
  obtain ⟨history, tracks⟩ := reached.tracks
  refine ⟨tracks.isOpen, fun few never => tracks.receivers_ne_zero (tracks.isOpen.mpr never) few,
    fun task => ?_, ?_, ?_, history, tracks.run, ?_, ?_, ?_, ?_⟩
  · intro answer
    have result := tracks.submit_eq task
    rw [← tracks.isOpen]
    by_cases accepted : state.reply = .accepted
    · have submitted : answer = _ := submit_of_accepted accepted task
      obtain ⟨isOpen, some⟩ := reply_eq_accepted_iff.mp accepted
      rw [accepted] at result
      simp [submitted, result, Reply.result, isOpen, some]
    · have refused : answer = _ := submit_of_refused accepted task
      rw [result]
      unfold reply at accepted refused ⊢
      split at refused
      next isOpen =>
        split at refused
        next none => simp [refused, isOpen, none, Reply.result, Except.map]
        next some => simp [isOpen, some] at accepted
      next closed => simp [refused, closed, Reply.result, Except.map]
  · rw [tracks.numbers]
    exact List.nodup_range
  · intro number member
    obtain ⟨inside, call⟩ := tracks.call_of_number member
    rw [List.getElem?_eq_getElem inside] at call
    exact ⟨_, call⟩
  · intro never none
    exact tracks.run.accounted.everyone_fell (tracks.isOpen.mpr never)
      (tracks.receivers.symm.trans none)
  · rw [tracks.map_calls (List.subset_append_right _ _), tracks.queue, List.map_map]
    rfl
  · have among : state.dropped ⊆ state.taken ++ state.dropped ++ state.waiting :=
      List.Subset.trans (List.subset_append_right _ _) (List.subset_append_left _ _)
    rw [tracks.map_calls among, tracks.dropped, List.map_map]
    rfl
  · have among : state.taken ⊆ state.taken ++ state.dropped ++ state.waiting :=
      List.Subset.trans (List.subset_append_left _ _) (List.subset_append_left _ _)
    have taken := tracks.taken_perm.map (Option.map accepting)
    rwa [← tracks.map_calls among, List.map_map] at taken

-- The only worker is through a task that panics. The pool still takes tasks, until it is closed.
theorem submit_succeeds_while_workers_are_left_panic :
    let panic : Task Nat := .panics (.text "boom")
    let state : Intake Nat :=
      ⟨⟨true, 1, [], [.idle], [panic.outcome 0], []⟩, 1, [.submit panic .accepted], [], [0], []⟩
    Reached 0 state ∧ (state.submit (.returns 7)).2.result = .ok () ∧
      (state.close.submit (.returns 7)).2.result = .error .closed ∧
      (state.close.submit (.returns 7)).1.pool.queue = [] := by
  intro panic state
  have reached : Reached 0 state :=
    ((Reached.start.submit panic).act (.take 0) rfl).act (.finish 0) rfl
  obtain ⟨-, whileFew, whileOpen, -⟩ := (submit_succeeds_while_workers_are_left 0).2 state reached
  obtain ⟨-, -, afterwards, -⟩ :=
    (submit_succeeds_while_workers_are_left 0).2 state.close reached.close
  obtain ⟨-, accepted, -⟩ := whileOpen (.returns 7)
  obtain ⟨-, acceptedThen, -, -, refused⟩ := afterwards (.returns 7)
  have never : Call.close ∉ state.calls := by simp [state]
  have some : state.receivers ≠ 0 := whileFew (by decide) never
  have called : Call.close ∈ state.close.calls := by simp [close]
  obtain ⟨error, same⟩ := refused fun contrary => (acceptedThen.mp contrary).1 called
  refine ⟨reached, accepted.mpr ⟨never, some⟩, error, ?_⟩
  rw [same]
  rfl

-- The only worker has fallen, and the pool was never closed.
theorem open_pool_refuses :
    let armed : Task Nat := .panics .armed
    let state : Intake Nat :=
      ⟨⟨true, 1, [], [.gone], [], []⟩, 0, [.submit armed .accepted], [], [0], []⟩
    Reached 1 state ∧ .close ∉ state.calls ∧
      (state.submit (.returns 7)).2 = .noReceiver ∧
      (state.submit (.returns 7)).2.result = .error .closed := by
  intro armed state
  have taken : Reached 1 (⟨⟨true, 1, [], [.busy armed], [], []⟩, 1, [.submit armed .accepted], [], [0],
      []⟩ : Intake Nat) :=
    (Reached.start.submit armed).act (.take 0) rfl
  have fallen : Reached 1 (⟨⟨true, 1, [], [.falling], [], []⟩, 1, [.submit armed .accepted], [], [0],
      []⟩ : Intake Nat) :=
    taken.act (.finish 0) rfl
  exact ⟨fallen.act (.leave 0) rfl, by simp [state], rfl, rfl⟩

end Intake

end InterfaceDraft.Extraction
