import InterfaceDraft.Proofs.Pool.Accounting
import Mathlib.Data.List.TakeWhile

set_option autoImplicit false

namespace InterfaceDraft.Extraction

namespace Pool

variable {α : Type}

-- One worker takes the tasks as they were submitted, and reports each before it takes the next.
def InOrder (history : History α) (pool : Pool α) : Prop :=
  history.accepted = history.reported.map Prod.snd ++ history.fallen ++ pool.running ++
    history.dropped ++ pool.queue

theorem lone_worker {workers : List (Worker α)} {place : Nat} {worker : Worker α}
    (alone : workers.length = 1) (present : workers[place]? = some worker) :
    place = 0 ∧ workers = [worker] := by
  obtain ⟨only, rfl⟩ := List.length_eq_one_iff.mp alone
  obtain ⟨inside, same⟩ := List.getElem?_eq_some_iff.mp present
  have first : place = 0 := by simpa using inside
  subst first
  exact ⟨rfl, by simpa using same⟩

theorem running_of_single (worker : Worker α) :
    [worker].filterMap Worker.task? = worker.task?.toList := by
  cases worker <;> rfl

theorem submit_inOrder {history : History α} {pool next : Pool α} {task : Task α}
    (before : InOrder history pool) (accepted : pool.submit task = .ok next) :
    InOrder (history.accept task) next := by
  obtain ⟨-, -, rfl⟩ := submit_ok accepted
  have longer := congrArg (· ++ [task]) before
  simpa [InOrder, History.accept, running] using longer

-- The only worker is still there, so nothing was lost.
theorem nothing_fallen {size place : Nat} {history : History α} {pool : Pool α} {worker : Worker α}
    (accounted : Accounted size history pool) (alone : pool.workers.length = 1)
    (present : pool.workers[place]? = some worker) (here : worker.isSilent = false) :
    history.fallen = [] ∧ history.dropped = [] := by
  refine ⟨?_, accounted.nothing_dropped present here⟩
  obtain ⟨-, workers⟩ := lone_worker alone present
  have fallen := accounted.fallen
  rw [silent, workers, List.countP_singleton, here] at fallen
  exact List.length_eq_zero_iff.mp (Nat.le_zero.mp fallen)

theorem act_inOrder {size : Nat} {history : History α} {pool next : Pool α} {action : Action}
    (accounted : Accounted size history pool) (alone : pool.workers.length = 1)
    (before : InOrder history pool) (moved : pool.act action = some next) :
    InOrder (history.after pool action) next := by
  unfold InOrder running at before ⊢
  cases action with
  | take worker =>
    obtain ⟨task, queue, idle, queued, rfl⟩ := act_take moved
    obtain ⟨fallen, dropped⟩ := nothing_fallen accounted alone idle rfl
    obtain ⟨rfl, workers⟩ := lone_worker alone idle
    rw [workers, queued, fallen, dropped] at before
    simpa [workers, History.after, running_of_single, Worker.task?, fallen, dropped] using before
  | finish worker =>
    obtain ⟨task, busy, ended⟩ := act_finish moved
    obtain ⟨fallen, dropped⟩ := nothing_fallen accounted alone busy rfl
    obtain ⟨rfl, workers⟩ := lone_worker alone busy
    rw [workers, fallen, dropped] at before
    rcases ended with ⟨armed, rfl⟩ | ⟨harmless, rfl⟩
    · simpa [workers, History.after, running_of_single, Worker.task?, armed, fallen, dropped]
        using before
    · simpa [workers, History.after, running_of_single, Worker.task?, harmless, fallen, dropped]
        using before
  | leave worker =>
    obtain ⟨ready, rfl⟩ := act_leave moved
    have last : worker = 0 ∧ pool.workers.filterMap Worker.task? = [] ∧
        pool.workers.set worker .gone = [.gone] := by
      rcases ready with ⟨idle, -, -⟩ | falling
      · obtain ⟨rfl, workers⟩ := lone_worker alone idle
        simp [workers, running_of_single, Worker.task?]
      · obtain ⟨rfl, workers⟩ := lone_worker alone falling
        simp [workers, running_of_single, Worker.task?]
    obtain ⟨rfl, running, workers⟩ := last
    rw [running] at before
    simpa [History.after, dismiss, isLast, workers, Worker.isGone, running_of_single, Worker.task?]
      using before
  | receive =>
    obtain ⟨outcome, stream, -, rfl⟩ := act_receive moved
    exact before

theorem Run.inOrder {size : Nat} (single : size ≤ 1) {history : History α} {pool : Pool α}
    (run : Run size history pool) : InOrder history pool := by
  induction run with
  | start =>
    rw [InOrder, running, Pool.start, Nat.max_eq_left single]
    rfl
  | submit _ task accepted ih => exact submit_inOrder ih accepted
  | refuse _ _ _ _ ih => exact ih
  | close _ ih => exact ih
  | act before action moved ih =>
    have alone := before.accounted.staff
    rw [Nat.max_eq_left single] at alone
    exact act_inOrder before.accounted alone ih moved

-- The only worker there is has number 0.
theorem Accounted.outcomes_of_single {size : Nat} (single : size ≤ 1) {history : History α}
    {pool : Pool α} (accounted : Accounted size history pool) :
    pool.received ++ pool.stream = (history.reported.map Prod.snd).map (Task.outcome 0) := by
  rw [accounted.outcomes, History.outcomes, List.map_map]
  refine List.map_congr_left ?_
  intro entry member
  have number := accounted.numbers entry member
  rw [Nat.max_eq_left single, Nat.lt_one_iff] at number
  rw [number]
  rfl

-- The tasks that a lone worker survives.
def harmlessPart (tasks : List (Task α)) : List (Task α) :=
  tasks.takeWhile fun task => !task.isArmed

theorem harmlessPart_eq_self_iff {tasks : List (Task α)} :
    harmlessPart tasks = tasks ↔ ∀ task ∈ tasks, task.isArmed = false := by
  simp [harmlessPart, List.takeWhile_eq_self_iff]

theorem Accounted.harmlessPart_eq {size : Nat} {history : History α} {pool : Pool α}
    (accounted : Accounted size history pool) (inOrder : InOrder history pool) :
    harmlessPart history.accepted = history.reported.map Prod.snd ++
      harmlessPart (history.fallen ++ pool.running ++ history.dropped ++ pool.queue) := by
  have harmless : ∀ task ∈ history.reported.map Prod.snd, (!task.isArmed) = true := by
    intro task member
    obtain ⟨entry, reported, rfl⟩ := List.mem_map.mp member
    rw [accounted.harmless entry reported, Bool.not_false]
  rw [inOrder]
  simp only [List.append_assoc]
  exact List.takeWhile_append_of_pos harmless

-- At the end the worker has fallen or left, and it left only when nothing was left to do.
theorem Accounted.harmlessPart_of_ended {size : Nat} (single : size ≤ 1) {history : History α}
    {pool : Pool α} (accounted : Accounted size history pool) (inOrder : InOrder history pool)
    (ended : pool.hasEnded = true) :
    harmlessPart history.accepted = history.reported.map Prod.snd := by
  rw [accounted.harmlessPart_eq inOrder]
  cases fallen : history.fallen with
  | cons task rest =>
    have armed := accounted.armed task (by simp [fallen])
    simp [harmlessPart, armed]
  | nil =>
    simp only [hasEnded, Bool.and_eq_true] at ended
    have dropped : history.dropped = [] := by
      by_contra some
      have everyone := accounted.dropped some
      rw [fallen, List.length_nil] at everyone
      omega
    have queue : pool.queue = [] := by
      by_contra queued
      have none := accounted.staffed (.inr queued)
      rw [silent, List.countP_eq_length.mpr (List.all_eq_true.mp ended.2), accounted.staff, fallen,
        List.length_nil] at none
      omega
    simp [harmlessPart, running_of_silent ended.2, dropped, queue]

-- What is received is at any time a beginning of the outcomes of all submitted tasks. It ends before
-- the first task that brings the worker down.
theorem lone_worker_keeps_order_until_it_falls {size : Nat} (single : size ≤ 1) :
    (∀ pool : Pool α, Reachable size pool ↔ ∃ history, Run size history pool) ∧
    ∀ (history : History α) (pool : Pool α), Run size history pool →
      let outcomes := history.accepted.map (Task.outcome 0)
      pool.received <+: outcomes ∧
      pool.received ++ pool.stream <+: (harmlessPart history.accepted).map (Task.outcome 0) ∧
      (pool.hasEnded = true →
        pool.received = (harmlessPart history.accepted).map (Task.outcome 0) ∧
        (pool.received = outcomes ↔ ∀ task ∈ history.accepted, task.isArmed = false)) ∧
      ((∀ task ∈ history.accepted, task.isArmed = false) →
        pool.received ++ pool.stream ++ (pool.running ++ pool.queue).map (Task.outcome 0) =
          outcomes) := by
  refine ⟨fun pool => reachable_iff_run, ?_⟩
  intro history pool run outcomes
  have accounted := run.accounted
  have inOrder := run.inOrder single
  have reported := accounted.outcomes_of_single single
  have sent : pool.received ++ pool.stream <+:
      (harmlessPart history.accepted).map (Task.outcome 0) := by
    rw [reported, accounted.harmlessPart_eq inOrder, List.map_append]
    exact List.prefix_append _ _
  have part : (harmlessPart history.accepted).map (Task.outcome 0) <+: outcomes :=
    (List.takeWhile_prefix _).map _
  refine ⟨(List.prefix_append _ _).trans (sent.trans part), sent, fun ended => ?_, fun harmless => ?_⟩
  · have received := (accounted.received_of_ended ended).1
    rw [← accounted.outcomes, reported, ← accounted.harmlessPart_of_ended single inOrder ended]
      at received
    refine ⟨received, ?_⟩
    rw [← harmlessPart_eq_self_iff, received]
    constructor
    · intro same
      have count := congrArg List.length same
      simp only [outcomes, List.length_map] at count
      exact (List.takeWhile_prefix _).eq_of_length count
    · intro same
      rw [same]
  · obtain ⟨fallen, dropped⟩ := accounted.nothing_lost harmless
    rw [InOrder, fallen, dropped, List.append_nil, List.append_nil] at inOrder
    rw [reported, ← List.map_append, ← List.append_assoc, ← inOrder]

-- The first outcome is received before the second task is submitted.
theorem lone_worker_keeps_order_until_it_falls_panic :
    ∃ (history : History Nat) (pool : Pool Nat), 0 ≤ 1 ∧ Run 0 history pool ∧
      pool.hasEnded = true ∧ history.accepted = [.panics (.text "boom"), .returns 7] ∧
      pool.received = [.error (.taskPanicked 0 "boom"), .ok 7] := by
  let panic : Task Nat := .panics (.text "boom")
  let value : Task Nat := .returns 7
  have taken : Run 0 ⟨[panic], [], [], []⟩ ⟨true, 1, [], [.busy panic], [], []⟩ :=
    (Run.start.submit panic rfl).act (.take 0) rfl
  have first : Run 0 ⟨[panic], [(0, panic)], [], []⟩ ⟨true, 1, [], [.idle], [], [panic.outcome 0]⟩ :=
    (taken.act (.finish 0) rfl).act .receive rfl
  have second : Run 0 ⟨[panic, value], [(0, panic), (0, value)], [], []⟩
      ⟨false, 2, [], [.idle], [value.outcome 0], [panic.outcome 0]⟩ :=
    (((first.submit value rfl).close).act (.take 0) rfl).act (.finish 0) rfl
  have run : Run 0 ⟨[panic, value], [(0, panic), (0, value)], [], []⟩
      ⟨false, 2, [], [.gone], [], [panic.outcome 0, value.outcome 0]⟩ :=
    (second.act .receive rfl).act (.leave 0) rfl
  obtain ⟨-, -, ended, -⟩ := (lone_worker_keeps_order_until_it_falls (Nat.zero_le 1)).2 _ _ run
  exact ⟨_, _, Nat.zero_le 1, run, rfl, rfl, (ended rfl).1⟩

-- The outcome that would come first is lost, and so is the one behind it.
theorem lone_worker_ends_early :
    let armed : Task Nat := .panics .armed
    let value : Task Nat := .returns 7
    let pool : Pool Nat := ⟨false, 2, [], [.gone], [], []⟩
    Run 1 ⟨[armed, value], [], [armed], [value]⟩ pool ∧ pool.hasEnded = true ∧
      pool.received ≠ [armed, value].map (Task.outcome 0) := by
  intro armed value pool
  have taken : Run 1 ⟨[armed, value], [], [], []⟩ ⟨true, 2, [value], [.busy armed], [], []⟩ :=
    ((Run.start.submit armed rfl).submit value rfl).act (.take 0) rfl
  have fallen : Run 1 ⟨[armed, value], [], [armed], []⟩ ⟨true, 2, [value], [.falling], [], []⟩ :=
    taken.act (.finish 0) rfl
  exact ⟨(fallen.act (.leave 0) rfl).close, rfl, by simp [pool]⟩

end Pool

end InterfaceDraft.Extraction
