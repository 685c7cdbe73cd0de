import InterfaceDraft.Proofs.Pool.Accounting
import Mathlib.Data.List.Nodup
import Mathlib.Logic.Relation

set_option autoImplicit false

namespace InterfaceDraft.Extraction

section Falling

variable {β : Type} {moves : β → β → Prop} {measure : β → Nat}

theorem length_le_of_falls (falls : ∀ state next, moves state next → measure next < measure state)
    {state : β} {run : List β} (chain : (state :: run).IsChain moves) :
    run.length ≤ measure state := by
  induction run generalizing state with
  | nil => exact Nat.zero_le _
  | cons next run ih =>
    obtain ⟨moved, rest⟩ := List.isChain_cons_cons.mp chain
    have bound := ih rest
    have less := falls _ _ moved
    rw [List.length_cons]
    omega

theorem exists_end_of_falls (falls : ∀ state next, moves state next → measure next < measure state)
    (state : β) : ∃ last, Relation.ReflTransGen moves state last ∧ ∀ next, ¬ moves last next := by
  induction left : measure state using Nat.strongRecOn generalizing state with
  | _ left ih =>
    by_cases stuck : ∀ next, ¬ moves state next
    · exact ⟨state, .refl, stuck⟩
    · push Not at stuck
      obtain ⟨next, moved⟩ := stuck
      obtain ⟨last, path, ended⟩ := ih _ (left ▸ falls _ _ moved) next rfl
      exact ⟨last, .head moved path, ended⟩

end Falling

inductive Sender where
  -- The one that is made with the stream.
  | original
  | copy (worker : Nat)
  deriving DecidableEq

structure Handshake (α : Type) where
  pool : Pool α
  -- The senders that have not been dropped.
  senders : List Sender
  -- The consumer has seen the end of the stream, so whoever joins it goes on.
  isDone : Bool

namespace Handshake

variable {α : Type}

-- Each worker gets a copy of the original, which is dropped when all of them are started.
def sendersOf (workers : Nat) : List Sender :=
  (.original :: (List.range workers).map .copy).erase .original

def start (size : Nat) : Handshake α :=
  ⟨.start size, sendersOf (max 1 size), false⟩

-- The moves of workers and consumer. A worker that falls or leaves drops its sender, and the consumer
-- goes on until the stream is empty and no sender is left.
inductive Move : Handshake α → Handshake α → Prop
  | take {state : Handshake α} {next : Pool α} (worker : Nat)
      (moved : state.pool.act (.take worker) = some next) : Move state { state with pool := next }
  | report {state : Handshake α} {next : Pool α} (worker : Nat)
      (holds : .copy worker ∈ state.senders)
      (moved : state.pool.act (.finish worker) = some next)
      (stays : next.workers[worker]? = some .idle) : Move state { state with pool := next }
  | fall {state : Handshake α} {next : Pool α} (worker : Nat)
      (moved : state.pool.act (.finish worker) = some next)
      (falls : next.workers[worker]? = some .falling) :
      Move state { state with pool := next, senders := state.senders.erase (.copy worker) }
  | leave {state : Handshake α} {next : Pool α} (worker : Nat)
      (moved : state.pool.act (.leave worker) = some next) :
      Move state { state with pool := next, senders := state.senders.erase (.copy worker) }
  | receive {state : Handshake α} {next : Pool α} (listening : state.isDone = false)
      (moved : state.pool.act .receive = some next) : Move state { state with pool := next }
  | disconnect {state : Handshake α} (listening : state.isDone = false)
      (empty : state.pool.stream = []) (silent : state.senders = []) :
      Move state { state with isDone := true }

-- The states that can be come to, under any calls and any order of moves.
inductive Reached (size : Nat) : Handshake α → Prop
  | start : Reached size (Handshake.start size)
  | submit {state : Handshake α} {next : Pool α} (before : Reached size state) (task : Task α)
      (accepted : state.pool.submit task = .ok next) : Reached size { state with pool := next }
  | close {state : Handshake α} (before : Reached size state) :
      Reached size { state with pool := state.pool.close }
  | move {state next : Handshake α} (before : Reached size state) (moved : Move state next) :
      Reached size next

end Handshake

namespace Pool

variable {α : Type}

def present (pool : Pool α) : Nat :=
  pool.workers.countP fun worker => !Worker.isGone worker

-- The moves that a worker has still to make by itself, and the receipt of what it sends.
def load : Worker α → Nat
  | .idle | .falling => 1
  | .busy _ => 3
  | .gone => 0

theorem load_eq (worker : Worker α) :
    load worker = 2 * worker.task?.toList.length + if !Worker.isGone worker then 1 else 0 := by
  cases worker <;> rfl

theorem load_set {workers : List (Worker α)} {place : Nat} {old : Worker α}
    (found : workers[place]? = some old) (new : Worker α) :
    load old + (2 * ((workers.set place new).filterMap Worker.task?).length +
        (workers.set place new).countP (!Worker.isGone ·)) =
      load new + (2 * (workers.filterMap Worker.task?).length +
        workers.countP (!Worker.isGone ·)) := by
  have tasks := (running_set found new).length_eq
  have staff := countP_set found new (!Worker.isGone ·)
  rw [List.length_append, List.length_append] at tasks
  rw [load_eq, load_eq]
  omega

-- At most three moves are left for a queued task, two for a running one, and one for each worker and
-- each outcome in the stream.
def remaining (pool : Pool α) : Nat :=
  3 * pool.queue.length + 2 * pool.running.length + pool.present + pool.stream.length

theorem act_remaining_lt {pool next : Pool α} {action : Action}
    (moved : pool.act action = some next) : next.remaining < pool.remaining := by
  unfold remaining running present
  cases action with
  | take worker =>
    obtain ⟨task, queue, idle, queued, rfl⟩ := act_take moved
    have load := load_set idle (.busy task)
    simp only [Pool.load] at load
    simp only [queued, List.length_cons]
    omega
  | finish worker =>
    obtain ⟨task, busy, ⟨-, rfl⟩ | ⟨-, rfl⟩⟩ := act_finish moved
    · have load := load_set busy .falling
      simp only [Pool.load] at load ⊢
      omega
    · have load := load_set busy .idle
      simp only [Pool.load] at load
      simp only [List.length_append, List.length_singleton]
      omega
  | leave worker =>
    obtain ⟨ready, rfl⟩ := act_leave moved
    have queue : (pool.dismiss worker).queue.length ≤ pool.queue.length := by
      unfold dismiss
      split
      next => exact Nat.zero_le _
      next => exact Nat.le_refl _
    have load : 1 + (2 * ((pool.workers.set worker .gone).filterMap Worker.task?).length +
        (pool.workers.set worker .gone).countP (!Worker.isGone ·)) =
        0 + (2 * (pool.workers.filterMap Worker.task?).length +
          pool.workers.countP (!Worker.isGone ·)) := by
      rcases ready with ⟨idle, -, -⟩ | falling
      · exact load_set idle .gone
      · exact load_set falling .gone
    simp only [dismiss] at queue ⊢
    omega
  | receive =>
    obtain ⟨outcome, stream, sent, rfl⟩ := act_receive moved
    simp only [sent, List.length_cons]
    omega

end Pool

namespace Handshake

variable {α : Type}

def remaining (state : Handshake α) : Nat :=
  state.pool.remaining + if state.isDone then 0 else 1

theorem remaining_lt (state next : Handshake α) (moved : Move state next) :
    next.remaining < state.remaining := by
  cases moved with
  | take worker moved => exact Nat.add_lt_add_right (Pool.act_remaining_lt moved) _
  | report worker _ moved => exact Nat.add_lt_add_right (Pool.act_remaining_lt moved) _
  | fall worker moved => exact Nat.add_lt_add_right (Pool.act_remaining_lt moved) _
  | leave worker moved => exact Nat.add_lt_add_right (Pool.act_remaining_lt moved) _
  | receive _ moved => exact Nat.add_lt_add_right (Pool.act_remaining_lt moved) _
  | disconnect listening => simp [remaining, listening]

def Holds (workers : List (Worker α)) : Sender → Prop
  | .original => False
  | .copy number => ∃ worker, workers[number]? = some worker ∧ worker.isSilent = false

theorem holds_set_silent {workers : List (Worker α)} {place : Nat} {old new : Worker α}
    (found : workers[place]? = some old) (silent : new.isSilent = true) (sender : Sender) :
    Holds (workers.set place new) sender ↔ sender ≠ .copy place ∧ Holds workers sender := by
  obtain ⟨inside, rfl⟩ := List.getElem?_eq_some_iff.mp found
  cases sender with
  | original => simp [Holds]
  | copy number =>
    by_cases same : number = place
    · subst same
      simp [Holds, inside, silent]
    · simp [Holds, Ne.symm same, same]

theorem holds_set {workers : List (Worker α)} {place : Nat} {old : Worker α}
    (found : workers[place]? = some old) (new : Worker α) (same : new.isSilent = old.isSilent)
    (sender : Sender) :
    Holds (workers.set place new) sender ↔ Holds workers sender := by
  obtain ⟨inside, rfl⟩ := List.getElem?_eq_some_iff.mp found
  cases sender with
  | original => rfl
  | copy number =>
    by_cases here : number = place
    · subst here
      simp [Holds, inside, same]
    · simp [Holds, Ne.symm here]

-- A sender is held as long as its worker is not silent, and by nobody else.
structure Sound (state : Handshake α) : Prop where
  held : ∀ sender, sender ∈ state.senders ↔ Holds state.pool.workers sender
  once : state.senders.Nodup
  done : state.isDone = true → state.senders = [] ∧ state.pool.stream = []

theorem sendersOf_eq (workers : Nat) : sendersOf workers = (List.range workers).map .copy :=
  List.erase_cons_head _ _

theorem mem_sendersOf_iff (workers : Nat) (sender : Sender) :
    sender ∈ sendersOf workers ↔ Holds (List.replicate workers (.idle : Worker α)) sender := by
  rw [sendersOf_eq]
  cases sender with
  | original => simp [Holds]
  | copy number => by_cases inside : number < workers <;> simp [Holds, inside, Worker.isSilent]

theorem start_sound (size : Nat) : (start size : Handshake α).Sound where
  held := mem_sendersOf_iff (max 1 size)
  once := by
    rw [start, sendersOf_eq]
    exact List.Nodup.map (fun _ _ same => Sender.copy.inj same) List.nodup_range
  done := by simp [start]

-- A worker that becomes silent drops its sender.
theorem Sound.silence {state : Handshake α} (before : state.Sound) {next : Pool α} {worker : Nat}
    {old new : Worker α} (found : state.pool.workers[worker]? = some old)
    (silent : new.isSilent = true) (workers : next.workers = state.pool.workers.set worker new)
    (stream : next.stream = state.pool.stream) :
    Sound { state with pool := next, senders := state.senders.erase (.copy worker) } where
  held sender := by
    rw [before.once.mem_erase_iff, before.held, workers, holds_set_silent found silent]
  once := before.once.erase _
  done done := by
    obtain ⟨none, empty⟩ := before.done done
    simp [none, stream, empty]

theorem move_sound {state next : Handshake α} (before : state.Sound) (moved : Move state next) :
    next.Sound := by
  cases moved with
  | take worker moved =>
    obtain ⟨task, queue, idle, -, rfl⟩ := Pool.act_take moved
    have holds := holds_set idle (.busy task) rfl
    exact ⟨fun sender => (before.held sender).trans (holds sender).symm, before.once, before.done⟩
  | report worker holds moved stays =>
    obtain ⟨task, busy, ⟨-, rfl⟩ | ⟨-, rfl⟩⟩ := Pool.act_finish moved
    · obtain ⟨inside, -⟩ := List.getElem?_eq_some_iff.mp busy
      simp [inside] at stays
    · have same := holds_set busy .idle rfl
      refine ⟨fun sender => (before.held sender).trans (same sender).symm, before.once, fun done => ?_⟩
      rw [(before.done done).1] at holds
      cases holds
  | fall worker moved falls =>
    obtain ⟨task, busy, ⟨-, rfl⟩ | ⟨-, rfl⟩⟩ := Pool.act_finish moved
    · exact before.silence busy rfl rfl rfl
    · obtain ⟨inside, -⟩ := List.getElem?_eq_some_iff.mp busy
      simp [inside] at falls
  | leave worker moved =>
    obtain ⟨⟨idle, -, -⟩ | falling, rfl⟩ := Pool.act_leave moved
    · exact before.silence idle rfl rfl rfl
    · exact before.silence falling rfl rfl rfl
  | receive listening moved =>
    obtain ⟨outcome, stream, -, rfl⟩ := Pool.act_receive moved
    refine ⟨before.held, before.once, fun done => ?_⟩
    rw [listening] at done
    cases done
  | disconnect listening empty silent =>
    exact ⟨before.held, before.once, fun _ => ⟨silent, empty⟩⟩

theorem Reached.sound {size : Nat} {state : Handshake α} (reached : Reached size state) :
    state.Sound := by
  induction reached with
  | start => exact start_sound size
  | submit _ task accepted ih =>
    obtain ⟨-, -, rfl⟩ := Pool.submit_ok accepted
    exact ⟨ih.held, ih.once, ih.done⟩
  | close _ ih => exact ⟨ih.held, ih.once, ih.done⟩
  | move _ moved ih => exact move_sound ih moved

theorem Sound.silent_iff {state : Handshake α} (sound : state.Sound) :
    state.senders = [] ↔ state.pool.workers.all Worker.isSilent = true := by
  rw [List.eq_nil_iff_forall_not_mem, List.all_eq_true]
  constructor
  · intro silent worker member
    obtain ⟨number, found⟩ := List.mem_iff_getElem?.mp member
    by_contra here
    exact silent (.copy number) ((sound.held _).mpr ⟨worker, found, Bool.eq_false_iff.mpr here⟩)
  · intro silent sender member
    have holds := (sound.held sender).mp member
    cases sender with
    | original => exact holds
    | copy number =>
      obtain ⟨worker, found, here⟩ := holds
      cases here.symm.trans (silent worker (List.mem_of_getElem? found))

theorem Sound.hasEnded_iff {state : Handshake α} (sound : state.Sound) :
    state.pool.hasEnded = true ↔ state.pool.stream = [] ∧ state.senders = [] := by
  rw [sound.silent_iff, Pool.hasEnded, Bool.and_eq_true, List.isEmpty_iff]

theorem move_pool {state next : Handshake α} (moved : Move state next) :
    next.pool = state.pool ∨ ∃ action, state.pool.act action = some next.pool := by
  cases moved with
  | take worker moved => exact .inr ⟨_, moved⟩
  | report worker _ moved => exact .inr ⟨_, moved⟩
  | fall worker moved => exact .inr ⟨_, moved⟩
  | leave worker moved => exact .inr ⟨_, moved⟩
  | receive _ moved => exact .inr ⟨_, moved⟩
  | disconnect => exact .inl rfl

theorem Reached.reachable {size : Nat} {state : Handshake α} (reached : Reached size state) :
    Pool.Reachable size state.pool := by
  induction reached with
  | start => exact .start
  | submit _ task accepted ih => exact ih.step (.submit task accepted)
  | close _ ih => exact ih.step (.close _)
  | move _ moved ih =>
    rcases move_pool moved with same | ⟨action, moved⟩
    · rwa [same]
    · exact ih.step (.act action moved)

theorem finish_moves {state : Handshake α} (sound : state.Sound) {worker : Nat} {next : Pool α}
    (moved : state.pool.act (.finish worker) = some next) :
    ∃ senders, Move state { state with pool := next, senders } := by
  obtain ⟨task, busy, ended⟩ := Pool.act_finish moved
  obtain ⟨inside, -⟩ := List.getElem?_eq_some_iff.mp busy
  rcases ended with ⟨-, rfl⟩ | ⟨-, rfl⟩
  · exact ⟨_, .fall worker moved (by simp [inside])⟩
  · have holds := (sound.held (.copy worker)).mpr ⟨_, busy, rfl⟩
    exact ⟨_, .report worker holds moved (by simp [inside])⟩

-- What a pool does by itself it also does with a consumer that has not seen the end.
theorem reached_of_reachable {size : Nat} {pool : Pool α} (reachable : Pool.Reachable size pool) :
    ∃ senders, Reached size ⟨pool, senders, false⟩ := by
  induction reachable with
  | start => exact ⟨_, .start⟩
  | step _ step ih =>
    obtain ⟨senders, reached⟩ := ih
    cases step with
    | submit task accepted => exact ⟨senders, reached.submit task accepted⟩
    | close => exact ⟨senders, reached.close⟩
    | act action moved =>
      cases action with
      | take worker => exact ⟨senders, reached.move (.take worker moved)⟩
      | finish worker =>
        obtain ⟨later, onward⟩ := finish_moves reached.sound moved
        exact ⟨later, reached.move onward⟩
      | leave worker => exact ⟨_, reached.move (.leave worker moved)⟩
      | receive => exact ⟨senders, reached.move (.receive rfl moved)⟩

-- Nothing is left to do, and neither the workers nor the consumer keep anyone waiting.
structure Final (state : Handshake α) : Prop where
  queue : state.pool.queue = []
  workers : ∀ worker ∈ state.pool.workers, worker = .gone
  stream : state.pool.stream = []
  done : state.isDone = true

-- A worker that is still there can end its task, take another or leave.
theorem gone_of_stuck {state : Handshake α} (sound : state.Sound)
    (closed : state.pool.isOpen = false) (stuck : ∀ next, ¬ Move state next) (worker : Worker α)
    (member : worker ∈ state.pool.workers) : worker = .gone := by
  obtain ⟨number, found⟩ := List.mem_iff_getElem?.mp member
  cases worker with
  | gone => rfl
  | busy task =>
    obtain ⟨next, moved⟩ : ∃ next, state.pool.act (.finish number) = some next := by
      cases armed : task.isArmed <;> simp [Pool.act, found, armed]
    obtain ⟨senders, onward⟩ := finish_moves sound moved
    exact absurd onward (stuck _)
  | falling =>
    obtain ⟨next, moved⟩ : ∃ next, state.pool.act (.leave number) = some next := by
      simp [Pool.act, found]
    exact absurd (.leave number moved) (stuck _)
  | idle =>
    cases queued : state.pool.queue with
    | nil =>
      obtain ⟨next, moved⟩ : ∃ next, state.pool.act (.leave number) = some next := by
        simp [Pool.act, found, queued, closed]
      exact absurd (.leave number moved) (stuck _)
    | cons task queue =>
      obtain ⟨next, moved⟩ : ∃ next, state.pool.act (.take number) = some next := by
        simp [Pool.act, found, queued]
      exact absurd (.take number moved) (stuck _)

theorem done_of_stuck {state : Handshake α} (stuck : ∀ next, ¬ Move state next)
    (silent : state.senders = []) : state.isDone = true := by
  cases done : state.isDone with
  | true => rfl
  | false =>
    cases sent : state.pool.stream with
    | nil => exact absurd (.disconnect done sent silent) (stuck _)
    | cons outcome stream =>
      obtain ⟨next, moved⟩ : ∃ next, state.pool.act .receive = some next := by
        simp [Pool.act, sent]
      exact absurd (.receive done moved) (stuck _)

theorem all_of_gone {pool : Pool α} {p : Worker α → Bool}
    (gone : ∀ worker ∈ pool.workers, worker = .gone) (here : p .gone = true) :
    pool.workers.all p = true := by
  refine List.all_eq_true.mpr fun worker member => ?_
  rw [gone worker member, here]

theorem final_of_stuck {size : Nat} {state : Handshake α} (reached : Reached size state)
    (closed : state.pool.isOpen = false) (stuck : ∀ next, ¬ Move state next) : state.Final := by
  have sound := reached.sound
  obtain ⟨history, run⟩ := Pool.reachable_iff_run.mp reached.reachable
  have gone := gone_of_stuck sound closed stuck
  have silent := sound.silent_iff.mpr (all_of_gone gone rfl)
  have done := done_of_stuck stuck silent
  exact ⟨run.accounted.deserted (all_of_gone gone rfl), gone, (sound.done done).2, done⟩

theorem Final.hasEnded {state : Handshake α} (final : state.Final) :
    state.pool.hasEnded = true := by
  rw [Pool.hasEnded, final.stream, all_of_gone final.workers rfl]
  rfl

theorem Final.remaining_eq_zero {state : Handshake α} (final : state.Final) :
    state.remaining = 0 := by
  have running := Pool.running_of_silent (all_of_gone final.workers rfl)
  have present : state.pool.present = 0 := by
    refine List.countP_eq_zero.mpr ?_
    intro worker member
    simp [final.workers worker member, Worker.isGone]
  simp [remaining, Pool.remaining, running, present, final.queue, final.stream, final.done]

-- Whatever was sent was received, and only what a falling worker lost was not sent.
theorem Final.received {size : Nat} {state : Handshake α} (final : state.Final)
    {history : Pool.History α} (run : Pool.Run size history state.pool) :
    state.pool.received = history.outcomes ∧
      history.accepted.Perm (history.reported.map Prod.snd ++ history.fallen ++ history.dropped) := by
  obtain ⟨received, tasks⟩ := run.accounted.received_of_ended final.hasEnded
  rw [final.queue, List.nil_append] at tasks
  exact ⟨received, tasks⟩

theorem stuck_iff_final {size : Nat} {state : Handshake α} (reached : Reached size state)
    (closed : state.pool.isOpen = false) : (∀ next, ¬ Move state next) ↔ state.Final := by
  refine ⟨final_of_stuck reached closed, fun final next moved => ?_⟩
  have falls := remaining_lt _ _ moved
  rw [final.remaining_eq_zero] at falls
  cases falls

theorem move_isOpen {state next : Handshake α} (moved : Move state next) :
    next.pool.isOpen = state.pool.isOpen := by
  rcases move_pool moved with same | ⟨action, moved⟩
  · rw [same]
  · exact (Pool.act_keeps moved).1

theorem Reached.path {size : Nat} {state last : Handshake α} (reached : Reached size state)
    (path : Relation.ReflTransGen Move state last) :
    Reached size last ∧ last.pool.isOpen = state.pool.isOpen := by
  induction path with
  | refl => exact ⟨reached, rfl⟩
  | tail _ moved ih => exact ⟨ih.1.move moved, (move_isOpen moved).trans ih.2⟩

theorem reaches_final {size : Nat} {state : Handshake α} (reached : Reached size state)
    (closed : state.pool.isOpen = false) :
    ∃ last, Relation.ReflTransGen Move state last ∧ last.Final := by
  obtain ⟨last, path, stuck⟩ := exists_end_of_falls remaining_lt state
  obtain ⟨later, isOpen⟩ := reached.path path
  exact ⟨last, path, final_of_stuck later (isOpen.trans closed) stuck⟩

theorem handshake_completes (size : Nat) :
    (∀ pool : Pool α, Pool.Reachable size pool ↔
      ∃ state : Handshake α, Reached size state ∧ state.pool = pool) ∧
    ∀ state : Handshake α, Reached size state →
      (∀ sender, sender ∈ state.senders ↔ ∃ number worker, sender = .copy number ∧
        state.pool.workers[number]? = some worker ∧ worker.isSilent = false) ∧
      (state.pool.hasEnded = true ↔ state.pool.stream = [] ∧ state.senders = []) ∧
      (state.pool.isOpen = false →
        (∀ task, state.pool.submit task = .error .closed) ∧ state.pool.close = state.pool ∧
        (∀ next, Move state next →
          next.pool.isOpen = false ∧ next.remaining < state.remaining) ∧
        (∀ run, (state :: run).IsChain Move → run.length ≤ state.remaining) ∧
        ((∀ next, ¬ Move state next) ↔ state.Final) ∧
        ∃ last, Relation.ReflTransGen Move state last ∧ last.Final) ∧
      (state.Final → ∀ history, Pool.Run size history state.pool →
        state.pool.received = history.outcomes ∧
        history.accepted.Perm
          (history.reported.map Prod.snd ++ history.fallen ++ history.dropped) ∧
        (state.pool.received.length = state.pool.submitted ↔
          ∀ task ∈ history.accepted, task.isArmed = false)) := by
  refine ⟨fun pool => ⟨fun reachable => ?_, ?_⟩, fun state reached => ⟨?_, ?_, fun closed => ?_, ?_⟩⟩
  · obtain ⟨senders, reached⟩ := reached_of_reachable reachable
    exact ⟨_, reached, rfl⟩
  · rintro ⟨state, reached, rfl⟩
    exact reached.reachable
  · intro sender
    rw [reached.sound.held]
    cases sender <;> simp [Holds]
  · exact reached.sound.hasEnded_iff
  · refine ⟨?_, ?_, ?_, ?_, stuck_iff_final reached closed, reaches_final reached closed⟩
    · intro task
      simp [Pool.submit, closed]
    · rw [Pool.close, ← closed]
    · intro next moved
      exact ⟨(move_isOpen moved).trans closed, remaining_lt _ _ moved⟩
    · exact fun run chain => length_le_of_falls remaining_lt chain
  · intro final history run
    obtain ⟨received, tasks⟩ := final.received run
    exact ⟨received, tasks, run.accounted.complete_iff final.hasEnded⟩

-- One of two workers is in a task that brings it down while another task waits.
theorem handshake_completes_fall :
    let armed : Task Nat := .panics .armed
    let state : Handshake Nat :=
      ⟨⟨false, 2, [.returns 7], [.busy armed, .idle], [], []⟩, [.copy 0, .copy 1], false⟩
    Reached 2 state ∧ state.pool.isOpen = false ∧ state.remaining = 8 ∧
      (∀ run, (state :: run).IsChain Move → run.length ≤ 8) ∧
      ∃ last, Relation.ReflTransGen Move state last ∧ last.Final := by
  intro armed state
  have taken : Reached 2 (⟨⟨true, 1, [], [.busy armed, .idle], [], []⟩, [.copy 0, .copy 1], false⟩ :
      Handshake Nat) :=
    (Reached.start.submit armed rfl).move (.take 0 rfl)
  have reached : Reached 2 state := (taken.submit (.returns 7) rfl).close
  obtain ⟨-, -, ends, -⟩ := (handshake_completes 2).2 state reached
  obtain ⟨-, -, -, bound, -, final⟩ := ends rfl
  exact ⟨reached, rfl, rfl, bound, final⟩

end Handshake

end InterfaceDraft.Extraction
