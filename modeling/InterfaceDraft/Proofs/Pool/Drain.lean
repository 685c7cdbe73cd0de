import InterfaceDraft.Extraction.Run

set_option autoImplicit false

namespace InterfaceDraft.Extraction

namespace Pool

variable {α : Type}

theorem follow_append (pool : Pool α) (first second : List Action) :
    pool.follow (first ++ second) = (pool.follow first).follow second := by
  simp [follow]

theorem follow_cons {pool next : Pool α} {action : Action} (moved : pool.act action = some next)
    (actions : List Action) : pool.follow (action :: actions) = next.follow actions := by
  simp [follow, moved]

theorem follow_take_finish (isOpen : Bool) (submitted : Nat) {queue : List (Task α)}
    (harmless : ∀ task ∈ queue, task.isArmed = false) (rest : List (Worker α))
    (stream received : List (Outcome α)) :
    (Pool.mk isOpen submitted queue (.idle :: rest) stream received).follow
        (List.replicate queue.length [.take 0, .finish 0]).flatten =
      ⟨isOpen, submitted, [], .idle :: rest, stream ++ queue.map (Task.outcome 0), received⟩ := by
  induction queue generalizing stream with
  | nil => simp [follow]
  | cons task queue ih =>
    rw [List.forall_mem_cons] at harmless
    have finished : (Pool.mk isOpen submitted queue (.busy task :: rest) stream received).act
        (.finish 0) = some ⟨isOpen, submitted, queue, .idle :: rest, stream ++ [task.outcome 0],
          received⟩ := by simp [act, harmless.1]
    rw [List.length_cons, List.replicate_succ, List.flatten_cons, List.cons_append, List.cons_append,
      List.nil_append, follow_cons rfl]
    refine (follow_cons finished _).trans ?_
    simpa using ih harmless.2 (stream ++ [task.outcome 0])

-- The first workers have left already, the others leave one after the other.
theorem follow_leave (submitted gone idle : Nat) (stream received : List (Outcome α)) :
    (Pool.mk false submitted [] (List.replicate gone .gone ++ List.replicate idle .idle) stream
        received).follow ((List.range' gone idle).map .leave) =
      ⟨false, submitted, [], List.replicate (gone + idle) .gone, stream, received⟩ := by
  induction idle generalizing gone with
  | zero => simp [follow]
  | succ idle ih =>
    have moved : (Pool.mk false submitted []
        (List.replicate gone .gone ++ List.replicate (idle + 1) .idle) stream received).act
          (.leave gone) = some ⟨false, submitted, [],
            List.replicate (gone + 1) .gone ++ List.replicate idle .idle, stream, received⟩ := by
      simp only [act, dismiss, ite_self, List.replicate_succ, List.getElem?_append_right,
        List.length_replicate, Nat.le_refl, Nat.sub_self, List.getElem?_cons_zero,
        List.set_append_right, List.set_cons_zero]
      rw [← List.replicate_succ, List.replicate_succ', List.append_assoc, List.singleton_append]
    rw [List.range'_succ, List.map_cons, follow_cons moved, ih (gone + 1), Nat.add_right_comm,
      Nat.add_assoc]

theorem follow_receive (isOpen : Bool) (submitted : Nat) (queue : List (Task α))
    (workers : List (Worker α)) (stream received : List (Outcome α)) :
    (Pool.mk isOpen submitted queue workers stream received).follow
        (List.replicate stream.length .receive) =
      ⟨isOpen, submitted, queue, workers, [], received ++ stream⟩ := by
  induction stream generalizing received with
  | nil => simp [follow]
  | cons outcome stream ih =>
    rw [List.length_cons, List.replicate_succ, follow_cons rfl, ih]
    simp

theorem drain_of_idle {pool : Pool α} {others : Nat}
    (idle : pool.workers = List.replicate (others + 1) .idle)
    (harmless : ∀ task ∈ pool.queue, task.isArmed = false) :
    pool.drain =
      ⟨false, pool.submitted, [], List.replicate (others + 1) .gone, [],
        pool.received ++ pool.stream ++ pool.queue.map (Task.outcome 0)⟩ := by
  obtain ⟨isOpen, submitted, queue, workers, stream, received⟩ := pool
  subst idle
  have worked := follow_take_finish false submitted harmless (List.replicate others .idle) stream received
  have left := follow_leave submitted 0 (others + 1) (stream ++ queue.map (Task.outcome 0)) received
  have taken := follow_receive false submitted [] (List.replicate (others + 1) .gone)
    (stream ++ queue.map (Task.outcome 0)) received
  rw [drain, close, schedule, follow_append, follow_append]
  simp only [List.replicate_succ, List.length_cons, List.length_replicate, List.length_append,
    List.length_map, List.range_eq_range', List.replicate_zero, List.nil_append, Nat.zero_add,
    List.append_assoc] at worked left taken ⊢
  rw [worked, left, taken]

end Pool

theorem isDeserted_start {α : Type} (size : Nat) :
    (Pool.start size : Pool α).isDeserted = false := by
  obtain ⟨others, same⟩ := Nat.exists_eq_add_of_le' (Nat.le_max_left 1 size)
  rw [Pool.isDeserted, Pool.start, same, List.replicate_succ]
  rfl

theorem submit_of_open {α : Type} {pool : Pool α} (isOpen : pool.isOpen = true)
    (staffed : pool.isDeserted = false) (task : Task α) :
    pool.submit task =
      .ok { pool with queue := pool.queue ++ [task], submitted := pool.submitted + 1 } := by
  rw [Pool.submit, isOpen, staffed]
  rfl

theorem submitAll_of_open {α : Type} {pool : Pool α} (isOpen : pool.isOpen = true)
    (staffed : pool.isDeserted = false) (tasks : List (Task α)) :
    submitAll pool tasks = .ok { pool with
      queue := pool.queue ++ tasks
      submitted := pool.submitted + tasks.length } := by
  induction tasks generalizing pool with
  | nil => simp [submitAll]
  | cons task tasks ih =>
    rw [submitAll, submit_of_open isOpen staffed]
    refine (@ih { pool with
      queue := pool.queue ++ [task]
      submitted := pool.submitted + 1 } isOpen staffed).trans ?_
    simp [Nat.add_assoc, Nat.add_comm]

end InterfaceDraft.Extraction
