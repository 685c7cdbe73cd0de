import InterfaceDraft.Proofs.Extraction.Schedule

set_option autoImplicit false

namespace InterfaceDraft.Extraction

open Text Files Source

namespace Underway

-- A move that takes the files as they are at its time, or submits a scan that will panic. A scan
-- panics with a text, or with something else that can be dropped without a panic.
inductive Move (receiver : List Char) : Underway → Underway → Prop
  | step {state next : Underway} (w : Workspace) (step : Step w receiver state next) :
      Move receiver state next
  | panic {state : Underway} {p : Path} {rest : List Path} {next : Pool Scanned} (payload : Payload)
      (harmless : payload ≠ .armed) (first : state.waiting = p :: rest)
      (accepted : state.pool.submit (.panics payload) = .ok next) :
      Move receiver state { state with waiting := rest, pool := next }

def MovesTo (receiver : List Char) : Underway → Underway → Prop :=
  Relation.ReflTransGen (Move receiver)

theorem movesTo_of_reaches {w : Workspace} {receiver : List Char} {first last : Underway}
    (reached : Reaches w receiver first last) : MovesTo receiver first last :=
  Relation.ReflTransGen.mono (fun _ _ step => .step w step) _ _ reached

end Underway

-- How a call can end, with the pool in which it ran scans, if it came to one.
inductive Ends (extractor : Extractor) (w : Workspace) (receiver : List Char) (root : Path)
    (refused : Nat → Option String) (elapsed : Nat) :
    Except Error Findings → Option (Pool Scanned) → Prop
  | undiscovered {error : Error} (failed : extractor.filter.discover w root = .error error) :
      Ends extractor w receiver root refused elapsed (.error error) none
  | unstaffed {files : List Path} {error : PoolError}
      (discovered : extractor.filter.discover w root = .ok files)
      (failed : (Pool.start? refused extractor.poolSize : Except _ (Pool Scanned)) = .error error) :
      Ends extractor w receiver root refused elapsed (.error (.pool error)) none
  | turnedAway {files : List Path} {pool : Pool Scanned} {state : Underway} {task : Task Scanned}
      {error : PoolError} (discovered : extractor.filter.discover w root = .ok files)
      (started : Pool.start? refused extractor.poolSize = .ok pool)
      (reached : Underway.MovesTo receiver ⟨files, pool, {}⟩ state) (more : state.waiting ≠ [])
      (failed : state.pool.submit task = .error error) :
      Ends extractor w receiver root refused elapsed (.error (.pool error)) (some state.pool)
  -- Nobody is left to take what is submitted.
  | deserted {files : List Path} {pool : Pool Scanned} {state : Underway}
      (discovered : extractor.filter.discover w root = .ok files)
      (started : Pool.start? refused extractor.poolSize = .ok pool)
      (reached : Underway.MovesTo receiver ⟨files, pool, {}⟩ state) (more : state.waiting ≠ [])
      (left : state.pool.workers.all Worker.isGone = true) :
      Ends extractor w receiver root refused elapsed (.error (.pool .closed)) (some state.pool)
  | finished {files : List Path} {pool : Pool Scanned} {state : Underway}
      (discovered : extractor.filter.discover w root = .ok files)
      (started : Pool.start? refused extractor.poolSize = .ok pool)
      (reached : Underway.MovesTo receiver ⟨files, pool, {}⟩ state)
      (complete : state.isComplete = true) :
      Ends extractor w receiver root refused elapsed (.ok (state.findings files.length elapsed))
        (some state.pool)

-- Errors of single files.
def Error.Concerns (files : List Path) : Error → Prop
  | .fileRead p _ => p ∈ files
  | .workerPanicked _ => True
  | _ => False

theorem Error.Concerns.cases {files : List Path} {error : Error} (concerns : error.Concerns files) :
    (∃ p ∈ files, ∃ cause, error = .fileRead p cause) ∨ ∃ message, error = .workerPanicked message := by
  cases error with
  | fileRead p cause => exact .inl ⟨p, concerns, cause, rfl⟩
  | workerPanicked message => exact .inr ⟨message, rfl⟩
  | pathNotFound | pathIsFile | rootAccess | noSourceFiles | pool => exact concerns.elim

theorem Error.Concerns.isFatal_eq_false {files : List Path} {error : Error}
    (concerns : error.Concerns files) : error.isFatal = false := by
  rcases concerns.cases with ⟨_, _, _, rfl⟩ | ⟨_, rfl⟩ <;> rfl

-- What a task can report of itself to the tally.
def Task.Reports (files : List Path) (task : Task Scanned) : Prop :=
  ∀ worker error, Tally.failureOf? (task.outcome worker) = some error → error.Concerns files

theorem scanTask_reports {files : List Path} {p : Path} (member : p ∈ files) (w : Workspace)
    (receiver : List Char) : (scanTask w receiver p).Reports files := by
  intro worker error failure
  rw [scanTask, Task.outcome, failureOf?_scanFile, readError?] at failure
  split at failure
  next => cases failure
  next => cases failure; exact member

theorem panics_reports (files : List Path) (payload : Payload) :
    (Task.panics payload).Reports files := by
  intro worker error failure
  cases failure
  trivial

namespace Underway

structure Orderly (size : Nat) (files : List Path) (state : Underway)
    (history : Pool.History Scanned) : Prop where
  run : Pool.Run size history state.pool
  tally : state.tally = Tally.absorbAll {} state.pool.received
  waiting : ∀ p ∈ state.waiting, p ∈ files
  count : history.accepted.length + state.waiting.length = files.length
  reports : ∀ task ∈ history.accepted, task.Reports files
  harmless : ∀ task ∈ history.accepted, task.isArmed = false
  -- The pool is closed only when every scan was submitted.
  isOpen : state.waiting ≠ [] → state.pool.isOpen = true

theorem start_orderly (size : Nat) (files : List Path) :
    Orderly size files (start size files) .empty where
  run := .start
  tally := rfl
  waiting _ member := member
  count := Nat.zero_add _
  reports := by simp [Pool.History.empty]
  harmless := by simp [Pool.History.empty]
  isOpen _ := rfl

theorem Orderly.submitted {size : Nat} {files : List Path} {state next : Underway} {p : Path}
    {task : Task Scanned} {history later : Pool.History Scanned}
    (before : Orderly size files state history) (first : state.waiting = p :: next.waiting)
    (reports : p ∈ files → task.Reports files) (harmless : task.isArmed = false)
    (accepted : later.accepted = history.accepted ++ [task]) (run : Pool.Run size later next.pool)
    (tally : next.tally = Tally.absorbAll {} next.pool.received)
    (isOpen : next.pool.isOpen = true) : Orderly size files next later where
  run := run
  tally := tally
  waiting q member := before.waiting q (by rw [first]; exact List.mem_cons_of_mem _ member)
  count := by
    have count := before.count
    rw [first, List.length_cons] at count
    rw [accepted, List.length_append, List.length_singleton]
    omega
  reports := by
    have inside : p ∈ files := before.waiting p (by simp [first])
    rw [accepted, List.forall_mem_append, List.forall_mem_singleton]
    exact ⟨before.reports, reports inside⟩
  harmless := by
    rw [accepted, List.forall_mem_append, List.forall_mem_singleton]
    exact ⟨before.harmless, harmless⟩
  isOpen _ := isOpen

theorem move_orderly {receiver : List Char} {size : Nat} {files : List Path}
    {state next : Underway} {history : Pool.History Scanned}
    (before : Orderly size files state history) (moved : Move receiver state next) :
    ∃ later, Orderly size files next later := by
  cases moved with
  | step w step =>
    obtain ⟨later, run, tally, change⟩ := step_history before.run before.tally step
    rcases change with ⟨p, first, isOpen, accepted⟩ | ⟨waiting, accepted, isOpen⟩
    · exact ⟨later, before.submitted first (fun inside => scanTask_reports inside w receiver) rfl
        accepted run tally isOpen⟩
    · refine ⟨later, run, tally, ?_, ?_, ?_, ?_, fun more => ?_⟩
      · rw [waiting]
        exact before.waiting
      · rw [waiting, accepted]
        exact before.count
      · rw [accepted]
        exact before.reports
      · rw [accepted]
        exact before.harmless
      · rcases isOpen with none | same
        · exact absurd none more
        · rw [same, before.isOpen (waiting ▸ more)]
  | panic payload harmless first accepted =>
    have run := before.run.submit _ accepted
    have unarmed : (Task.panics payload : Task Scanned).isArmed = false := by
      cases payload <;> simp_all [Task.isArmed]
    obtain ⟨isOpen, -, rfl⟩ := Pool.submit_ok accepted
    exact ⟨_, before.submitted first (fun _ => panics_reports files payload) unarmed rfl run
      before.tally isOpen⟩

theorem orderly_of_movesTo {receiver : List Char} {size : Nat} {files : List Path} {state : Underway}
    (reached : MovesTo receiver (start size files) state) :
    ∃ history, Orderly size files state history := by
  induction reached with
  | refl => exact ⟨_, start_orderly size files⟩
  | tail _ moved ih =>
    obtain ⟨history, orderly⟩ := ih
    exact move_orderly orderly moved

-- Whatever was absorbed so far is the outcome of an accepted task.
theorem Orderly.concerns {size : Nat} {files : List Path} {state : Underway}
    {history : Pool.History Scanned} (orderly : Orderly size files state history) {error : Error}
    (member : error ∈ state.tally.errors) : error.Concerns files := by
  have accounted := orderly.run.accounted
  rw [orderly.tally, Tally.absorbAll_eq, List.nil_append] at member
  obtain ⟨outcome, received, failure⟩ := List.mem_filterMap.mp member
  have sent : outcome ∈ history.outcomes := by
    rw [← accounted.outcomes]
    exact List.mem_append_left _ received
  obtain ⟨entry, reported, rfl⟩ := List.mem_map.mp sent
  have accepted : entry.2 ∈ history.accepted := by
    refine accounted.settled_subset ?_
    rw [accounted.settled_of_harmless orderly.harmless]
    exact List.mem_map_of_mem reported
  exact orderly.reports entry.2 accepted entry.1 error failure

-- As long as scans are waiting the pool is open, and no scan brings a worker down.
theorem Orderly.staffed {size : Nat} {files : List Path} {state : Underway}
    {history : Pool.History Scanned} (orderly : Orderly size files state history)
    (more : state.waiting ≠ []) : state.pool.isDeserted = false :=
  orderly.run.accounted.not_deserted orderly.harmless (orderly.isOpen more)

theorem Orderly.submitted_of_complete {size : Nat} {files : List Path} {state : Underway}
    {history : Pool.History Scanned} (orderly : Orderly size files state history)
    (complete : state.isComplete = true) : state.pool.submitted = files.length := by
  simp only [isComplete, Bool.and_eq_true, List.isEmpty_iff] at complete
  have count := orderly.count
  rw [complete.1, List.length_nil, Nat.add_zero] at count
  rw [orderly.run.accounted.submitted, count]

end Underway

theorem firstRefused_eq_some {refused : Nat → Option String} {first count : Nat} {error : PoolError}
    (failed : Pool.firstRefused refused first count = some error) :
    ∃ worker reason, error = .spawn worker reason ∧ refused worker = some reason ∧
      worker < first + count := by
  induction count generalizing first with
  | zero => cases failed
  | succ count ih =>
    rw [Pool.firstRefused] at failed
    split at failed
    next reason found =>
      cases failed
      exact ⟨first, reason, rfl, found, by omega⟩
    next =>
      obtain ⟨worker, reason, spawn, found, bound⟩ := ih failed
      exact ⟨worker, reason, spawn, found, by omega⟩

theorem start?_eq_error {refused : Nat → Option String} {size : Nat} {error : PoolError}
    (failed : (Pool.start? refused size : Except _ (Pool Scanned)) = .error error) :
    ∃ worker reason, error = .spawn worker reason ∧ refused worker = some reason ∧
      worker < max 1 size := by
  unfold Pool.start? at failed
  split at failed
  next cause found =>
    cases failed
    simpa using firstRefused_eq_some found
  next => cases failed

theorem orderly_of_started {refused : Nat → Option String} {receiver : List Char} {size : Nat}
    {files : List Path} {pool : Pool Scanned} {state : Underway}
    (started : Pool.start? refused size = .ok pool)
    (reached : Underway.MovesTo receiver ⟨files, pool, {}⟩ state) :
    ∃ history, Underway.Orderly size files state history := by
  obtain rfl := start?_eq_ok started
  exact Underway.orderly_of_movesTo reached

section Endings

variable {extractor : Extractor} {w : Workspace} {receiver : List Char} {root : Path}
  {refused : Nat → Option String} {elapsed : Nat}

theorem Ends.error_cases {error : Error} {pool : Option (Pool Scanned)}
    (ended : Ends extractor w receiver root refused elapsed (.error error) pool) :
    pool = none ∧ (error = .pathNotFound root ∨ error = .pathIsFile root ∨
      (∃ cause, error = .rootAccess root cause) ∨
      error = .noSourceFiles root extractor.filter.extension ∨
      ∃ worker reason, error = .pool (.spawn worker reason) ∧ refused worker = some reason ∧
        worker < max 1 extractor.poolSize) := by
  cases ended with
  | undiscovered failed =>
    refine ⟨rfl, ?_⟩
    rcases discover_error_cases failed with missing | file | unreachable | empty
    · exact .inl missing
    · exact .inr (.inl file)
    · exact .inr (.inr (.inl unreachable))
    · exact .inr (.inr (.inr (.inl empty)))
  | unstaffed discovered failed =>
    obtain ⟨worker, reason, rfl, found, bound⟩ := start?_eq_error failed
    exact ⟨rfl, .inr (.inr (.inr (.inr ⟨worker, reason, rfl, found, bound⟩)))⟩
  | turnedAway discovered started reached more failed =>
    obtain ⟨history, orderly⟩ := orderly_of_started started reached
    simp [Pool.submit, orderly.isOpen more, orderly.staffed more] at failed
  | deserted discovered started reached more left =>
    obtain ⟨history, orderly⟩ := orderly_of_started started reached
    cases (orderly.staffed more).symm.trans left

theorem Ends.findings_cases {findings : Findings} {pool : Option (Pool Scanned)}
    (ended : Ends extractor w receiver root refused elapsed (.ok findings) pool) :
    ∃ files, extractor.filter.discover w root = .ok files ∧
      (∃ used, pool = some used ∧ used.submitted = files.length) ∧
      ∀ error ∈ findings.errors, error.Concerns files := by
  cases ended with
  | @finished files _ state discovered started reached complete =>
    obtain ⟨history, orderly⟩ := orderly_of_started started reached
    exact ⟨files, discovered, ⟨_, rfl, orderly.submitted_of_complete complete⟩,
      fun error member => orderly.concerns member⟩

theorem run_ends (extractor : Extractor) (w : Workspace) (receiver : List Char) (root : Path)
    (refused : Nat → Option String) (elapsed : Nat) :
    ∃ pool, Ends extractor w receiver root refused elapsed
      (extractor.run w receiver root refused elapsed) pool := by
  cases discovered : extractor.filter.discover w root with
  | error error =>
    have result : extractor.run w receiver root refused elapsed = .error error := by
      simp only [Extractor.run, discovered]
    exact ⟨none, result ▸ .undiscovered discovered⟩
  | ok files =>
    cases started : (Pool.start? refused extractor.poolSize : Except _ (Pool Scanned)) with
    | error error =>
      have result : extractor.run w receiver root refused elapsed = .error (.pool error) := by
        simp only [Extractor.run, discovered, started]
      exact ⟨none, result ▸ .unstaffed discovered started⟩
    | ok pool =>
      obtain ⟨state, reached, complete, result⟩ := run_reaches discovered receiver elapsed
      rw [run_of_started started, result]
      have fresh := start?_eq_ok started
      subst fresh
      exact ⟨_, .finished discovered started (Underway.movesTo_of_reaches reached) complete⟩

end Endings

end InterfaceDraft.Extraction
