import InterfaceDraft.Extraction.Run
import InterfaceDraft.Proofs.Extraction.Tally
import InterfaceDraft.Proofs.Pool.Accounting
import InterfaceDraft.Proofs.Pool.Drain
import InterfaceDraft.Proofs.Signature.Reader
import Mathlib.Logic.Relation

set_option autoImplicit false

namespace InterfaceDraft.Extraction

open Text Files Source

-- The text of a file that can be opened and decoded, or what stands against it.
def textOf (w : Workspace) (p : Path) : Except IoError (List Char) :=
  match w.read p with
  | .error cause => .error cause
  | .ok content =>
    match decode? content with
    | some text => .ok text
    | none => .error (.other Signature.ReadError.notUtf8.message)

def readError? (w : Workspace) (p : Path) : Option Error :=
  match textOf w p with
  | .ok _ => none
  | .error cause => some (.fileRead p cause)

theorem scanFile_eq (w : Workspace) (receiver : List Char) (p : Path) :
    scanFile w receiver p =
      match textOf w p with
      | .ok text => .ok (Signature.ofText receiver text)
      | .error cause => .error (.fileRead p cause) := by
  unfold scanFile textOf
  cases w.read p with
  | error cause => rfl
  | ok content =>
    simp only [Signature.ofReader_ofBytes]
    cases decode? content <;> rfl

structure Underway where
  -- Discovered files whose scan has not been submitted, in order.
  waiting : List Path
  pool : Pool Scanned
  tally : Tally

namespace Underway

def start (size : Nat) (files : List Path) : Underway := ⟨files, .start size, {}⟩

inductive Step (w : Workspace) (receiver : List Char) : Underway → Underway → Prop
  | submit {state : Underway} {p : Path} {rest : List Path} {next : Pool Scanned}
      (first : state.waiting = p :: rest)
      (accepted : state.pool.submit (scanTask w receiver p) = .ok next) :
      Step w receiver state { state with waiting := rest, pool := next }
  | close {state : Underway} (none : state.waiting = []) :
      Step w receiver state { state with pool := state.pool.close }
  | work {state : Underway} {next : Pool Scanned} (action : Pool.Action) (own : action ≠ .receive)
      (moved : state.pool.act action = some next) : Step w receiver state { state with pool := next }
  | gather {state : Underway} {next : Pool Scanned} {outcome : Outcome Scanned}
      (sent : state.pool.stream.head? = some outcome) (moved : state.pool.act .receive = some next) :
      Step w receiver state { state with pool := next, tally := state.tally.absorb outcome }

def Reaches (w : Workspace) (receiver : List Char) : Underway → Underway → Prop :=
  Relation.ReflTransGen (Step w receiver)

-- The caller has nothing left to submit, and the tally has seen the end of the stream.
def isComplete (state : Underway) : Bool :=
  state.waiting.isEmpty && state.pool.hasEnded

def findings (state : Underway) (discovered elapsed : Nat) : Findings :=
  .ofTally discovered state.pool.size elapsed state.tally

structure Tracked (w : Workspace) (receiver : List Char) (size : Nat) (files : List Path)
    (state : Underway) (history : Pool.History Scanned) : Prop where
  run : Pool.Run size history state.pool
  tasks : history.accepted ++ state.waiting.map (scanTask w receiver) =
    files.map (scanTask w receiver)
  tally : state.tally = Tally.absorbAll {} state.pool.received

theorem start_tracked (w : Workspace) (receiver : List Char) (size : Nat) (files : List Path) :
    Tracked w receiver size files (start size files) .empty where
  run := .start
  tasks := rfl
  tally := rfl

-- What a step adds to the history: the scan of the first waiting file, or nothing.
theorem step_history {w : Workspace} {receiver : List Char} {size : Nat} {state next : Underway}
    {history : Pool.History Scanned} (run : Pool.Run size history state.pool)
    (tally : state.tally = Tally.absorbAll {} state.pool.received)
    (step : Step w receiver state next) :
    ∃ later, Pool.Run size later next.pool ∧
      next.tally = Tally.absorbAll {} next.pool.received ∧
      ((∃ p, state.waiting = p :: next.waiting ∧ next.pool.isOpen = true ∧
          later.accepted = history.accepted ++ [scanTask w receiver p]) ∨
        (next.waiting = state.waiting ∧ later.accepted = history.accepted ∧
          (next.waiting = [] ∨ next.pool.isOpen = state.pool.isOpen))) := by
  cases step with
  | submit first accepted =>
    refine ⟨_, run.submit _ accepted, ?_⟩
    obtain ⟨isOpen, -, rfl⟩ := Pool.submit_ok accepted
    exact ⟨tally, .inl ⟨_, first, isOpen, rfl⟩⟩
  | close none => exact ⟨_, run.close, tally, .inr ⟨rfl, rfl, .inl none⟩⟩
  | work action own moved =>
    refine ⟨_, run.act action moved, ?_, .inr ⟨rfl, ?_, .inr (Pool.act_keeps moved).1⟩⟩
    · rw [(Pool.act_keeps moved).2 own]
      exact tally
    · exact Pool.History.after_accepted _ _ _
  | gather sent moved =>
    refine ⟨_, run.act .receive moved, ?_, .inr ⟨rfl, rfl, .inr (Pool.act_keeps moved).1⟩⟩
    obtain ⟨outcome, stream, front, rfl⟩ := Pool.act_receive moved
    rw [front, List.head?_cons, Option.some.injEq] at sent
    rw [← sent, Tally.absorbAll_append_singleton, tally]

theorem step_tracked {w : Workspace} {receiver : List Char} {size : Nat} {files : List Path}
    {state next : Underway} {history : Pool.History Scanned}
    (before : Tracked w receiver size files state history) (step : Step w receiver state next) :
    ∃ later, Tracked w receiver size files next later := by
  obtain ⟨later, run, tally, change⟩ := step_history before.run before.tally step
  refine ⟨later, run, ?_, tally⟩
  have tasks := before.tasks
  rcases change with ⟨p, first, -, accepted⟩ | ⟨waiting, accepted, -⟩
  · rw [first] at tasks
    simpa [accepted] using tasks
  · rw [waiting, accepted]
    exact tasks

theorem reaches_tracked {w : Workspace} {receiver : List Char} {size : Nat} {files : List Path}
    {state : Underway} (reached : Reaches w receiver (start size files) state) :
    ∃ history, Tracked w receiver size files state history := by
  induction reached with
  | refl => exact ⟨_, start_tracked w receiver size files⟩
  | tail _ step ih =>
    obtain ⟨history, tracked⟩ := ih
    exact step_tracked tracked step

-- A scan never panics, so its outcome does not depend on the worker.
theorem outcomes_of_scans {w : Workspace} {receiver : List Char} {ran : List (Nat × Task Scanned)}
    {files : List Path} (tasks : (ran.map Prod.snd).Perm (files.map (scanTask w receiver))) :
    (ran.map fun entry => entry.2.outcome entry.1).Perm
      (files.map fun p => .ok (scanFile w receiver p)) := by
  have outcome (entry : Nat × Task Scanned) (member : entry ∈ ran) :
      entry.2.outcome entry.1 = entry.2.outcome 0 := by
    have isScan := tasks.mem_iff.mp (List.mem_map_of_mem member)
    obtain ⟨p, -, scan⟩ := List.mem_map.mp isScan
    rw [← scan]
    rfl
  rw [List.map_congr_left outcome]
  simpa [Function.comp_def, scanTask, Task.outcome] using tasks.map (Task.outcome 0)

theorem isArmed_of_scans (w : Workspace) (receiver : List Char) (files : List Path) :
    ∀ task ∈ files.map (scanTask w receiver), task.isArmed = false := by
  intro task member
  obtain ⟨p, -, rfl⟩ := List.mem_map.mp member
  rfl

theorem received_of_complete {w : Workspace} {receiver : List Char} {size : Nat}
    {files : List Path} {state : Underway} (reached : Reaches w receiver (start size files) state)
    (complete : state.isComplete = true) :
    state.pool.size = max 1 size ∧
      ∃ outcomes : List (Outcome Scanned), state.tally = Tally.absorbAll {} outcomes ∧
        outcomes.Perm (files.map fun p => .ok (scanFile w receiver p)) := by
  obtain ⟨history, tracked⟩ := reaches_tracked reached
  simp only [isComplete, Bool.and_eq_true, List.isEmpty_iff] at complete
  have accounted := tracked.run.accounted
  have accepted := tracked.tasks
  rw [complete.1, List.map_nil, List.append_nil] at accepted
  have harmless := accepted ▸ isArmed_of_scans w receiver files
  obtain ⟨-, received, tasks⟩ := accounted.ended harmless complete.2
  rw [accepted] at tasks
  refine ⟨accounted.staff, _, tracked.tally, ?_⟩
  rw [received]
  exact outcomes_of_scans tasks

theorem reaches_submitted (w : Workspace) (receiver : List Char) (files : List Path)
    (pool : Pool Scanned) (tally : Tally) (isOpen : pool.isOpen = true)
    (staffed : pool.isDeserted = false) :
    Reaches w receiver ⟨files, pool, tally⟩ ⟨[], { pool with
      queue := pool.queue ++ files.map (scanTask w receiver)
      submitted := pool.submitted + (files.map (scanTask w receiver)).length }, tally⟩ := by
  induction files generalizing pool with
  | nil =>
    simp only [List.map_nil, List.append_nil, List.length_nil, Nat.add_zero]
    exact .refl
  | cons p files ih =>
    have rest := ih { pool with
      queue := pool.queue ++ [scanTask w receiver p]
      submitted := pool.submitted + 1 } isOpen staffed
    refine .head (.submit rfl (submit_of_open isOpen staffed _)) ?_
    simpa [Reaches, Nat.add_assoc, Nat.add_comm 1] using rest

theorem reaches_follow (w : Workspace) (receiver : List Char) (pool : Pool Scanned)
    (actions : List Pool.Action) :
    Reaches w receiver ⟨[], pool, Tally.absorbAll {} pool.received⟩
      ⟨[], pool.follow actions, Tally.absorbAll {} (pool.follow actions).received⟩ := by
  induction actions generalizing pool with
  | nil => exact .refl
  | cons action actions ih =>
    cases moved : pool.act action with
    | none =>
      -- A move that is not possible is passed over.
      simpa [Pool.follow, moved] using ih pool
    | some next =>
      rw [Pool.follow_cons moved]
      refine .head ?_ (ih next)
      by_cases own : action = .receive
      · subst own
        obtain ⟨outcome, stream, front, rfl⟩ := Pool.act_receive moved
        rw [Tally.absorbAll_append_singleton]
        exact .gather (by simp [front]) moved
      · rw [(Pool.act_keeps moved).2 own]
        exact .work action own moved

end Underway

theorem firstRefused_none (first count : Nat) : Pool.firstRefused (fun _ => none) first count = none := by
  induction count generalizing first with
  | zero => rfl
  | succ count ih => exact ih (first + 1)

theorem start?_eq_ok {α : Type} {refused : Nat → Option String} {size : Nat} {pool : Pool α}
    (started : Pool.start? refused size = .ok pool) : pool = .start size := by
  unfold Pool.start? at started
  split at started
  next => cases started
  next => exact (Except.ok.inj started).symm

theorem run_reaches {extractor : Extractor} {w : Workspace} {root : Path} {files : List Path}
    (discovered : extractor.filter.discover w root = .ok files) (receiver : List Char)
    (elapsed : Nat) :
    ∃ state, Underway.Reaches w receiver (.start extractor.poolSize files) state ∧
      state.isComplete = true ∧
      extractor.run w receiver root (fun _ => none) elapsed =
        .ok (state.findings files.length elapsed) := by
  let fresh : Pool Scanned := .start extractor.poolSize
  let tasks := files.map (scanTask w receiver)
  let pool : Pool Scanned := { fresh with
    queue := fresh.queue ++ tasks
    submitted := fresh.submitted + tasks.length }
  obtain ⟨others, size⟩ := Nat.exists_eq_add_of_le' (Nat.le_max_left 1 extractor.poolSize)
  have idle : pool.workers = List.replicate (others + 1) .idle := by rw [← size]; rfl
  have harmless : ∀ task ∈ pool.queue, task.isArmed = false :=
    Underway.isArmed_of_scans w receiver files
  have staffed : fresh.isDeserted = false := isDeserted_start extractor.poolSize
  have submitted := Underway.reaches_submitted w receiver files fresh {} rfl staffed
  have drained := Underway.reaches_follow w receiver pool.close pool.schedule
  refine ⟨⟨[], pool.drain, Tally.absorbAll {} pool.drain.received⟩, ?_, ?_, ?_⟩
  · exact submitted.trans (.head (.close rfl) drained)
  · rw [Pool.drain_of_idle idle harmless]
    simp [Underway.isComplete, Pool.hasEnded, Worker.isSilent]
  · have sameSize : pool.drain.size = pool.size := by
      rw [Pool.drain_of_idle idle harmless, Pool.size, Pool.size, idle]
      simp
    simp only [Extractor.run, discovered, Pool.start?, firstRefused_none]
    rw [submitAll_of_open rfl staffed]
    simp only [Underway.findings, sameSize]
    rfl

-- What can be said of an extraction without knowing in which order its scans came back.
structure Findings.Describes (findings : Findings) (w : Workspace) (receiver : List Char)
    (files : List Path) : Prop where
  signatures : findings.signatures.Perm
    ((files.filterMap fun p => (textOf w p).toOption).flatMap (Signature.ofText receiver))
  ordered : Tally.InByteOrder findings.signatures
  errors : findings.errors.Perm (files.filterMap (readError? w))
  discovered : findings.stats.discovered = files.length
  counted : findings.stats.scanned + findings.stats.failed = findings.stats.discovered
  failed : findings.stats.failed = files.countP fun p => (readError? w p).isSome
  found : findings.stats.found = findings.signatures.length

theorem signaturesOf?_scanFile (w : Workspace) (receiver : List Char) (p : Path) :
    Tally.signaturesOf? (.ok (scanFile w receiver p)) =
      (textOf w p).toOption.map (Signature.ofText receiver) := by
  rw [scanFile_eq]
  cases textOf w p <;> rfl

theorem failureOf?_scanFile (w : Workspace) (receiver : List Char) (p : Path) :
    Tally.failureOf? (.ok (scanFile w receiver p)) = readError? w p := by
  rw [scanFile_eq, readError?]
  cases textOf w p <;> rfl

theorem describes_of_outcomes {w : Workspace} {receiver : List Char} {files : List Path}
    {outcomes : List (Outcome Scanned)}
    (same : outcomes.Perm (files.map fun p => .ok (scanFile w receiver p))) (workers elapsed : Nat) :
    (Findings.ofTally files.length workers elapsed (Tally.absorbAll {} outcomes)).Describes
      w receiver files := by
  have lists := same.filterMap Tally.signaturesOf?
  have failures := same.filterMap Tally.failureOf?
  simp only [List.filterMap_map, Function.comp_def, signaturesOf?_scanFile,
    failureOf?_scanFile] at lists failures
  have tally := Tally.absorbAll_eq {} outcomes
  rw [List.nil_append, List.nil_append] at tally
  have errors : (Tally.absorbAll {} outcomes).errors.Perm (files.filterMap (readError? w)) := by
    rw [tally]
    exact failures
  constructor
  case signatures =>
    refine (Tally.signatures_perm _).trans ?_
    rw [tally]
    refine lists.flatten.trans ?_
    rw [List.flatMap_def, List.map_filterMap]
  case ordered => exact Tally.signatures_inByteOrder _
  case errors => exact errors
  case discovered => rfl
  case counted =>
    have count := Tally.scanned_add_failed_absorbAll {} outcomes
    rw [same.length_eq, List.length_map] at count
    simpa [Findings.ofTally, Tally.scanned, Tally.failed] using count
  case failed =>
    have count := errors.length_eq
    rwa [List.length_filterMap_eq_countP] at count
  case found => rfl

theorem Findings.Describes.isComplete_iff {findings : Findings} {w : Workspace}
    {receiver : List Char} {files : List Path} (described : findings.Describes w receiver files) :
    findings.isComplete = true ↔ ∀ p ∈ files, ∃ text, textOf w p = .ok text := by
  rw [isComplete, List.isEmpty_iff, ← List.length_eq_zero_iff, described.errors.length_eq,
    List.length_eq_zero_iff, List.filterMap_eq_nil_iff]
  refine forall₂_congr fun p _ => ?_
  unfold readError?
  cases textOf w p <;> simp

theorem Findings.Describes.isComplete_eq_false_iff {findings : Findings} {w : Workspace}
    {receiver : List Char} {files : List Path} (described : findings.Describes w receiver files) :
    findings.isComplete = false ↔ ∃ p ∈ files, ∃ cause, textOf w p = .error cause := by
  rw [← Bool.not_eq_true, described.isComplete_iff]
  push Not
  refine exists_congr fun p => and_congr_right fun _ => ?_
  cases textOf w p <;> simp

theorem Underway.findings_described {w : Workspace} {receiver : List Char} {size : Nat}
    {files : List Path} {state : Underway}
    (reached : Reaches w receiver (start size files) state) (complete : state.isComplete = true)
    (elapsed : Nat) :
    (state.findings files.length elapsed).Describes w receiver files ∧
      (state.findings files.length elapsed).stats.workers = max 1 size := by
  obtain ⟨workers, outcomes, tally, same⟩ := received_of_complete reached complete
  rw [findings, tally]
  exact ⟨describes_of_outcomes same _ elapsed, workers⟩

theorem run_of_started {extractor : Extractor} {refused : Nat → Option String} {pool : Pool Scanned}
    (started : Pool.start? refused extractor.poolSize = .ok pool) (w : Workspace)
    (receiver : List Char) (root : Path) (elapsed : Nat) :
    extractor.run w receiver root refused elapsed =
      extractor.run w receiver root (fun _ => none) elapsed := by
  obtain rfl := start?_eq_ok started
  have alsoStarted : (Pool.start? (fun _ => none) extractor.poolSize : Except PoolError (Pool Scanned)) =
      .ok (.start extractor.poolSize) := by
    simp only [Pool.start?, firstRefused_none]
  simp only [Extractor.run, started, alsoStarted]

theorem started_of_run {extractor : Extractor} {w : Workspace} {receiver : List Char} {root : Path}
    {refused : Nat → Option String} {elapsed : Nat} {findings : Findings}
    (finished : extractor.run w receiver root refused elapsed = .ok findings) :
    ∃ pool : Pool Scanned, Pool.start? refused extractor.poolSize = .ok pool := by
  unfold Extractor.run at finished
  split at finished
  next => cases finished
  next =>
    split at finished
    next => cases finished
    next pool started => exact ⟨pool, started⟩

-- What a run that could start its workers comes to.
theorem run_of_discover {extractor : Extractor} {w : Workspace} {root : Path} {files : List Path}
    {refused : Nat → Option String} {pool : Pool Scanned}
    (discovered : extractor.filter.discover w root = .ok files)
    (started : Pool.start? refused extractor.poolSize = .ok pool) (receiver : List Char)
    (elapsed : Nat) :
    ∃ findings, extractor.run w receiver root refused elapsed = .ok findings ∧
      findings.Describes w receiver files ∧
      findings.stats.workers = max 1 extractor.poolSize ∧ findings.stats.elapsed = elapsed := by
  obtain ⟨state, reached, complete, run⟩ := run_reaches discovered receiver elapsed
  obtain ⟨described, workers⟩ := Underway.findings_described reached complete elapsed
  refine ⟨_, ?_, described, workers, rfl⟩
  rw [run_of_started started, run]

-- Refused workers can keep an extraction from its end, but not change what it finds there.
theorem run_described {extractor : Extractor} {w : Workspace} {receiver : List Char} {root : Path}
    {refused : Nat → Option String} {elapsed : Nat} {findings : Findings}
    (finished : extractor.run w receiver root refused elapsed = .ok findings) :
    ∃ files, extractor.filter.discover w root = .ok files ∧ findings.Describes w receiver files := by
  cases discovered : extractor.filter.discover w root with
  | error error => simp [Extractor.run, discovered] at finished
  | ok files =>
    obtain ⟨pool, started⟩ := started_of_run finished
    obtain ⟨_, run, described, -⟩ := run_of_discover discovered started receiver elapsed
    rw [finished] at run
    cases run
    exact ⟨files, rfl, described⟩

theorem discover_error_cases {filter : Filter} {w : Workspace} {root : Path} {error : Error}
    (failed : filter.discover w root = .error error) :
    error = .pathNotFound root ∨ error = .pathIsFile root ∨
      (∃ cause, error = .rootAccess root cause) ∨ error = .noSourceFiles root filter.extension := by
  unfold Filter.discover at failed
  split at failed
  next cause _ =>
    split at failed
    next => exact .inl (Except.error.inj failed).symm
    next => exact .inr (.inr (.inl ⟨cause, (Except.error.inj failed).symm⟩))
  next =>
    simp only at failed
    split at failed
    next => exact .inr (.inr (.inr (Except.error.inj failed).symm))
    next => cases failed
  next => exact .inr (.inl (Except.error.inj failed).symm)

theorem run_error_cases {extractor : Extractor} {w : Workspace} {receiver : List Char} {root : Path}
    {refused : Nat → Option String} {elapsed : Nat} {error : Error}
    (failed : extractor.run w receiver root refused elapsed = .error error) :
    extractor.filter.discover w root = .error error ∨ ∃ cause, error = .pool cause := by
  unfold Extractor.run at failed
  split at failed
  next missing =>
    cases failed
    exact .inl missing
  next =>
    split at failed
    next cause _ => exact .inr ⟨cause, (Except.error.inj failed).symm⟩
    next =>
      split at failed
      next cause _ => exact .inr ⟨cause, (Except.error.inj failed).symm⟩
      next => cases failed

theorem Findings.Describes.stats_eq {first second : Findings} {w : Workspace} {receiver : List Char}
    {files : List Path} (described : first.Describes w receiver files)
    (alsoDescribed : second.Describes w receiver files)
    (workers : first.stats.workers = second.stats.workers)
    (elapsed : first.stats.elapsed = second.stats.elapsed) :
    first.signatures = second.signatures ∧ first.stats = second.stats := by
  have signatures : first.signatures = second.signatures :=
    described.ordered.eq_of_perm alsoDescribed.ordered
      (described.signatures.trans alsoDescribed.signatures.symm)
  refine ⟨signatures, ?_⟩
  have found := described.found
  rw [signatures, ← alsoDescribed.found] at found
  have failed := described.failed.trans alsoDescribed.failed.symm
  have discovered := described.discovered.trans alsoDescribed.discovered.symm
  have scanned : first.stats.scanned = second.stats.scanned := by
    have counted := described.counted
    have alsoCounted := alsoDescribed.counted
    omega
  exact (Stats.mk.injEq ..).mpr ⟨discovered, scanned, failed, found, workers, elapsed⟩

theorem findings_independent_of_schedule {extractor : Extractor} {w : Workspace} {root : Path}
    {files : List Path} (discovered : extractor.filter.discover w root = .ok files)
    (receiver : List Char) {state : Underway}
    (reached : Underway.Reaches w receiver (.start extractor.poolSize files) state)
    (complete : state.isComplete = true) (elapsed : Nat) :
    let findings := state.findings files.length elapsed
    findings.signatures.Perm
      ((files.filterMap fun p => (textOf w p).toOption).flatMap (Signature.ofText receiver)) ∧
    Tally.InByteOrder findings.signatures ∧
    findings.errors.Perm (files.filterMap (readError? w)) ∧
    (findings.isComplete = true ↔ ∀ p ∈ files, ∃ text, textOf w p = .ok text) ∧
    findings.stats.discovered = files.length ∧
    findings.stats.scanned + findings.stats.failed = findings.stats.discovered ∧
    findings.stats.failed = (files.countP fun p => (readError? w p).isSome) ∧
    findings.stats.failed = findings.errors.length ∧
    findings.stats.found = findings.signatures.length ∧
    findings.stats.workers = max 1 extractor.poolSize ∧
    ∃ drained, extractor.run w receiver root (fun _ => none) elapsed = .ok drained ∧
      drained.signatures = findings.signatures ∧ drained.errors.Perm findings.errors ∧
      drained.stats = findings.stats := by
  obtain ⟨described, workers⟩ := Underway.findings_described reached complete elapsed
  obtain ⟨last, drainedReached, drainedComplete, run⟩ := run_reaches discovered receiver elapsed
  obtain ⟨alsoDescribed, alsoWorkers⟩ :=
    Underway.findings_described drainedReached drainedComplete elapsed
  obtain ⟨signatures, stats⟩ :=
    alsoDescribed.stats_eq described (alsoWorkers.trans workers.symm) rfl
  exact ⟨described.signatures, described.ordered, described.errors, described.isComplete_iff,
    described.discovered, described.counted, described.failed, rfl, described.found, workers,
    _, run, signatures, alsoDescribed.errors.trans described.errors.symm, stats⟩

-- A file with a method beside one that is not UTF-8.
theorem findings_independent_of_schedule_broken_file :
    let files : List Path := [.ofString "./a.go", .ofString "./b.go"]
    let w : Workspace := ⟨⟨[([bytesOf "a.go"], .file (bytesOf "func (s *T) Put() \x7b\n")),
      ([bytesOf "b.go"], .file [0xff])]⟩, []⟩
    ({} : Extractor).filter.discover w (.ofString ".") = .ok files ∧
      ∃ state, Underway.Reaches w ['T'] (.start ({} : Extractor).poolSize files) state ∧
        state.isComplete = true ∧
        (state.findings 2 0).signatures.Perm ["Put()".toList] ∧
        (state.findings 2 0).stats.failed = 1 := by
  intro files w
  have discovered : ({} : Extractor).filter.discover w (.ofString ".") = .ok files := by
    decide +kernel
  obtain ⟨state, reached, complete, -⟩ := run_reaches discovered ['T'] 0
  obtain ⟨signatures, -, -, -, -, -, failed, -⟩ :=
    findings_independent_of_schedule discovered ['T'] reached complete 0
  have texts : ((files.filterMap fun p => (textOf w p).toOption).flatMap
      (Signature.ofText ['T'])) = ["Put()".toList] := by decide +kernel
  have broken : (files.countP fun p => (readError? w p).isSome) = 1 := by decide +kernel
  rw [texts] at signatures
  rw [broken] at failed
  exact ⟨discovered, state, reached, complete, signatures, failed⟩

end InterfaceDraft.Extraction
