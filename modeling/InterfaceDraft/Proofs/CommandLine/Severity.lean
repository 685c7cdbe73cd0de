import InterfaceDraft.Proofs.CommandLine.Exit
import InterfaceDraft.Proofs.Extraction.Ending

set_option autoImplicit false

namespace InterfaceDraft.CommandLine

open Text Files Interface Extraction

-- The exit status of a run, given what its extraction came to.
def Arguments.exitAfter (arguments : Arguments) (settings : Settings) (machine : Machine)
    (colours : Colours) (w : Workspace) : Except Extraction.Error Findings → Nat
  | .error error => (ExitCode.ofExtraction error).code
  | .ok findings => (conclude arguments settings machine colours w findings).exit

theorem sinkFails_of_conclude {arguments : Arguments} {settings : Settings} {machine : Machine}
    {colours : Colours} {w : Workspace} {findings : Findings}
    (five : (conclude arguments settings machine colours w findings).exit = 5) :
    arguments.SinkFails settings machine w ((arguments.draft settings).render findings.signatures) := by
  by_cases goesOn : (arguments.strict && !findings.isComplete) = false
  · rcases conclude_delivered goesOn settings machine colours w with ⟨fails, -⟩ | ⟨-, exit, -⟩
    · exact fails
    · rw [exit, exitOf] at five
      split at five <;> cases five
  · simp only [Bool.not_eq_false, Bool.and_eq_true, Bool.not_eq_true'] at goesOn
    have three := (conclude_strict goesOn.1 goesOn.2 settings machine colours w).1
    rw [three] at five
    cases five

theorem exit_of_run {machine : Machine} {w : Workspace} {environment : List Environment.Variable}
    {commandLine : List Bytes} (five : (run machine w environment commandLine).exit = 5) :
    ∃ arguments settings, Arguments.read commandLine = .ok arguments ∧
      arguments.settings w environment = .ok settings ∧
      arguments.exitAfter settings machine (.ofEnvironment environment) w
        (arguments.extract settings machine w) = 5 := by
  unfold run at five
  split at five
  next halt _ => cases halt <;> cases five
  next arguments accepted =>
    unfold Arguments.run at five
    simp only at five
    split at five
    next => cases five
    next => cases five
    next settings found =>
      refine ⟨arguments, settings, accepted, found, ?_⟩
      split at five
      next => cases five
      next =>
        split at five
        next error failed => rw [failed]; exact five
        next findings extracted => rw [extracted]; exact five

theorem sinkFails_of_exitAfter {extractor : Extractor} {w after : Workspace}
    {receiver : List Char} {root : Path} {refused : Nat → Option String} {elapsed : Nat}
    {result : Except Extraction.Error Findings} {pool : Option (Pool Scanned)}
    (ended : Ends extractor w receiver root refused elapsed result pool) {arguments : Arguments}
    {settings : Settings} {machine : Machine} {colours : Colours}
    (five : arguments.exitAfter settings machine colours after result = 5) :
    ∃ findings, result = .ok findings ∧ arguments.SinkFails settings machine after
      ((arguments.draft settings).render findings.signatures) := by
  cases result with
  | error error =>
    -- Only the error of a single file has this status, and none of those ends an extraction.
    rcases ended.error_cases.2 with rfl | rfl | ⟨_, rfl⟩ | rfl | ⟨_, _, rfl, _⟩ <;> cases five
  | ok findings => exact ⟨findings, rfl, sinkFails_of_conclude five⟩

theorem errors_never_mix (extractor : Extractor) (w : Workspace) (receiver : List Char)
    (root : Path) (refused : Nat → Option String) (elapsed : Nat) :
    let ends := Ends extractor w receiver root refused elapsed
    (∃ pool, ends (extractor.run w receiver root refused elapsed) pool) ∧
    (∀ error pool, ends (.error error) pool →
      error.isFatal = true ∧ pool = none ∧
      (error = .pathNotFound root ∨ error = .pathIsFile root ∨
        (∃ cause, error = .rootAccess root cause) ∨
        error = .noSourceFiles root extractor.filter.extension ∨
        ∃ worker reason, error = .pool (.spawn worker reason) ∧ refused worker = some reason ∧
          worker < max 1 extractor.poolSize)) ∧
    (∀ findings pool, ends (.ok findings) pool →
      ∃ files used, extractor.filter.discover w root = .ok files ∧ pool = some used ∧
        used.submitted = files.length ∧
        (findings.complete = .ok findings.signatures ∨
          ∃ errors, findings.complete = .error errors ∧ errors ≠ [] ∧
            ∀ error ∈ errors, error.isFatal = false ∧
              ((∃ p ∈ files, ∃ cause, error = .fileRead p cause) ∨
                ∃ message, error = .workerPanicked message))) ∧
    (∀ result pool, ends result pool → ∀ arguments settings machine colours after,
      Arguments.exitAfter arguments settings machine colours after result = 5 →
        ∃ findings, result = .ok findings ∧ arguments.SinkFails settings machine after
          ((arguments.draft settings).render findings.signatures)) ∧
    ∀ machine environment commandLine, (run machine w environment commandLine).exit = 5 →
      ∃ arguments settings findings, Arguments.read commandLine = .ok arguments ∧
        arguments.settings w environment = .ok settings ∧
        arguments.extract settings machine w = .ok findings ∧
        arguments.SinkFails settings machine w
          ((arguments.draft settings).render findings.signatures) := by
  intro ends
  refine ⟨run_ends extractor w receiver root refused elapsed, ?_, ?_, ?_, ?_⟩
  · intro error pool ended
    obtain ⟨unused, cases⟩ := ended.error_cases
    refine ⟨?_, unused, cases⟩
    rcases cases with rfl | rfl | ⟨_, rfl⟩ | rfl | ⟨_, _, rfl, _⟩ <;> rfl
  · intro findings pool ended
    obtain ⟨files, discovered, ⟨used, same, submitted⟩, concerns⟩ := ended.findings_cases
    refine ⟨files, used, discovered, same, submitted, ?_⟩
    by_cases complete : findings.isComplete = true
    · exact .inl (if_pos complete)
    · refine .inr ⟨findings.errors, if_neg complete, mt List.isEmpty_iff.mpr complete, ?_⟩
      intro error member
      have concerns := concerns error member
      exact ⟨concerns.isFatal_eq_false, concerns.cases⟩
  · intro result pool ended arguments settings machine colours after five
    exact sinkFails_of_exitAfter ended five
  · intro machine environment commandLine five
    obtain ⟨arguments, settings, accepted, found, five⟩ := exit_of_run five
    obtain ⟨pool, ended⟩ := run_ends (extractorOf settings machine) w arguments.receiver.toList
      arguments.root machine.refused machine.elapsed
    obtain ⟨findings, extracted, fails⟩ := sinkFails_of_exitAfter ended five
    exact ⟨arguments, settings, findings, accepted, found, extracted, fails⟩

-- With its second worker refused the extraction ends at once. With all of them, the scan of the
-- first file panics and the second file is not UTF-8. A run that cannot print has the status 5.
theorem errors_never_mix_two_files :
    let w : Workspace := ⟨⟨[([bytesOf "a.go"], .file (bytesOf "func (s *T) Put() \x7b\n")),
      ([bytesOf "b.go"], .file [0xff])]⟩, []⟩
    let extractor : Extractor := { poolSize := 2 }
    let root : Path := .ofString "."
    let refused (worker : Nat) : Option String := if worker = 1 then some "no room" else none
    let errors : List Extraction.Error := [.workerPanicked "boom",
      .fileRead (.ofString "./b.go") (.other Signature.ReadError.notUtf8.message)]
    (Ends extractor w ['T'] root refused 0 (.error (.pool (.spawn 1 "no room"))) none ∧
      (Extraction.Error.pool (.spawn 1 "no room")).isFatal = true) ∧
    (∃ findings pool, Ends extractor w ['T'] root (fun _ => none) 0 (.ok findings) (some pool) ∧
      pool.submitted = 2 ∧
      findings.complete = .error errors ∧ ∀ error ∈ errors, error.isFatal = false) ∧
    let commandLine : List String := ["--struct", "T"]
    ∃ arguments settings findings, Arguments.read commandLine = .ok arguments ∧
      arguments.extract settings { outlet := some (0, .other "closed") } w = .ok findings ∧
      arguments.SinkFails settings { outlet := some (0, .other "closed") } w
        ((arguments.draft settings).render findings.signatures) := by
  intro w extractor root refused errors
  have discovered : extractor.filter.discover w root =
      .ok [.ofString "./a.go", .ofString "./b.go"] := by decide +kernel
  refine ⟨?_, ?_, ?_⟩
  · have ended : Ends extractor w ['T'] root refused 0 (.error (.pool (.spawn 1 "no room"))) none :=
      .unstaffed discovered rfl
    obtain ⟨-, fatal, -⟩ := errors_never_mix extractor w ['T'] root refused 0
    exact ⟨ended, (fatal _ _ ended).1⟩
  · let pool : Pool Scanned := ⟨true, 2, [.panics (.text "boom"),
      scanTask w ['T'] (.ofString "./b.go")], [.idle, .idle], [], []⟩
    have submitted : Underway.MovesTo ['T']
        ⟨[.ofString "./a.go", .ofString "./b.go"], .start 2, {}⟩ ⟨[], pool, {}⟩ :=
      .head (.panic (.text "boom") (by decide) rfl rfl) (.single (.step w (.submit rfl rfl)))
    let last : Underway := ⟨[], pool.drain, Tally.absorbAll {} pool.drain.received⟩
    have drained : Underway.MovesTo ['T'] ⟨[], pool.close, {}⟩ last :=
      Underway.movesTo_of_reaches (Underway.reaches_follow w ['T'] pool.close pool.schedule)
    have idle : pool.workers = List.replicate (1 + 1) .idle := rfl
    have harmless : ∀ task ∈ pool.queue, task.isArmed = false := by
      simp [pool, Task.isArmed, scanTask]
    have complete : last.isComplete = true := by
      simp only [last, Pool.drain_of_idle idle harmless]
      rfl
    have ended : Ends extractor w ['T'] root (fun _ => none) 0 (.ok (last.findings 2 0))
        (some last.pool) :=
      .finished discovered rfl (submitted.trans (.head (.step w (.close rfl)) drained)) complete
    have reported : (last.findings 2 0).complete = .error errors := by
      simp only [last, Pool.drain_of_idle idle harmless]
      decide +kernel
    obtain ⟨-, -, single, -⟩ := errors_never_mix extractor w ['T'] root (fun _ => none) 0
    obtain ⟨files, used, found, same, count, whole | ⟨_, partly, -, harmless⟩⟩ :=
      single _ _ ended
    · cases reported.symm.trans whole
    · cases reported.symm.trans partly
      cases discovered.symm.trans found
      cases same
      exact ⟨_, _, ended, count, reported, fun error member => (harmless error member).1⟩
  · intro commandLine
    have five : (run { outlet := some (0, .other "closed") } w [] commandLine).exit = 5 := by
      decide +kernel
    obtain ⟨-, -, -, -, output⟩ := errors_never_mix extractor w ['T'] root refused 0
    obtain ⟨arguments, settings, findings, accepted, -, extracted, fails⟩ := output _ _ _ five
    exact ⟨arguments, settings, findings, accepted, extracted, fails⟩

end InterfaceDraft.CommandLine
