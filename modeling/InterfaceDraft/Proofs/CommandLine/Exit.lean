import InterfaceDraft.CommandLine.Run
import InterfaceDraft.Proofs.Extraction.Schedule
import InterfaceDraft.Proofs.Output.Opening

set_option autoImplicit false

namespace InterfaceDraft.CommandLine

open Text Files Interface Extraction

-- Nothing was printed, and every file is as it was.
def Ending.Untouched (ending : Ending) (w : Workspace) : Prop :=
  ending.stdout = [] ∧ ending.workspace = w

-- The output cannot be opened, or does not take the whole text.
def Arguments.SinkFails (arguments : Arguments) (settings : Settings) (machine : Machine)
    (w : Workspace) (text : List Char) : Prop :=
  match arguments.out with
  | none => ∃ room error, machine.outlet = some (room, error) ∧ room < (encode text).length
  | some out =>
    let opening := Output.openSink w out settings.output.fileExtension
      settings.output.createDirs
    (∃ error, opening.2 = .error error) ∨
      ∃ sink error, opening.2 = .ok sink ∧ sink.write opening.1 (encode text) = .error error

-- The output got this text and nothing else.
def Arguments.Received (arguments : Arguments) (settings : Settings) (before after : Workspace)
    (printed text : List Char) : Prop :=
  match arguments.out with
  | none => printed = text ∧ after = before
  | some out => printed = [] ∧
      after.Took (Output.pathFor out settings.output.fileExtension) (encode text)

theorem encode_render_ne_nil (draft : Draft) (signatures : List (List Char)) :
    encode (draft.render signatures) ≠ [] := by
  rw [Ne, encode_eq_nil_iff]
  simp [Draft.render, Draft.pieces]

theorem print_cases (machine : Machine) (w : Workspace) (text : List Char) :
    let delivery := machine.print w text
    let fails := ∃ room error, machine.outlet = some (room, error) ∧ room < (encode text).length
    (fails ∧ delivery.failure.isSome = true) ∨
      (¬ fails ∧ delivery.failure = none ∧ delivery.printed = text ∧ delivery.workspace = w) := by
  intro delivery fails
  cases outlet : machine.outlet with
  | none =>
    right
    simp [delivery, fails, Machine.print, outlet]
  | some limit =>
    obtain ⟨room, error⟩ := limit
    by_cases enough : (encode text).length ≤ room
    · right
      simp [delivery, fails, Machine.print, outlet, Writer.put, enough, Nat.not_lt.mpr enough]
    · left
      simp [delivery, fails, Machine.print, outlet, Writer.put, enough, Nat.not_le.mp enough]

theorem took_of_openSink {w opened after : Workspace} {out : Path} {extension : String}
    {createDirs : Bool} {sink : Output.Sink} {content : Bytes}
    (opening : Output.openSink w out extension createDirs = (opened, .ok sink))
    (written : sink.write opened content = .ok after) (nonempty : content ≠ []) :
    after.Took (Output.pathFor out extension) content := by
  obtain ⟨made, -, created⟩ := Output.openSink_ok opening
  rw [Output.Sink.write] at written
  split at written
  next filled =>
    cases written
    exact Workspace.took_of_fill created filled nonempty
  next => cases written

theorem deliver_cases (arguments : Arguments) (settings : Settings) (machine : Machine)
    (w : Workspace) {text : List Char} (nonempty : encode text ≠ []) :
    let delivery := deliver arguments settings machine w text
    (arguments.SinkFails settings machine w text ∧ delivery.failure.isSome = true) ∨
      (¬ arguments.SinkFails settings machine w text ∧ delivery.failure = none ∧
        arguments.Received settings w delivery.workspace delivery.printed text) := by
  unfold deliver Arguments.SinkFails Arguments.Received
  cases arguments.out with
  | none => exact print_cases machine w text
  | some out =>
    rcases opening : Output.openSink w out settings.output.fileExtension
      settings.output.createDirs with ⟨opened, error | sink⟩
    · left
      simp [opening]
    · cases writing : sink.write opened (encode text) with
      | error error =>
        left
        simp [opening, writing]
      | ok after =>
        right
        have took := took_of_openSink opening writing nonempty
        simpa [opening, writing] using took

-- A strict run ends before the output if a file failed.
theorem conclude_strict {arguments : Arguments} {findings : Findings}
    (strict : arguments.strict = true) (partly : findings.isComplete = false) (settings : Settings)
    (machine : Machine) (colours : Colours) (w : Workspace) :
    let ending := conclude arguments settings machine colours w findings
    ending.exit = 3 ∧ ending.Untouched w := by
  simp [conclude, strict, partly, ExitCode.code, Ending.Untouched]

theorem conclude_delivered {arguments : Arguments} {findings : Findings}
    (goesOn : (arguments.strict && !findings.isComplete) = false) (settings : Settings)
    (machine : Machine) (colours : Colours) (w : Workspace) :
    let ending := conclude arguments settings machine colours w findings
    let text := (arguments.draft settings).render findings.signatures
    (arguments.SinkFails settings machine w text ∧ ending.exit = 5) ∨
      (¬ arguments.SinkFails settings machine w text ∧ ending.exit = (exitOf findings).code ∧
        arguments.Received settings w ending.workspace ending.stdout text) := by
  intro ending text
  have delivered := deliver_cases arguments settings machine w
    (encode_render_ne_nil (arguments.draft settings) findings.signatures)
  simp only [ending, conclude, goesOn, Bool.false_eq_true, if_false]
  rcases delivered with ⟨fails, failure⟩ | ⟨works, none, received⟩
  · obtain ⟨⟨activity, error⟩, failure⟩ := Option.isSome_iff_exists.mp failure
    left
    rw [failure]
    exact ⟨fails, rfl⟩
  · right
    rw [none]
    exact ⟨works, rfl, received⟩

theorem conclude_exit (arguments : Arguments) (settings : Settings) (machine : Machine)
    (colours : Colours) (w : Workspace) (findings : Findings) :
    (conclude arguments settings machine colours w findings).exit ∈ [0, 3, 5] := by
  by_cases goesOn : (arguments.strict && !findings.isComplete) = false
  · rcases conclude_delivered goesOn settings machine colours w with ⟨-, exit⟩ | ⟨-, exit, -⟩
    · simp [exit]
    · rw [exit, exitOf]
      split <;> decide
  · simp only [Bool.not_eq_false, Bool.and_eq_true, Bool.not_eq_true'] at goesOn
    simp [(conclude_strict goesOn.1 goesOn.2 settings machine colours w).1]

theorem conclude_tells {findings : Findings} {w : Workspace} {receiver : List Char}
    {files : List Path} (described : findings.Describes w receiver files) (arguments : Arguments)
    (settings : Settings) (machine : Machine) (colours : Colours) :
    let ending := conclude arguments settings machine colours w findings
    let failed := ∃ p ∈ files, ∃ cause, textOf w p = .error cause
    let text := (arguments.draft settings).render findings.signatures
    (arguments.strict = true ∧ failed → ending.exit = 3 ∧ ending.Untouched w) ∧
    (¬ (arguments.strict = true ∧ failed) →
      (ending.exit = 5 ↔ arguments.SinkFails settings machine w text) ∧
      (¬ arguments.SinkFails settings machine w text →
        (failed → ending.exit = 3) ∧ (¬ failed → ending.exit = 0) ∧
        arguments.Received settings w ending.workspace ending.stdout text)) := by
  intro ending failed text
  have partly : findings.isComplete = false ↔ failed := described.isComplete_eq_false_iff
  constructor
  · rintro ⟨strict, someFailed⟩
    exact conclude_strict strict (partly.mpr someFailed) settings machine colours w
  · intro goesOn
    have delivers : (arguments.strict && !findings.isComplete) = false := by
      rw [← partly] at goesOn
      simpa using goesOn
    rcases conclude_delivered delivers settings machine colours w with
      ⟨fails, exit⟩ | ⟨works, exit, received⟩
    · exact ⟨iff_of_true exit fails, fun works => absurd fails works⟩
    · have other : ending.exit ≠ 5 := by
        rw [exit, exitOf]
        split <;> decide
      refine ⟨iff_of_false other works, fun _ => ⟨?_, ?_, received⟩⟩
      · intro someFailed
        rw [exit, exitOf, partly.mpr someFailed]
        rfl
      · intro noneFailed
        rw [← partly, Bool.not_eq_false] at noneFailed
        rw [exit, exitOf, noneFailed]
        rfl

section Phases

variable {arguments : Arguments} (machine : Machine) {w : Workspace}
  {environment : List Environment.Variable} {loaded : Settings}

theorem run_of_settings_error {error : SettingsError}
    (failed : arguments.loaded w environment = .error error) (readable : error ≠ .cutVariable) :
    let ending := arguments.run machine w environment
    ending.exit = 6 ∧ ending.Untouched w := by
  have settings : arguments.settings w environment = .error error := by
    rw [Arguments.settings, failed]
    rfl
  simp only [Arguments.run, settings]
  cases error with
  | cutVariable => exact absurd rfl readable
  | notADocument | fault => exact ⟨rfl, rfl, rfl⟩

theorem settings_of_loaded (found : arguments.loaded w environment = .ok loaded) :
    arguments.settings w environment = .ok (arguments.override loaded) := by
  rw [Arguments.settings, found]
  rfl

theorem run_of_extraction_error (found : arguments.loaded w environment = .ok loaded)
    (fits : arguments.exceedsPool (arguments.override loaded) machine w = false) {error : Error}
    (failed : arguments.extract (arguments.override loaded) machine w = .error error) :
    let ending := arguments.run machine w environment
    ending.exit = (ExitCode.ofExtraction error).code ∧ ending.Untouched w := by
  simp only [Arguments.run, settings_of_loaded found, fits, failed]
  exact ⟨rfl, rfl, rfl⟩

theorem run_of_findings (found : arguments.loaded w environment = .ok loaded)
    (fits : arguments.exceedsPool (arguments.override loaded) machine w = false)
    {findings : Findings}
    (extracted : arguments.extract (arguments.override loaded) machine w = .ok findings) :
    arguments.run machine w environment =
      conclude arguments (arguments.override loaded) machine (.ofEnvironment environment) w
        findings := by
  simp only [Arguments.run, settings_of_loaded found, fits, extracted, Bool.false_eq_true, if_false]

end Phases

-- Errors of single files stand in the findings, so none of them ends an extraction.
theorem extract_error_cases {arguments : Arguments} {settings : Settings} {machine : Machine}
    {w : Workspace} {error : Error}
    (failed : arguments.extract settings machine w = .error error) :
    let root := arguments.root
    error = .pathNotFound root ∨ error = .pathIsFile root ∨
      (∃ cause, error = .rootAccess root cause) ∨
      error = .noSourceFiles root settings.extraction.filter.extension ∨
      ∃ cause, error = .pool cause := by
  rcases run_error_cases failed with undiscovered | pool
  · rcases discover_error_cases undiscovered with missing | file | unreachable | empty
    · exact .inl missing
    · exact .inr (.inl file)
    · exact .inr (.inr (.inl unreachable))
    · exact .inr (.inr (.inr (.inl empty)))
  · exact .inr (.inr (.inr (.inr pool)))

theorem ofExtraction_code {arguments : Arguments} {settings : Settings} {machine : Machine}
    {w : Workspace} {error : Error}
    (failed : arguments.extract settings machine w = .error error) :
    let root := arguments.root
    let code := (ExitCode.ofExtraction error).code
    (code = 7 ↔ error = .pathNotFound root ∨ error = .pathIsFile root ∨
      ∃ cause, error = .rootAccess root cause) ∧
    (code = 4 ↔ error = .noSourceFiles root settings.extraction.filter.extension) ∧
    (code = 1 ↔ ∃ cause, error = .pool cause) ∧ code ∈ [7, 4, 1] := by
  rcases extract_error_cases failed with rfl | rfl | ⟨cause, rfl⟩ | rfl | ⟨cause, rfl⟩ <;>
    simp [ExitCode.ofExtraction, ExitCode.code]

-- Runs that are broken off are left out: those with a variable that cannot be read, and those that
-- get to a pool for which there is no room. Each of the other runs ends in the first phase that
-- fails, so the later statements are made for runs that came through the earlier phases.
theorem exit_tells_what_was_written (machine : Machine) (w : Workspace)
    (environment : List Environment.Variable) {commandLine : List Bytes} {arguments : Arguments}
    (accepted : Arguments.read commandLine = .ok arguments)
    (readable : arguments.loaded w environment ≠ .error .cutVariable)
    (fits : ∀ loaded, arguments.loaded w environment = .ok loaded →
      arguments.exceedsPool (arguments.override loaded) machine w = false) :
    let ending := run machine w environment commandLine
    (ending.exit = 6 ↔ ∃ error, arguments.loaded w environment = .error error) ∧
    (ending.exit = 6 → ending.Untouched w) ∧
    ∀ loaded, arguments.loaded w environment = .ok loaded →
      let settings := arguments.override loaded
      let root := arguments.root
      let extracted := arguments.extract settings machine w
      (ending.exit = 7 ↔ extracted = .error (.pathNotFound root) ∨
        extracted = .error (.pathIsFile root) ∨
        ∃ cause, extracted = .error (.rootAccess root cause)) ∧
      (ending.exit = 4 ↔
        extracted = .error (.noSourceFiles root settings.extraction.filter.extension)) ∧
      (ending.exit = 1 ↔ ∃ cause, extracted = .error (.pool cause)) ∧
      (∀ error, extracted = .error error → ending.exit ∈ [7, 4, 1] ∧ ending.Untouched w) ∧
      ∀ findings, extracted = .ok findings →
        ∃ files signatures, settings.extraction.filter.discover w root = .ok files ∧
          signatures.Perm ((files.filterMap fun p => (textOf w p).toOption).flatMap
            (Signature.ofText arguments.receiver.toList)) ∧
          Tally.InByteOrder signatures ∧
          let failed := ∃ p ∈ files, ∃ cause, textOf w p = .error cause
          let style := arguments.style.getD loaded.output.style
          let text := { arguments.draft settings with style }.render signatures
          (arguments.strict = true ∧ failed → ending.exit = 3 ∧ ending.Untouched w) ∧
          (¬ (arguments.strict = true ∧ failed) →
            (ending.exit = 5 ↔ arguments.SinkFails settings machine w text) ∧
            (¬ arguments.SinkFails settings machine w text →
              (failed → ending.exit = 3) ∧ (¬ failed → ending.exit = 0) ∧
              arguments.Received settings w ending.workspace ending.stdout text)) := by
  intro ending
  have ran : ending = arguments.run machine w environment := by
    simp only [ending, run, accepted]
  cases found : arguments.loaded w environment with
  | error error =>
    have proper : error ≠ .cutVariable := fun same => readable (same ▸ found)
    obtain ⟨exit, untouched⟩ := run_of_settings_error machine found proper
    rw [← ran] at exit untouched
    refine ⟨iff_of_true exit ⟨error, rfl⟩, fun _ => untouched, ?_⟩
    rintro loaded ⟨⟩
  | ok loaded =>
    have fits := fits loaded found
    cases extraction : arguments.extract (arguments.override loaded) machine w with
    | error error =>
      obtain ⟨exit, untouched⟩ := run_of_extraction_error machine found fits extraction
      obtain ⟨invalidRoot, noSources, pool, among⟩ := ofExtraction_code extraction
      rw [← ran] at exit untouched
      rw [← exit] at invalidRoot noSources pool among
      have other : ending.exit ≠ 6 := ne_of_mem_of_not_mem among (by decide)
      refine ⟨iff_of_false other (by simp), fun six => absurd six other, ?_⟩
      rintro _ ⟨⟩
      simp only [extraction, Except.error.injEq]
      refine ⟨invalidRoot, noSources, pool, fun _ _ => ⟨among, untouched⟩, ?_⟩
      rintro findings ⟨⟩
    | ok findings =>
      have concluded := run_of_findings machine found fits extraction
      obtain ⟨files, discovered, described⟩ := run_described extraction
      have tells := conclude_tells described arguments (arguments.override loaded) machine
        (.ofEnvironment environment)
      have among := conclude_exit arguments (arguments.override loaded) machine
        (.ofEnvironment environment) w findings
      rw [← concluded, ← ran] at tells among
      have other {code : Nat} (beyond : code ∉ [0, 3, 5]) : ending.exit ≠ code :=
        ne_of_mem_of_not_mem among beyond
      refine ⟨iff_of_false (other (by decide)) (by simp),
        fun six => absurd six (other (by decide)), ?_⟩
      rintro _ ⟨⟩
      simp only [extraction]
      refine ⟨iff_of_false (other (by decide)) (by simp), iff_of_false (other (by decide)) (by simp),
        iff_of_false (other (by decide)) (by simp), by simp, ?_⟩
      rintro _ ⟨⟩
      exact ⟨files, findings.signatures, discovered, described.signatures, described.ordered, tells⟩

-- One file is not UTF-8, so the declaration is written with the signature of the other.
theorem exit_tells_what_was_written_broken_file :
    let w : Workspace := ⟨⟨[([bytesOf "a.go"], .file (bytesOf "func (s *T) Put() \x7b\n")),
      ([bytesOf "b.go"], .file [0xff])]⟩, []⟩
    let commandLine : List String := ["--struct", "T", "--out", "iface"]
    let ending := run {} w [] commandLine
    ending.exit = 3 ∧ ending.stdout = [] ∧
      ending.workspace.Took (.ofString "iface.go") (bytesOf "interface T \x7b\n\tPut()\n\x7d\n") := by
  intro w commandLine ending
  let arguments : Arguments := { receiver := "T", out := some (.ofString "iface") }
  have accepted : Arguments.read commandLine = .ok arguments := by decide +kernel
  have loaded : arguments.loaded w [] = .ok {} := by decide +kernel
  have fits (other : Settings) (found : arguments.loaded w [] = .ok other) :
      arguments.exceedsPool (arguments.override other) {} w = false := by
    cases loaded.symm.trans found
    decide +kernel
  have finishes : (arguments.extract (arguments.override {}) {} w).isOk = true := by decide +kernel
  have exit : ending.exit = 3 := by decide +kernel
  obtain ⟨-, -, phases⟩ := exit_tells_what_was_written {} w [] accepted (by simp [loaded]) fits
  obtain ⟨-, -, -, -, finished⟩ := phases {} loaded
  cases extracted : arguments.extract (arguments.override {}) {} w with
  | error error => simp [extracted, Except.isOk, Except.toBool] at finishes
  | ok findings =>
    obtain ⟨files, signatures, discovered, same, -, -, delivered⟩ := finished findings extracted
    let sources : List Path := [.ofString "./a.go", .ofString "./b.go"]
    have found : (arguments.override {}).extraction.filter.discover w arguments.root =
        .ok sources := by decide +kernel
    obtain rfl : sources = files := Except.ok.inj (found.symm.trans discovered)
    have texts : (sources.filterMap fun p => (textOf w p).toOption).flatMap
        (Signature.ofText arguments.receiver.toList) = ["Put()".toList] := by decide +kernel
    rw [texts, List.perm_singleton] at same
    subst same
    obtain ⟨fails, works⟩ := delivered (by simp [arguments])
    obtain ⟨-, -, received⟩ := works (mt fails.mpr (by rw [exit]; decide))
    have path : Output.pathFor (.ofString "iface") (arguments.override {}).output.fileExtension =
        .ofString "iface.go" := by decide +kernel
    have text : encode ((arguments.draft (arguments.override {})).render ["Put()".toList]) =
        bytesOf "interface T \x7b\n\tPut()\n\x7d\n" := by decide +kernel
    obtain ⟨printed, took⟩ := received
    rw [path] at took
    exact ⟨exit, printed, text ▸ took⟩

end InterfaceDraft.CommandLine
