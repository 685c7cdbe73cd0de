import InterfaceDraft.CommandLine.Arguments
import InterfaceDraft.CommandLine.ExitCode
import InterfaceDraft.Extraction.Run
import InterfaceDraft.Settings.Store

set_option autoImplicit false

namespace InterfaceDraft.CommandLine

open Text Files Interface Extraction

-- `outlet` says after how many bytes standard output fails, and why; `none` takes everything. `help` is
-- what the reader of the command line prints when it is asked for help.
structure Machine where
  processors : Nat := 1
  refused : Nat → Option String := fun _ => none
  elapsed : Nat := 0
  outlet : Option (Nat × IoError) := none
  help : List Char := []

structure Ending where
  workspace : Workspace
  exit : Nat
  stdout : List Char := []
  stderr : String := ""

def versionText : String := "ifacegen 0.3.1\n"

def usageExit : Nat := 2

def abortExit : Nat := 101

def Ending.aborted (w : Workspace) (reason : String) : Ending :=
  { workspace := w, exit := abortExit, stderr := s!"\n{reason}\n" }

def UsageError.report (error : UsageError) : Message :=
  [.marked .refusal "error:", .plain " "] ++ error.message ++
    [.plain "\n\nFor more information, try '", .marked .right "--help", .plain "'.\n"]

def Ending.ofHalt (machine : Machine) (w : Workspace) (colours : Colours) : Halt → Ending
  | .usage error =>
    { workspace := w, exit := usageExit, stderr := error.report.usage colours }
  | .help => { workspace := w, exit := ExitCode.success.code, stdout := machine.help }
  | .version => { workspace := w, exit := ExitCode.success.code, stdout := versionText.toList }

def Arguments.loaded (arguments : Arguments) (w : Workspace)
    (environment : List Environment.Variable) : Except SettingsError Settings :=
  match arguments.config with
  | some path => Settings.loadFrom w environment path
  | none => Settings.load w environment

def Arguments.override (arguments : Arguments) (settings : Settings) : Settings :=
  { settings with
    extraction.poolSize := arguments.pool.getD settings.extraction.poolSize
    output.style := arguments.style.getD settings.output.style }

def Arguments.settings (arguments : Arguments) (w : Workspace)
    (environment : List Environment.Variable) : Except SettingsError Settings :=
  (arguments.loaded w environment).map arguments.override

def extractorOf (settings : Settings) (machine : Machine) : Extractor where
  filter := settings.extraction.filter
  poolSize := settings.extraction.workers machine.processors

def Arguments.extract (arguments : Arguments) (settings : Settings) (machine : Machine)
    (w : Workspace) : Except Extraction.Error Findings :=
  (extractorOf settings machine).run w arguments.receiver.toList arguments.root machine.refused
    machine.elapsed

-- An extraction that gets as far as its pool asks for more workers than there can be.
def Arguments.exceedsPool (arguments : Arguments) (settings : Settings) (machine : Machine)
    (w : Workspace) : Bool :=
  Pool.sizeLimit < (extractorOf settings machine).poolSize &&
    (settings.extraction.filter.discover w arguments.root).isOk

def Arguments.draft (arguments : Arguments) (settings : Settings) : Draft where
  name := (arguments.interface.getD arguments.receiver).toList
  package := arguments.package.map String.toList
  inject := arguments.inject.map String.toList
  style := settings.output.style

def errorLine (activity message : String) (causes : List String) : Message :=
  [.marked .failure "Error:", .plain " ",
   .plain (": ".intercalate (activity :: message :: causes)), .plain "\n"]

def settingsLine (error : SettingsError) : Message :=
  [.marked .failure "Configuration error:", .plain s!" {error.message}\n"]

def hintLines (hints : List String) : Message :=
  hints.map fun hint => .plain s!"  hint: {hint}\n"

def warning (errors : List Extraction.Error) : Message :=
  if errors.isEmpty then []
  else
    [.marked .caution "Warning:",
     .plain s!" {errors.length} file(s) could not be scanned:\n{Error.listText errors}\n"]

def exitOf (findings : Findings) : ExitCode :=
  if findings.isComplete then .success else .partialFailure

def Arguments.remarks (arguments : Arguments) (findings : Findings) : Message :=
  (if arguments.stats then [.plain findings.stats.report] else []) ++ warning findings.errors

-- A failure comes with what was being done.
structure Delivery where
  workspace : Workspace
  printed : List Char := []
  failure : Option (String × Output.Error) := none

def Machine.print (machine : Machine) (w : Workspace) (text : List Char) : Delivery :=
  match machine.outlet with
  | none => { workspace := w, printed := text }
  | some (room, error) =>
    match Writer.put { room } (encode text) with
    | (_, true) => { workspace := w, printed := text }
    | (writer, false) =>
      { workspace := w, printed := decodeLossy writer.taken
        failure := some ("Assembling output", .write error) }

def deliver (arguments : Arguments) (settings : Settings) (machine : Machine) (w : Workspace)
    (text : List Char) : Delivery :=
  match arguments.out with
  | none => machine.print w text
  | some out =>
    match Output.openSink w out settings.output.fileExtension settings.output.createDirs with
    | (w, .error error) => { workspace := w, failure := some ("Opening output", error) }
    | (w, .ok sink) =>
      match sink.write w (encode text) with
      | .error error => { workspace := w, failure := some ("Assembling output", error) }
      | .ok written => { workspace := written }

def conclude (arguments : Arguments) (settings : Settings) (machine : Machine) (colours : Colours)
    (w : Workspace) (findings : Findings) : Ending :=
  let remarks := arguments.remarks findings
  if arguments.strict && !findings.isComplete then
    { workspace := w, exit := ExitCode.partialFailure.code
      stderr := remarks.report colours }
  else
    let delivery :=
      deliver arguments settings machine w ((arguments.draft settings).render findings.signatures)
    match delivery.failure with
    | some (activity, error) =>
      { workspace := delivery.workspace, exit := (ExitCode.ofOutput error).code
        stdout := delivery.printed
        stderr := (remarks ++ errorLine activity error.message [error.cause.message]).report colours }
    | none =>
      { workspace := delivery.workspace, exit := (exitOf findings).code, stdout := delivery.printed
        stderr := remarks.report colours }

-- The phases follow each other, and a failing one ends the run: settings, extraction, opening the
-- output, writing it. Nothing is opened or printed before the extraction has ended well.
def Arguments.run (arguments : Arguments) (machine : Machine) (w : Workspace)
    (environment : List Environment.Variable) : Ending :=
  let colours := Colours.ofEnvironment environment
  match arguments.settings w environment with
  | .error .cutVariable =>
    .aborted w SettingsError.cutVariable.message
  | .error error =>
    { workspace := w, exit := ExitCode.configError.code
      stderr := (settingsLine error).report colours }
  | .ok settings =>
    if arguments.exceedsPool settings machine w then .aborted w "too many workers"
    else
      match arguments.extract settings machine w with
      | .error error =>
        { workspace := w, exit := (ExitCode.ofExtraction error).code
          stderr := (errorLine "Extracting signatures" error.message error.causes ++
            hintLines error.hints).report colours }
      | .ok findings => conclude arguments settings machine colours w findings

def run (machine : Machine) (w : Workspace) (environment : List Environment.Variable)
    (commandLine : List Bytes) : Ending :=
  match Arguments.read commandLine with
  | .error halt => .ofHalt machine w (.ofEnvironment environment) halt
  | .ok arguments => arguments.run machine w environment

end InterfaceDraft.CommandLine
