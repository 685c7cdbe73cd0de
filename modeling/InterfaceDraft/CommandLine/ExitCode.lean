import InterfaceDraft.Extraction.Error
import InterfaceDraft.Output.Sink

set_option autoImplicit false

namespace InterfaceDraft.CommandLine

inductive ExitCode where
  | success
  | generalError
  | partialFailure
  | noSourceFiles
  | ioError
  | configError
  | invalidRoot
  deriving DecidableEq, Repr

namespace ExitCode

-- Two is left to command lines that cannot be read.
def code : ExitCode → Nat
  | .success => 0
  | .generalError => 1
  | .partialFailure => 3
  | .noSourceFiles => 4
  | .ioError => 5
  | .configError => 6
  | .invalidRoot => 7

def description : ExitCode → String
  | .success => "Success"
  | .generalError => "General error"
  | .partialFailure => "Some files could not be scanned"
  | .noSourceFiles => "No source files"
  | .ioError => "I/O error"
  | .configError => "Configuration error"
  | .invalidRoot => "Invalid root path"

def isSuccess (exit : ExitCode) : Bool :=
  exit == .success

def ofExtraction : Extraction.Error → ExitCode
  | .pathNotFound _ => .invalidRoot
  | .pathIsFile _ => .invalidRoot
  | .rootAccess _ _ => .invalidRoot
  | .noSourceFiles _ _ => .noSourceFiles
  | .fileRead _ _ => .ioError
  | .workerPanicked _ => .generalError
  | .pool _ => .generalError

def ofOutput (_ : Output.Error) : ExitCode := .ioError

end ExitCode

end InterfaceDraft.CommandLine
