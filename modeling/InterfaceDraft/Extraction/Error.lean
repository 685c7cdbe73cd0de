import InterfaceDraft.Files.IoError
import InterfaceDraft.Files.Path

set_option autoImplicit false

namespace InterfaceDraft.Extraction

open Files

inductive PoolError where
  | closed
  | taskPanicked (worker : Nat) (message : String)
  | spawn (worker : Nat) (reason : String)
  deriving DecidableEq, Repr

def PoolError.message : PoolError → String
  | .closed => "Worker pool is closed"
  | .taskPanicked worker message => s!"Task panicked on worker {worker}: {message}"
  | .spawn worker reason => s!"Worker thread {worker} could not be spawned: {reason}"

inductive Error where
  | pathNotFound (path : Path)
  | pathIsFile (path : Path)
  | rootAccess (path : Path) (cause : IoError)
  | noSourceFiles (path : Path) (extension : String)
  | fileRead (path : Path) (cause : IoError)
  | workerPanicked (message : String)
  | pool (error : PoolError)
  deriving DecidableEq, Repr

namespace Error

def message : Error → String
  | .pathNotFound path => s!"Root path '{path.shown}' does not exist"
  | .pathIsFile path => s!"Root path '{path.shown}' is not a directory"
  | .rootAccess path cause => s!"Failed to inspect root path '{path.shown}': {cause.message}"
  | .noSourceFiles path extension =>
    s!"The directory '{path.shown}' does not contain any '.{extension}' source files"
  | .fileRead path cause => s!"Failed to read file '{path.shown}': {cause.message}"
  | .workerPanicked message => s!"Scan task panicked: {message}"
  | .pool error => s!"Worker pool error: {error.message}"

def code : Error → String
  | .pathNotFound _ => "PATH_NOT_FOUND"
  | .pathIsFile _ => "PATH_IS_FILE"
  | .rootAccess _ _ => "ROOT_ACCESS_ERROR"
  | .noSourceFiles _ _ => "NO_SOURCE_FILES"
  | .fileRead _ _ => "FILE_READ_ERROR"
  | .workerPanicked _ => "WORKER_PANICKED"
  | .pool _ => "POOL_ERROR"

-- Fatal errors come before any file is scanned; the others concern one file and stand beside the
-- signatures of the rest.
def isFatal : Error → Bool
  | .fileRead _ _ => false
  | .workerPanicked _ => false
  | _ => true

def hints : Error → List String
  | .pathNotFound _ =>
    ["Check the --root argument for typos",
      "Relative paths are resolved against the current directory"]
  | .pathIsFile _ => ["Pass the directory containing the file, not the file itself"]
  | .noSourceFiles _ _ =>
    ["Test files (*_test.go) are never scanned",
      "Check extraction.source_extension in .ifacegen/settings.toml"]
  | .fileRead _ _ =>
    ["Check that the file exists and you have read permissions", "Ensure the file is valid UTF-8"]
  | _ => []

-- Nearest first.
def causes : Error → List String
  | .rootAccess _ cause => [cause.message]
  | .fileRead _ cause => [cause.message]
  | .pool error => [error.message]
  | _ => []

def listText (errors : List Error) : String :=
  String.join (errors.zipIdx.map fun (error, index) => s!"[{index}] {error.message}\n")

end Error

end InterfaceDraft.Extraction
