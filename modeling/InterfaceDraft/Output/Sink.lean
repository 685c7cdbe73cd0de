import InterfaceDraft.Files.Workspace
import InterfaceDraft.Source.Filter

set_option autoImplicit false

namespace InterfaceDraft.Output

open Text Files

inductive Error where
  | write (cause : IoError)
  | prepare (path : Path) (cause : IoError)
  deriving DecidableEq, Repr

def Error.cause : Error → IoError
  | .write cause => cause
  | .prepare _ cause => cause

def Error.message : Error → String
  | .write cause => s!"Failed to write interface declaration: {cause.message}"
  | .prepare path cause => s!"Failed to prepare output file '{path.shown}': {cause.message}"

-- Dots in front of the extension do not count, and an empty one adds nothing.
def pathFor (p : Path) (extension : String) : Path :=
  let extension := (Source.withoutDots extension).toList
  let suffix := '.' :: extension
  if extension.isEmpty then p
  else
    match p.fileName?.bind decode? with
    | some name => if endsWith suffix name then p else ⟨p.bytes ++ encode suffix⟩
    | none => ⟨p.bytes ++ encode suffix⟩

structure Sink where
  path : Path
  location : Location
  deriving DecidableEq, Repr

def prepareParent (w : Workspace) (p : Path) (createDirs : Bool) : Workspace × Option IoError :=
  match p.parent? with
  | none => (w, none)
  | some parent =>
    if parent.isEmpty || w.existsAt parent then (w, none)
    else if createDirs then w.makeDirectories parent
    else (w, some .parentMissing)

-- Directories that were made stay even if opening fails.
def openSink (w : Workspace) (out : Path) (extension : String) (createDirs : Bool) :
    Workspace × Except Error Sink :=
  let path := pathFor out extension
  match prepareParent w path createDirs with
  | (w, some cause) => (w, .error (.prepare path cause))
  | (w, none) =>
    match w.create path with
    | .error cause => (w, .error (.prepare path cause))
    | .ok (opened, location) => (opened, .ok ⟨path, location⟩)

def Sink.write (sink : Sink) (w : Workspace) (content : Bytes) : Except Error Workspace :=
  match w.fill sink.location content with
  | .ok w => .ok w
  | .error cause => .error (.write cause)

end InterfaceDraft.Output
