import InterfaceDraft.Files.IoError
import InterfaceDraft.Files.Tree

set_option autoImplicit false

namespace InterfaceDraft.Files

open Text

structure Workspace where
  tree : Tree
  directory : Location
  deriving DecidableEq, Repr

inductive Place where
  | taken (location : Location) (entry : Entry)
  | free (directory : Location) (name : Name)
  deriving DecidableEq, Repr

def Place.location : Place → Location
  | .taken location _ => location
  | .free directory name => directory ++ [name]

def nameLimit : Nat := 255

def pathLimit : Nat := 4096

def linkLimit : Nat := 40

def Path.names (p : Path) : List Name := p.pieces.filter (!·.isEmpty)

def Path.endsInSlash (p : Path) : Bool := p.bytes.getLast? == some Path.slash

-- A slash at the end asks for a directory, which is a step by an empty name.
def Path.steps (p : Path) : List Name :=
  if p.endsInSlash then p.names ++ [[]] else p.names

inductive Aim where
  | entry
  -- A link at the end is followed.
  | content
  -- A name at the end may be free, but may not ask for a directory.
  | output
  deriving DecidableEq, Repr

def asksDirectory (steps : List Name) : Bool :=
  !steps.isEmpty && steps.all List.isEmpty

-- `onLink` says how to go on at a link, from the directory that holds it, by its target and then
-- the names that are left. In a removed directory nothing is found, but one can leave it upwards.
def stepThrough (tree : Tree) (aim : Aim)
    (onLink : Location → Path → List Name → Except IoError Place) (current : Location) :
    List Name → Except IoError Place
  | [] =>
    match tree.get? current with
    | some entry => .ok (.taken current entry)
    | none => .error .notFound
  | name :: rest =>
    match tree.get? current with
    | none => .error .notFound
    | some .directory =>
      if name.isEmpty || name == Path.here then stepThrough tree aim onLink current rest
      else if name == Path.above then stepThrough tree aim onLink current.dropLast rest
      else if aim == .output && asksDirectory rest then .error .isDirectory
      else if isRemoved current then .error .notFound
      else if nameLimit < name.length then .error .nameTooLong
      else
        match tree.get? (current ++ [name]) with
        | none => if rest.isEmpty then .ok (.free current name) else .error .notFound
        | some (.link target) =>
          if rest.isEmpty && aim == .entry then .ok (.taken (current ++ [name]) (.link target))
          else onLink current target rest
        | some _ => stepThrough tree aim onLink (current ++ [name]) rest
    | some _ => .error .notDirectory

def resolveFrom (tree : Tree) (aim : Aim) : (links : Nat) → Location → List Name →
    Except IoError Place
  | 0 => stepThrough tree aim fun _ _ _ => .error .tooManyLinks
  | links + 1 => stepThrough tree aim fun current target rest =>
      resolveFrom tree aim links (if target.isAbsolute then [] else current)
        (target.steps ++ rest)

def checkPath (p : Path) : Except IoError Unit :=
  if p.bytes.contains 0 then .error .nulInPath
  else if p.isEmpty then .error .notFound
  else if pathLimit ≤ p.bytes.length then .error .nameTooLong
  else .ok ()

namespace Workspace

def resolveNames (w : Workspace) (aim : Aim) (p : Path) (names : List Name) :
    Except IoError Place :=
  match checkPath p with
  | .error e => .error e
  | .ok () =>
    resolveFrom w.tree aim linkLimit (if p.isAbsolute then [] else w.directory) names

def resolve (w : Workspace) (p : Path) : Except IoError Place :=
  w.resolveNames .content p p.steps

def resolveLink (w : Workspace) (p : Path) : Except IoError Place :=
  w.resolveNames .entry p p.names

def stat (w : Workspace) (p : Path) : Except IoError (Location × Entry) :=
  match w.resolve p with
  | .error e => .error e
  | .ok (.free _ _) => .error .notFound
  | .ok (.taken location entry) => .ok (location, entry)

def existsAt (w : Workspace) (p : Path) : Bool :=
  (w.stat p).isOk

def isDirectory (w : Workspace) (p : Path) : Bool :=
  match w.stat p with
  | .ok (_, entry) => entry.isDirectory
  | .error _ => false

def isFile (w : Workspace) (p : Path) : Bool :=
  match w.stat p with
  | .ok (_, entry) => entry.isFile
  | .error _ => false

def read (w : Workspace) (p : Path) : Except IoError Bytes :=
  match w.stat p with
  | .error e => .error e
  | .ok (_, .file content) => .ok content
  | .ok (_, .directory) => .error .isDirectory
  | .ok (_, _) => .ok []

def put (w : Workspace) (location : Location) (entry : Entry) : Workspace :=
  { w with tree := w.tree.put location entry }

-- The location is where the content goes.
def create (w : Workspace) (p : Path) : Except IoError (Workspace × Location) :=
  match w.resolveNames .output p p.steps with
  | .error e => .error e
  | .ok (.free directory name) =>
    .ok (w.put (directory ++ [name]) (.file []), directory ++ [name])
  | .ok (.taken location (.file _)) => .ok (w.put location (.file []), location)
  | .ok (.taken location (.device _)) => .ok (w, location)
  | .ok (.taken _ _) => .error .isDirectory

def fill (w : Workspace) (location : Location) (content : Bytes) : Except IoError Workspace :=
  match w.tree.get? location with
  | some (.device .full) => if content.isEmpty then .ok w else .error .noSpace
  | some (.device .null) => .ok w
  | _ => .ok (w.put location (.file content))

def write (w : Workspace) (p : Path) (content : Bytes) : Except IoError Workspace :=
  match w.create p with
  | .error e => .error e
  | .ok (opened, location) => opened.fill location content

def makeDirectory (w : Workspace) (p : Path) : Except IoError Workspace :=
  match p.names.getLast? with
  | some last =>
    if last == Path.here || last == Path.above then
      match w.resolveNames .content p (p.names.dropLast ++ [Path.here]) with
      | .error e => .error e
      | .ok _ => .error .alreadyExists
    else
      match w.resolveLink p with
      | .error e => .error e
      | .ok (.taken _ _) => .error .alreadyExists
      | .ok (.free directory name) => .ok (w.put (directory ++ [name]) .directory)
  | none =>
    match checkPath p with
    | .error e => .error e
    | .ok () => .error .alreadyExists

-- The tree may have changed even if it failed.
abbrev Made := Workspace × Option IoError

-- Each path is the parent of the one before it. Those behind the first are made if it needs them.
def makeFirst (w : Workspace) : List Path → Made
  | [] => (w, some .treeNotCreated)
  | p :: parents =>
    if p.isEmpty then (w, none)
    else
      match w.makeDirectory p with
      | .ok made => (made, none)
      | .error e =>
        if e == .notFound then
          match w.makeFirst parents with
          | (made, some e) => (made, some e)
          | (made, none) =>
            match made.makeDirectory p with
            | .ok made => (made, none)
            | .error e => if made.isDirectory p then (made, none) else (made, some e)
        else if w.isDirectory p then (w, none)
        else (w, some e)

def makeDirectories (w : Workspace) (p : Path) : Made :=
  w.makeFirst p.ancestors

def link (w : Workspace) (p target : Path) : Except IoError Workspace :=
  match w.resolveLink p with
  | .error e => .error e
  | .ok (.taken _ _) => .error .alreadyExists
  | .ok (.free directory name) =>
    -- only a directory can have a name that ends in a slash
    if p.endsInSlash then .error .notFound
    else .ok (w.put (directory ++ [name]) (.link target))

-- Directories that go with a removed one lose their names.
def directoryWithout (w : Workspace) (location : Location) : Location :=
  if location.isPrefixOf w.directory then
    location.dropLast ++ List.replicate (w.directory.length + 1 - location.length) []
  else w.directory

def remove (w : Workspace) (p : Path) : Except IoError Workspace :=
  match w.resolveLink p with
  | .error e => .error e
  | .ok (.free _ _) => .error .notFound
  | .ok (.taken location _) =>
    .ok { tree := w.tree.erase location, directory := w.directoryWithout location }

def enter (w : Workspace) (p : Path) : Except IoError Workspace :=
  match w.stat p with
  | .error e => .error e
  | .ok (location, .directory) => .ok { w with directory := location }
  | .ok _ => .error .notDirectory

def directoryPath? (w : Workspace) : Option Path :=
  if isRemoved w.directory then none else some ⟨Path.slash :: Path.joinPieces w.directory⟩

def directoriesUpwards (w : Workspace) : List Path :=
  match w.directoryPath? with
  | some directory => directory.ancestors
  | none => []

end Workspace

end InterfaceDraft.Files
