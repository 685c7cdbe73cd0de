import InterfaceDraft.CommandLine.Run

set_option autoImplicit false

-- A run takes a picture of the files that it can look at, works on the picture, prints what there is to
-- print, and makes the changes on the disk. On the disk a name is text.
namespace InterfaceDraft.Program

open Text Files CommandLine

def locationOf (path : String) : Location := (Path.ofString path).names

def withDirectories (tree : Tree) (location : Location) : Tree :=
  (List.range location.length).foldl (fun tree n => tree.put (location.take (n + 1)) .directory)
    tree

-- Contents matter only if `keep` is set, and a link that leads nowhere is as good as a device.
def entryOf (found : IO.FS.DirEntry) (keep : Bool) : IO (Option Entry) := do
  try
    match (← found.path.symlinkMetadata).type with
    | .dir => return some .directory
    | .file =>
      if keep then return some (.file (← IO.FS.readBinFile found.path).toList)
      else return some (.file [])
    | .symlink =>
      if ← found.path.pathExists then
        return some (.link (.ofString (← IO.FS.realPath found.path).toString))
      else return some (.device .null)
    | .other => return some (.device .null)
  catch _ => return none

-- What stands on the way from a directory through the names is added, the targets of links included.
partial def addPath (tree : Tree) (directory : String) : List String → IO Tree
  | [] => return tree
  | name :: rest => do
    let real := (← IO.FS.realPath directory).toString
    let tree := withDirectories tree (locationOf real)
    let onward := s!"{real}/{name}"
    if name == "." || name == ".." then addPath tree onward rest
    else
      match ← entryOf { root := real, fileName := name } true with
      | none => return tree
      | some entry =>
        let tree := tree.put (locationOf onward) entry
        match entry with
        | .directory => addPath tree onward rest
        | .link target => addPath tree "/" (target.names.map shown ++ rest)
        | _ => return tree

partial def addBelow (keep : String → Bool) (directory : String) (tree : Tree) : IO Tree := do
  let mut tree := tree
  for found in ← (← IO.FS.realPath directory).readDir do
    if let some entry ← entryOf found (keep found.fileName) then
      tree := tree.put (locationOf found.path.toString) entry
      match entry with
      | .directory => tree ← addBelow keep found.path.toString tree
      | .link target => tree ← addPath tree "/" (target.names.map shown)
      | _ => pure ()
  return tree

def startOf (directory : String) (p : Path) : String :=
  if p.isAbsolute then "/" else directory

def addFrom (tree : Tree) (directory : String) (p : Path) : IO Tree :=
  addPath tree (startOf directory p) (p.names.map shown)

def settingsPicture (arguments : Arguments) : IO Workspace := do
  let directory := (← IO.currentDir).toString
  let mut tree := withDirectories ⟨[]⟩ (locationOf directory)
  for above in (Path.ofString directory).ancestors do
    tree ← addFrom tree above.shown (Path.child ⟨Settings.directoryName⟩ Settings.fileName)
    if let some path := arguments.config then
      tree ← addFrom tree above.shown path
  return ⟨tree, locationOf directory⟩

def fullPicture (arguments : Arguments) (settings : Settings) (w : Workspace) : IO Workspace := do
  let directory := shown (Path.slash :: Path.joinPieces w.directory)
  let root := arguments.root
  let mut tree ← addFrom w.tree directory root
  if Workspace.isDirectory { w with tree } root then
    let keep (name : String) : Bool := settings.extraction.filter.accepts (.ofString name)
    tree ← addBelow keep (Path.child (.ofString (startOf directory root)) root.bytes).shown tree
  if let some out := arguments.out then
    let path := Output.pathFor out settings.output.fileExtension
    tree ← addFrom tree directory path
    -- a device takes its output on the disk, not in the picture
    if let .ok (location, .device _) := Workspace.stat { w with tree } path then
      tree := tree.put location (.file [])
  return { w with tree }

def carryOut (before after : Tree) : IO Unit :=
  for (location, entry) in after.entries do
    let path := shown (Path.slash :: Path.joinPieces location)
    if before.get? location != some entry then
      match entry with
      | .directory => IO.FS.createDir path
      | .file content =>
        let handle ← IO.FS.Handle.mk path .write
        handle.write ⟨content.toArray⟩
        handle.flush
      | _ => pure ()

def readSeparated (file : String) : IO (List Bytes) := do
  let content := (← IO.FS.readBinFile file).toList
  return (splitAll 0 content).dropLast

-- The first argument is the name of the program.
def readCommandLine : IO (List Bytes) :=
  List.tail <$> readSeparated "/proc/self/cmdline"

def readEnvironment : IO (List Environment.Variable) := do
  let entries ← readSeparated "/proc/self/environ"
  return entries.filterMap fun bytes =>
    (splitFirst? '=' (decodeLossy bytes)).map fun (name, value) => (.ofList name, .ofList value)

def processors : IO Nat := do
  let known := lines (decodeLossy (← IO.FS.readBinFile "/proc/cpuinfo").toList)
  return max 1 (known.countP (startsWith "processor".toList))

def finish (before : Workspace) (ending : Ending) : IO UInt32 := do
  IO.eprint ending.stderr
  try
    carryOut before.tree ending.workspace.tree
    IO.print (String.ofList ending.stdout)
    return .ofNat ending.exit
  catch error =>
    IO.eprint (errorLine "Assembling output" error.toString []).text
    return .ofNat ExitCode.ioError.code

def start (arguments : Arguments) : IO UInt32 := do
  let environment ← readEnvironment
  let w ← settingsPicture arguments
  match arguments.settings w environment with
  | .error _ => finish w (arguments.run {} w environment)
  | .ok settings =>
    let began ← IO.monoNanosNow
    let w ← fullPicture arguments settings w
    let machine := { processors := ← processors, elapsed := (← IO.monoNanosNow) - began }
    finish w (arguments.run machine w environment)

end InterfaceDraft.Program

def main : IO UInt32 := do
  match InterfaceDraft.CommandLine.Arguments.read (← InterfaceDraft.Program.readCommandLine) with
  | .error halt =>
    let colours := .ofEnvironment (← InterfaceDraft.Program.readEnvironment)
    InterfaceDraft.Program.finish ⟨⟨[]⟩, []⟩ (.ofHalt {} ⟨⟨[]⟩, []⟩ colours halt)
  | .ok arguments => InterfaceDraft.Program.start arguments
