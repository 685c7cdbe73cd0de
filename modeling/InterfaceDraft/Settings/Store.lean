import InterfaceDraft.Files.Workspace
import InterfaceDraft.Settings.Decode
import InterfaceDraft.Settings.Document
import InterfaceDraft.Settings.Environment
import InterfaceDraft.Settings.Wrapped
import InterfaceDraft.Toml.Reader

set_option autoImplicit false

namespace InterfaceDraft

open Text Files Layer

inductive SettingsError where
  | notADocument (path : Path)
  | cutVariable
  | fault (what : Fault)
  deriving DecidableEq, Repr

def SettingsError.message : SettingsError → String
  | .notADocument path => s!"invalid document in {path.shown} TOML file"
  | .cutVariable => "a variable is cut inside a character"
  | .fault f => f.message

inductive SaveError where
  | invalidPath
  | io (cause : IoError)
  deriving DecidableEq, Repr

def SaveError.message : SaveError → String
  | .invalidPath => "Invalid path"
  | .io cause => cause.message

namespace Settings

def directoryName : Name := bytesOf ".ifacegen"

def fileName : Name := bytesOf "settings.toml"

-- The document that a path stands for: an absolute path for itself, a relative one for the first
-- regular file that it leads to from the working directory or a directory above.
def findDocument (w : Workspace) (p : Path) : Option Path :=
  if p.isAbsolute then (if w.isFile p then some p else none)
  else (w.directoriesUpwards.map (·.child p.bytes)).find? w.isFile

-- Without a settings directory it is the relative path of such a document.
def documentPath (w : Workspace) : Path :=
  match (w.directoriesUpwards.map (·.child directoryName)).find? w.isDirectory with
  | some directory => directory.child fileName
  | none => Path.child ⟨directoryName⟩ fileName

def readDocument (w : Workspace) (p : Path) : Except SettingsError (List (String × Node)) :=
  let shown := (w.directoryPath?.map p.relativeTo).getD p
  match w.read p with
  | .error _ => .error (.notADocument shown)
  | .ok content =>
    match ((decode? content).bind Toml.read?).bind Value.unwrapDocument? with
    | none => .error (.notADocument shown)
    | some entries => .ok (Node.ofEntries (.document shown) entries)

def documentLayer (w : Workspace) (p : Path) : Except SettingsError (List (String × Node)) :=
  match findDocument w p with
  | none => .ok []
  | some file => readDocument w file

def ofLayers (document environment : List (String × Node)) : Except SettingsError Settings :=
  match decodeSettings (mergeEntries (mergeEntries defaults document) environment) with
  | .ok settings => .ok settings
  | .error fault => .error (.fault fault)

-- A variable that cannot be read at all ends the loading, whatever else is wrong.
def loadFrom (w : Workspace) (environment : List Environment.Variable) (p : Path) :
    Except SettingsError Settings :=
  match Environment.layer? environment, documentLayer w p with
  | none, _ => .error .cutVariable
  | some _, .error e => .error e
  | some above, .ok document => ofLayers document above

def load (w : Workspace) (environment : List Environment.Variable) : Except SettingsError Settings :=
  loadFrom w environment (documentPath w)

def save (settings : Settings) (w : Workspace) (p : Path) : Workspace × Option SaveError :=
  match p.parent? with
  | none => (w, some .invalidPath)
  | some parent =>
    match w.makeDirectories parent with
    | (w, some cause) => (w, some (.io cause))
    | (w, none) =>
      match w.write p (encode settings.document) with
      | .ok w => (w, none)
      | .error cause => (w, some (.io cause))

end Settings

end InterfaceDraft
