import InterfaceDraft.Extraction.Error
import InterfaceDraft.Files.Workspace
import InterfaceDraft.Source.Filter

set_option autoImplicit false

namespace InterfaceDraft.Source

open Files Extraction

def holdsText (w : Workspace) (p : Path) : Entry → Bool
  | .file _ => true
  | .link _ => w.isFile p
  | _ => false

def pathBelow (root : Path) (way : Location) : Path :=
  way.foldl Path.child root

-- Behind a path that is too long nothing is found.
def isWithinReach (root : Path) (way : Location) : Bool :=
  (pathBelow root way.dropLast).bytes.length < pathLimit

-- The search goes through real directories only; a link below the root counts if it leads to a
-- regular file, and the root itself may be a link.
def Filter.sources (filter : Filter) (w : Workspace) (root : Path) : List Path :=
  match w.stat root with
  | .error _ => []
  | .ok (directory, .directory) =>
    (w.tree.below directory).filterMap fun (way, entry) =>
      let p := pathBelow root way
      if isWithinReach root way && filter.accepts p && holdsText w p entry then some p else none
  | .ok (_, entry) => if filter.accepts root && holdsText w root entry then [root] else []

def Filter.discover (filter : Filter) (w : Workspace) (root : Path) : Except Error (List Path) :=
  match w.stat root with
  | .error e => if e == .notFound then .error (.pathNotFound root) else .error (.rootAccess root e)
  | .ok (_, .directory) =>
    let files := filter.sources w root
    if files.isEmpty then .error (.noSourceFiles root filter.extension) else .ok files
  | .ok _ => .error (.pathIsFile root)

def Filter.count (filter : Filter) (w : Workspace) (root : Path) : Nat :=
  (filter.sources w root).length

end InterfaceDraft.Source
