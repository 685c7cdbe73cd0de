import InterfaceDraft.Settings.Value

set_option autoImplicit false

namespace InterfaceDraft.Toml

-- A table is there because a header names it, because a longer header passes through it, or because
-- a dotted key does; that decides how it may be extended.
inductive Standing where
  | named
  | passed
  | dotted
  deriving DecidableEq, Repr

inductive Item where
  | value (value : Value)
  | table (standing : Standing) (entries : List (String × Item))
  | tables (elements : List (List (String × Item)))

abbrev Entries := List (String × Item)

def replaceItem (entries : Entries) (key : String) (item : Item) : Entries :=
  entries.map fun e => if e.1 == key then (key, item) else e

-- Tables that are missing on the way are made. `dotted` says whether a dotted key or a header leads
-- there. A path through a value is refused, as is a dotted key through a table with a header.
def changeAt (dotted : Bool) (change : Standing → Entries → Option Entries) :
    (path : List String) → Standing → Entries → Option Entries
  | [], standing, entries => change standing entries
  | key :: path, _, entries =>
    match entries.lookup key with
    | none =>
      let standing : Standing := if dotted then .dotted else .passed
      (changeAt dotted change path standing []).map fun inner =>
        entries ++ [(key, .table standing inner)]
    | some (.value _) => none
    | some (.tables elements) =>
      match elements.getLast? with
      | none => none
      | some element =>
        (changeAt dotted change path .named element).map fun inner =>
          replaceItem entries key (.tables (elements.dropLast ++ [inner]))
    | some (.table standing inner) =>
      if dotted && standing == .named then none
      else
        (changeAt dotted change path standing inner).map fun inner =>
          replaceItem entries key (.table standing inner)

def addValue (key : String) (value : Value) (entries : Entries) : Option Entries :=
  if (entries.lookup key).isSome then none else some (entries ++ [(key, .value value)])

-- The last table on the way must be one of dotted keys.
def addDotted (path : List String) (key : String) (value : Value) (standing : Standing)
    (entries : Entries) : Option Entries :=
  changeAt true (fun standing entries =>
    if (standing == .dotted) == path.isEmpty then none else addValue key value entries)
    path standing entries

-- The table may have been passed through before, but not been there by other means.
def addTable (key : String) (entries : Entries) : Option Entries :=
  match entries.lookup key with
  | none => some (entries ++ [(key, .table .named [])])
  | some (.table .passed inner) => some (replaceItem entries key (.table .named inner))
  | some _ => none

def addElement (key : String) (entries : Entries) : Option Entries :=
  match entries.lookup key with
  | none => some (entries ++ [(key, .tables [[]])])
  | some (.tables elements) => some (replaceItem entries key (.tables (elements ++ [[]])))
  | some _ => none

mutual

def Item.toValue : Item → Value
  | .value v => v
  | .table _ entries => .table (entriesToValues entries)
  | .tables elements => .sequence (elementsToValues elements)

def entriesToValues : List (String × Item) → List (String × Value)
  | [] => []
  | (key, item) :: entries => (key, item.toValue) :: entriesToValues entries

def elementsToValues : List (List (String × Item)) → List Value
  | [] => []
  | element :: elements => .table (entriesToValues element) :: elementsToValues elements

end

end InterfaceDraft.Toml
