import InterfaceDraft.Files.Path

set_option autoImplicit false

namespace InterfaceDraft.Files

open Text

abbrev Location := List Name

-- The top directory is always there and has no entry. A directory that is removed while someone
-- works in it stays there, empty, at a location that ends in an empty name, which no path can
-- spell.
def isRemoved (location : Location) : Bool := location.getLast? == some []

-- One takes and forgets everything, the other has no space for anything.
inductive Device where
  | null
  | full
  deriving DecidableEq, Repr

inductive Entry where
  | directory
  | file (content : Bytes)
  | link (target : Path)
  | device (device : Device)
  deriving DecidableEq, Repr

def Entry.isDirectory : Entry → Bool
  | .directory => true
  | _ => false

def Entry.isFile : Entry → Bool
  | .file _ => true
  | _ => false

structure Tree where
  entries : List (Location × Entry)
  deriving DecidableEq, Repr

namespace Tree

def get? (tree : Tree) (location : Location) : Option Entry :=
  if location.isEmpty || isRemoved location then some .directory
  else tree.entries.lookup location

def put (tree : Tree) (location : Location) (entry : Entry) : Tree :=
  if (tree.entries.lookup location).isSome then
    ⟨tree.entries.map fun e => if e.1 = location then (location, entry) else e⟩
  else ⟨tree.entries ++ [(location, entry)]⟩

theorem lookup_replace (entries : List (Location × Entry)) (location other : Location)
    (entry : Entry) :
    (entries.map fun e => if e.1 = location then (location, entry) else e).lookup other =
      if other = location then (entries.lookup other).map fun _ => entry
      else entries.lookup other := by
  induction entries with
  | nil => simp
  | cons e entries ih =>
    obtain ⟨place, old⟩ := e
    by_cases here : place = location
    · by_cases same : other = location
      · simp [here, same]
      · have differs : (other == location) = false := by simp [same]
        simp [List.lookup_cons, here, same, differs, ih]
    · by_cases same : other = place
      · simp [here, same]
      · have differs : (other == place) = false := by simp [same]
        simp [List.lookup_cons, here, differs, ih]

theorem get?_put (tree : Tree) (location other : Location) (entry : Entry)
    (named : location ≠ []) (present : isRemoved location = false) :
    (tree.put location entry).get? other =
      if other = location then some entry else tree.get? other := by
  by_cases lasting : other = [] ∨ isRemoved other = true
  · have same : other ≠ location := by
      rintro rfl
      simp_all
    rcases lasting with top | removed
    · simp [get?, top, Ne.symm named]
    · simp [get?, removed, same]
  · obtain ⟨top, removed⟩ := not_or.1 lasting
    by_cases there : (tree.entries.lookup location).isSome
    · by_cases same : other = location
      · subst same
        obtain ⟨old, found⟩ := Option.isSome_iff_exists.1 there
        simp [put, get?, top, removed, lookup_replace, found]
      · simp [put, get?, top, removed, there, lookup_replace, same]
    · by_cases same : other = location
      · subst same
        simp [put, get?, top, removed, List.lookup_append, Option.not_isSome_iff_eq_none.1 there]
      · have differs : (other == location) = false := by simp [same]
        simp [put, get?, top, removed, there, List.lookup_append, same, List.lookup_cons, differs]

def erase (tree : Tree) (location : Location) : Tree :=
  ⟨tree.entries.filter fun e => !location.isPrefixOf e.1⟩

def below (tree : Tree) (directory : Location) : List (Location × Entry) :=
  tree.entries.filterMap fun e =>
    match dropLead? directory e.1 with
    | some (name :: more) => some (name :: more, e.2)
    | _ => none

def WellFormed (tree : Tree) : Prop :=
  (tree.entries.map Prod.fst).Nodup ∧
    ∀ e ∈ tree.entries,
      e.1 ≠ [] ∧ isRemoved e.1 = false ∧ tree.get? e.1.dropLast = some .directory

end Tree

end InterfaceDraft.Files
