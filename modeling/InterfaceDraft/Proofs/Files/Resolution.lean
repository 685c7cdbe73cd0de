import InterfaceDraft.Files.Workspace

set_option autoImplicit false

namespace InterfaceDraft.Files

open Text

-- A name that is looked up in the directory where it is met.
structure IsLookup (aim : Aim) (current : Location) (name : Name) (rest : List Name) : Prop where
  named : name ≠ []
  notHere : name ≠ Path.here
  notAbove : name ≠ Path.above
  allowed : (aim == .output && asksDirectory rest) = false
  present : isRemoved current = false
  short : name.length ≤ nameLimit

-- The names lead from `current` to a place, through at most `links` links.
inductive Leads (tree : Tree) (aim : Aim) : (links : Nat) → Location → List Name → Place → Prop
  | arrive {links : Nat} {current : Location} {entry : Entry}
      (there : tree.get? current = some entry) :
      Leads tree aim links current [] (.taken current entry)
  | stay {links : Nat} {current : Location} {name : Name} {rest : List Name} {place : Place}
      (inside : tree.get? current = some .directory) (idle : name = [] ∨ name = Path.here)
      (onward : Leads tree aim links current rest place) :
      Leads tree aim links current (name :: rest) place
  | up {links : Nat} {current : Location} {rest : List Name} {place : Place}
      (inside : tree.get? current = some .directory)
      (onward : Leads tree aim links current.dropLast rest place) :
      Leads tree aim links current (Path.above :: rest) place
  | down {links : Nat} {current : Location} {name : Name} {rest : List Name} {place : Place}
      {entry : Entry} (inside : tree.get? current = some .directory)
      (lookup : IsLookup aim current name rest) (there : tree.get? (current ++ [name]) = some entry)
      (real : ∀ target, entry ≠ .link target)
      (onward : Leads tree aim links (current ++ [name]) rest place) :
      Leads tree aim links current (name :: rest) place
  | follow {links : Nat} {current : Location} {name : Name} {rest : List Name} {place : Place}
      {target : Path} (inside : tree.get? current = some .directory)
      (lookup : IsLookup aim current name rest)
      (there : tree.get? (current ++ [name]) = some (.link target))
      (through : (rest.isEmpty && aim == .entry) = false)
      (onward : Leads tree aim links (if target.isAbsolute then [] else current)
        (target.steps ++ rest) place) :
      Leads tree aim (links + 1) current (name :: rest) place
  | halt {links : Nat} {current : Location} {name : Name} {target : Path}
      (inside : tree.get? current = some .directory) (lookup : IsLookup aim current name [])
      (there : tree.get? (current ++ [name]) = some (.link target)) (aimed : aim = .entry) :
      Leads tree aim links current [name] (.taken (current ++ [name]) (.link target))
  | free {links : Nat} {current : Location} {name : Name}
      (inside : tree.get? current = some .directory) (lookup : IsLookup aim current name [])
      (missing : tree.get? (current ++ [name]) = none) :
      Leads tree aim links current [name] (.free current name)

-- How resolving goes on at a link.
def followLink (tree : Tree) (aim : Aim) : (links : Nat) → Location → Path → List Name →
    Except IoError Place
  | 0 => fun _ _ _ => .error .tooManyLinks
  | links + 1 => fun current target rest =>
      resolveFrom tree aim links (if target.isAbsolute then [] else current) (target.steps ++ rest)

theorem resolveFrom_eq (tree : Tree) (aim : Aim) (links : Nat) :
    resolveFrom tree aim links = stepThrough tree aim (followLink tree aim links) := by
  cases links <;> rfl

theorem stepThrough_lookup {tree : Tree} {aim : Aim} {current : Location} {name : Name}
    {rest : List Name} (inside : tree.get? current = some .directory)
    (lookup : IsLookup aim current name rest)
    (onLink : Location → Path → List Name → Except IoError Place) :
    stepThrough tree aim onLink current (name :: rest) =
      match tree.get? (current ++ [name]) with
      | none => if rest.isEmpty then .ok (.free current name) else .error .notFound
      | some (.link target) =>
        if rest.isEmpty && aim == .entry then .ok (.taken (current ++ [name]) (.link target))
        else onLink current target rest
      | some _ => stepThrough tree aim onLink (current ++ [name]) rest := by
  have proper : (name.isEmpty || name == Path.here) = false := by
    simp [lookup.named, lookup.notHere]
  have notAbove : (name == Path.above) = false := beq_eq_false_iff_ne.mpr lookup.notAbove
  rw [stepThrough, inside]
  rcases tree.get? (current ++ [name]) with _ | _ | _ | _ | _ <;>
    simp only [proper, notAbove, lookup.allowed, lookup.present, Nat.not_lt.mpr lookup.short,
      Bool.false_eq_true, if_false]

theorem resolveFrom_of_leads {tree : Tree} {aim : Aim} {links : Nat} {current : Location}
    {names : List Name} {place : Place} (leads : Leads tree aim links current names place) :
    resolveFrom tree aim links current names = .ok place := by
  induction leads with
  | arrive there => rw [resolveFrom_eq, stepThrough, there]
  | stay inside idle onward ih =>
    rw [resolveFrom_eq] at ih ⊢
    rw [stepThrough, inside]
    rcases idle with rfl | rfl
    · exact ih
    · exact ih
  | up inside onward ih =>
    rw [resolveFrom_eq] at ih ⊢
    rw [stepThrough, inside]
    exact ih
  | @down links current name rest place entry inside lookup there real onward ih =>
    rw [resolveFrom_eq] at ih ⊢
    rw [stepThrough_lookup inside lookup, there]
    cases entry with
    | link target => exact absurd rfl (real target)
    | directory | file | device => exact ih
  | follow inside lookup there through onward ih =>
    rw [resolveFrom_eq, stepThrough_lookup inside lookup, there]
    simp only [through, Bool.false_eq_true, if_false]
    exact ih
  | halt inside lookup there aimed =>
    rw [resolveFrom_eq, stepThrough_lookup inside lookup, there]
    simp [aimed]
  | free inside lookup missing =>
    rw [resolveFrom_eq, stepThrough_lookup inside lookup, missing]
    rfl

theorem directory_of_stepThrough {tree : Tree} {aim : Aim} {current : Location} {name : Name}
    {rest : List Name} {onLink : Location → Path → List Name → Except IoError Place} {place : Place}
    (found : stepThrough tree aim onLink current (name :: rest) = .ok place) :
    tree.get? current = some .directory := by
  rw [stepThrough] at found
  split at found
  next => cases found
  next inside => exact inside
  next => cases found

theorem lookup_of_stepThrough {tree : Tree} {aim : Aim} {current : Location} {name : Name}
    {rest : List Name} {onLink : Location → Path → List Name → Except IoError Place} {place : Place}
    (found : stepThrough tree aim onLink current (name :: rest) = .ok place)
    (proper : (name.isEmpty || name == Path.here) = false) (notAbove : name ≠ Path.above) :
    IsLookup aim current name rest := by
  rw [stepThrough, directory_of_stepThrough found] at found
  simp only [proper, beq_eq_false_iff_ne.mpr notAbove, Bool.false_eq_true, if_false] at found
  split at found
  next => cases found
  next allowed =>
    split at found
    next => cases found
    next present =>
      split at found
      next => cases found
      next short =>
        simp only [Bool.or_eq_false_iff, List.isEmpty_eq_false_iff, beq_eq_false_iff_ne] at proper
        exact ⟨proper.1, proper.2, notAbove, by simpa using allowed, by simpa using present,
          Nat.not_lt.mp short⟩

theorem leads_of_stepThrough {tree : Tree} {aim : Aim} {links : Nat}
    {onLink : Location → Path → List Name → Except IoError Place}
    (onward : ∀ {current target rest place}, onLink current target rest = .ok place →
      ∃ fewer, links = fewer + 1 ∧ Leads tree aim fewer (if target.isAbsolute then [] else current)
        (target.steps ++ rest) place)
    {current : Location} {names : List Name} {place : Place}
    (found : stepThrough tree aim onLink current names = .ok place) :
    Leads tree aim links current names place := by
  induction names generalizing current with
  | nil =>
    rw [stepThrough] at found
    split at found
    next entry there =>
      cases found
      exact .arrive there
    next => cases found
  | cons name rest ih =>
    have inside := directory_of_stepThrough found
    by_cases idle : (name.isEmpty || name == Path.here) = true
    · rw [stepThrough, inside] at found
      simp only [idle, if_true] at found
      exact .stay inside (by simpa using idle) (ih found)
    rw [Bool.not_eq_true] at idle
    by_cases above : name = Path.above
    · subst above
      rw [stepThrough, inside] at found
      exact .up inside (ih found)
    have lookup := lookup_of_stepThrough found idle above
    rw [stepThrough_lookup inside lookup] at found
    cases there : tree.get? (current ++ [name]) with
    | none =>
      rw [there] at found
      cases rest with
      | nil =>
        cases found
        exact .free inside lookup there
      | cons => cases found
    | some entry =>
      rw [there] at found
      cases entry with
      | link target =>
        simp only at found
        split at found
        next stops =>
          cases found
          simp only [Bool.and_eq_true, List.isEmpty_iff, beq_iff_eq] at stops
          obtain ⟨rfl, aimed⟩ := stops
          exact .halt inside lookup there aimed
        next goes =>
          obtain ⟨fewer, rfl, leads⟩ := onward found
          exact .follow inside lookup there (by simpa using goes) leads
      | directory | file | device => exact .down inside lookup there (by simp) (ih found)

theorem leads_of_resolveFrom {tree : Tree} {aim : Aim} {links : Nat} {current : Location}
    {names : List Name} {place : Place}
    (found : resolveFrom tree aim links current names = .ok place) :
    Leads tree aim links current names place := by
  induction links generalizing current names place with
  | zero =>
    refine leads_of_stepThrough ?_ found
    intro current target rest place onLink
    cases onLink
  | succ links ih =>
    refine leads_of_stepThrough ?_ found
    intro current target rest place onLink
    exact ⟨links, rfl, ih onLink⟩

theorem resolveFrom_eq_ok_iff {tree : Tree} {aim : Aim} {links : Nat} {current : Location}
    {names : List Name} {place : Place} :
    resolveFrom tree aim links current names = .ok place ↔
      Leads tree aim links current names place :=
  ⟨leads_of_resolveFrom, resolveFrom_of_leads⟩

theorem resolveNames_eq_ok_iff {w : Workspace} {aim : Aim} {p : Path} {names : List Name}
    {place : Place} :
    w.resolveNames aim p names = .ok place ↔
      checkPath p = .ok () ∧
        Leads w.tree aim linkLimit (if p.isAbsolute then [] else w.directory) names place := by
  unfold Workspace.resolveNames
  cases checkPath p with
  | error => simp
  | ok => simp [resolveFrom_eq_ok_iff]

-- The place is as it says.
def Place.IsIn (tree : Tree) : Place → Prop
  | .taken location entry => tree.get? location = some entry
  | .free directory name => name ≠ [] ∧ tree.get? (directory ++ [name]) = none

theorem Leads.isIn {tree : Tree} {aim : Aim} {links : Nat} {current : Location}
    {names : List Name} {place : Place} (leads : Leads tree aim links current names place) :
    place.IsIn tree := by
  induction leads with
  | arrive there => exact there
  | stay _ _ _ ih => exact ih
  | up _ _ ih => exact ih
  | down _ _ _ _ _ ih => exact ih
  | follow _ _ _ _ _ ih => exact ih
  | halt _ _ there _ => exact there
  | free _ lookup missing => exact ⟨lookup.named, missing⟩

-- A file to write is looked for as its content is, but for one thing that may not be asked.
theorem Leads.content_of_output {tree : Tree} {links : Nat} {current : Location}
    {names : List Name} {place : Place} (leads : Leads tree .output links current names place) :
    Leads tree .content links current names place := by
  have relax {current : Location} {name : Name} {rest : List Name}
      (lookup : IsLookup .output current name rest) : IsLookup .content current name rest :=
    ⟨lookup.named, lookup.notHere, lookup.notAbove, rfl, lookup.present, lookup.short⟩
  induction leads with
  | arrive there => exact .arrive there
  | stay inside idle _ ih => exact .stay inside idle ih
  | up inside _ ih => exact .up inside ih
  | down inside lookup there real _ ih => exact .down inside (relax lookup) there real ih
  | follow inside lookup there _ _ ih =>
    exact .follow inside (relax lookup) there (Bool.and_false _) ih
  | halt _ _ _ aimed => cases aimed
  | free inside lookup missing => exact .free inside (relax lookup) missing

end InterfaceDraft.Files
