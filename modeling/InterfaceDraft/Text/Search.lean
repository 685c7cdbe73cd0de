set_option autoImplicit false

namespace InterfaceDraft.Text

variable {α : Type} [BEq α]

def dropLead? : (lead t : List α) → Option (List α)
  | [], t => some t
  | _ :: _, [] => none
  | a :: lead, b :: t => if a == b then dropLead? lead t else none

def dropTail? (tail t : List α) : Option (List α) :=
  (dropLead? tail.reverse t.reverse).map List.reverse

def startsWith (lead t : List α) : Bool :=
  (dropLead? lead t).isSome

def endsWith (tail t : List α) : Bool :=
  (dropTail? tail t).isSome

theorem dropLead?_eq_some_iff [LawfulBEq α] {lead t rest : List α} :
    dropLead? lead t = some rest ↔ t = lead ++ rest := by
  induction lead generalizing t with
  | nil => simp [dropLead?]
  | cons a lead ih =>
    cases t with
    | nil => simp [dropLead?]
    | cons b t =>
      by_cases same : a = b
      · simp [dropLead?, same, ih]
      · simp [dropLead?, same, Ne.symm same]

theorem dropTail?_eq_some_iff [LawfulBEq α] {tail t rest : List α} :
    dropTail? tail t = some rest ↔ t = rest ++ tail := by
  simp only [dropTail?, Option.map_eq_some_iff, dropLead?_eq_some_iff]
  constructor
  · rintro ⟨head, split, rfl⟩
    simpa using congrArg List.reverse split
  · rintro rfl
    exact ⟨rest.reverse, by simp⟩

theorem startsWith_iff [LawfulBEq α] {lead t : List α} :
    startsWith lead t = true ↔ ∃ rest, t = lead ++ rest := by
  simp [startsWith, Option.isSome_iff_exists, dropLead?_eq_some_iff]

theorem endsWith_iff [LawfulBEq α] {tail t : List α} :
    endsWith tail t = true ↔ ∃ head, t = head ++ tail := by
  simp [endsWith, Option.isSome_iff_exists, dropTail?_eq_some_iff]

def splitFirst? (a : α) : List α → Option (List α × List α)
  | [] => none
  | b :: t => if b == a then some ([], t) else (splitFirst? a t).map fun (l, r) => (b :: l, r)

def splitLast? (a : α) : List α → Option (List α × List α)
  | [] => none
  | b :: t =>
    match splitLast? a t with
    | some (l, r) => some (b :: l, r)
    | none => if b == a then some ([], t) else none

def splitAll (a : α) : List α → List (List α)
  | [] => [[]]
  | b :: t =>
    if b == a then [] :: splitAll a t
    else
      match splitAll a t with
      | [] => [[b]]
      | piece :: more => (b :: piece) :: more

-- The first `skip` items are what is left of an occurrence that was just replaced.
def replaceFrom (old new : List α) : (skip : Nat) → List α → List α
  | _, [] => []
  | skip + 1, _ :: t => replaceFrom old new skip t
  | 0, a :: t =>
    if startsWith old (a :: t) then new ++ replaceFrom old new (old.length - 1) t
    else a :: replaceFrom old new 0 t

-- An empty `old` occurs nowhere.
def replaceAll (old new t : List α) : List α :=
  if old.isEmpty then t else replaceFrom old new 0 t

end InterfaceDraft.Text
