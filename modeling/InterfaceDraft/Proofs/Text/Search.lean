import InterfaceDraft.Text.Search
import Mathlib.Data.List.Basic

set_option autoImplicit false

namespace InterfaceDraft.Text

variable {α : Type} [BEq α] [LawfulBEq α]

theorem splitFirst?_append {a : α} {front : List α} (free : a ∉ front) (rest : List α) :
    splitFirst? a (front ++ a :: rest) = some (front, rest) := by
  induction front with
  | nil => simp [splitFirst?]
  | cons b front ih =>
    have other : b ≠ a := (List.ne_of_not_mem_cons free).symm
    simp [splitFirst?, other, ih (List.not_mem_of_not_mem_cons free)]

theorem splitFirst?_eq_none {a : α} {t : List α} (free : a ∉ t) : splitFirst? a t = none := by
  induction t with
  | nil => rfl
  | cons b t ih =>
    have other : b ≠ a := (List.ne_of_not_mem_cons free).symm
    simp [splitFirst?, other, ih (List.not_mem_of_not_mem_cons free)]

theorem eq_of_splitFirst? {a : α} {t front rest : List α} (cut : splitFirst? a t = some (front, rest)) :
    t = front ++ a :: rest := by
  by_cases member : a ∈ t
  · obtain ⟨before, behind, rfl, free⟩ := List.eq_append_cons_of_mem member
    rw [splitFirst?_append free] at cut
    cases cut
    rfl
  · rw [splitFirst?_eq_none member] at cut
    cases cut

theorem splitLast?_eq_none {a : α} {t : List α} (free : a ∉ t) : splitLast? a t = none := by
  induction t with
  | nil => rfl
  | cons b t ih =>
    have other : b ≠ a := (List.ne_of_not_mem_cons free).symm
    simp [splitLast?, other, ih (List.not_mem_of_not_mem_cons free)]

theorem splitLast?_append {a : α} {rest : List α} (free : a ∉ rest) (front : List α) :
    splitLast? a (front ++ a :: rest) = some (front, rest) := by
  induction front with
  | nil => simp [splitLast?, splitLast?_eq_none free]
  | cons b front ih => simp [splitLast?, ih]

omit [BEq α] [LawfulBEq α] in
theorem exists_last_occurrence {a : α} {t : List α} (member : a ∈ t) :
    ∃ front rest, t = front ++ a :: rest ∧ a ∉ rest := by
  induction t with
  | nil => cases member
  | cons b t ih =>
    by_cases later : a ∈ t
    · obtain ⟨front, rest, rfl, free⟩ := ih later
      exact ⟨b :: front, rest, rfl, free⟩
    · obtain rfl | later' := List.mem_cons.mp member
      · exact ⟨[], t, rfl, later⟩
      · exact absurd later' later

theorem splitLast?_eq_some_iff {a : α} {t front rest : List α} :
    splitLast? a t = some (front, rest) ↔ t = front ++ a :: rest ∧ a ∉ rest := by
  constructor
  · intro cut
    by_cases member : a ∈ t
    · obtain ⟨before, behind, rfl, free⟩ := exists_last_occurrence member
      rw [splitLast?_append free] at cut
      cases cut
      exact ⟨rfl, free⟩
    · rw [splitLast?_eq_none member] at cut
      cases cut
  · rintro ⟨rfl, free⟩
    exact splitLast?_append free front

theorem eq_of_splitLast? {a : α} {t front rest : List α} (cut : splitLast? a t = some (front, rest)) :
    t = front ++ a :: rest :=
  (splitLast?_eq_some_iff.mp cut).1

theorem endsWith_singleton {a : α} {t : List α} : endsWith [a] t = true ↔ t.getLast? = some a := by
  rw [endsWith_iff, List.getLast?_eq_some_iff]

theorem endsWith_append_of_ne {a b : α} (other : b ≠ a) (front : List α) :
    endsWith [a] (front ++ [b]) = false := by
  rw [Bool.eq_false_iff, Ne, endsWith_singleton]
  simpa using other

theorem dropTail?_append_of_ne {a b : α} (other : b ≠ a) (front : List α) :
    dropTail? [a] (front ++ [b]) = none := by
  have missing := endsWith_append_of_ne other front
  rwa [endsWith, Option.isSome_eq_false_iff, Option.isNone_iff_eq_none] at missing

omit [LawfulBEq α] in
theorem mem_replaceFrom {old new t : List α} {skip : Nat} {a : α}
    (member : a ∈ replaceFrom old new skip t) : a ∈ t ∨ a ∈ new := by
  fun_induction replaceFrom old new skip t with
  | case1 => cases member
  | case2 skip _ t ih => exact (ih member).imp_left (List.mem_cons_of_mem _)
  | case3 b t found ih =>
    rcases List.mem_append.mp member with put | later
    · exact .inr put
    · exact (ih later).imp_left (List.mem_cons_of_mem _)
  | case4 b t missing ih =>
    rcases List.mem_cons.mp member with rfl | later
    · exact .inl List.mem_cons_self
    · exact (ih later).imp_left (List.mem_cons_of_mem _)

omit [LawfulBEq α] in
theorem mem_replaceAll {old new t : List α} {a : α} (member : a ∈ replaceAll old new t) :
    a ∈ t ∨ a ∈ new := by
  unfold replaceAll at member
  split at member
  · exact .inl member
  · exact mem_replaceFrom member

end InterfaceDraft.Text
