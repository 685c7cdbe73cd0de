import InterfaceDraft.Text.Blank
import Mathlib.Data.List.Basic
import Mathlib.Data.List.DropRight
import Mathlib.Data.List.TakeWhile

set_option autoImplicit false

namespace InterfaceDraft.Text

theorem trimStart_eq_self_iff {s : List Char} :
    trimStart s = s ↔ ∀ c ∈ s.head?, isBlank c = false := by
  cases s with
  | nil => simp
  | cons c s =>
    cases blank : isBlank c with
    | false => simp [trimStart, blank]
    | true =>
      have shorter : (trimStart s).length ≤ s.length := (List.dropWhile_suffix isBlank).length_le
      have skipped : trimStart (c :: s) = trimStart s := by simp [trimStart, blank]
      have different : trimStart s ≠ c :: s := by
        intro same
        rw [same, List.length_cons] at shorter
        omega
      simp [skipped, different, blank]

theorem trimEnd_eq_reverse (s : List Char) : trimEnd s = (trimStart s.reverse).reverse := rfl

theorem trimEnd_begins (s : List Char) : trimEnd s <+: s :=
  List.rdropWhile_prefix isBlank s

theorem trimEnd_eq_self_iff {s : List Char} :
    trimEnd s = s ↔ ∀ c ∈ s.getLast?, isBlank c = false := by
  rw [trimEnd_eq_reverse, List.reverse_eq_iff, trimStart_eq_self_iff, List.head?_reverse]

theorem trim_eq_self_iff {s : List Char} :
    trim s = s ↔ (∀ c ∈ s.head?, isBlank c = false) ∧ ∀ c ∈ s.getLast?, isBlank c = false := by
  rw [← trimStart_eq_self_iff, ← trimEnd_eq_self_iff]
  constructor
  · intro trimmed
    -- Neither end can be shortened if the whole keeps its length.
    have endLe : (trim s).length ≤ (trimStart s).length := (trimEnd_begins (trimStart s)).length_le
    rw [trimmed] at endLe
    have startSelf : trimStart s = s := (List.dropWhile_suffix isBlank).eq_of_length_le endLe
    exact ⟨startSelf, by rwa [trim, startSelf] at trimmed⟩
  · rintro ⟨startSelf, endSelf⟩
    rw [trim, startSelf, endSelf]

theorem getLast?_trimEnd {s : List Char} {c : Char} (last : (trimEnd s).getLast? = some c) :
    isBlank c = false := by
  rw [trimEnd, List.getLast?_reverse] at last
  have stopped := List.head?_dropWhile_not isBlank s.reverse
  rwa [last] at stopped

theorem trim_of_no_blank {s : List Char} (plain : ∀ c ∈ s, isBlank c = false) : trim s = s :=
  trim_eq_self_iff.mpr
    ⟨fun c first => plain c (List.mem_of_head? first), fun c last => plain c (List.mem_of_getLast? last)⟩

theorem trimEnd_append_blank {trail : List Char} (blank : ∀ c ∈ trail, isBlank c = true)
    (s : List Char) : trimEnd (s ++ trail) = trimEnd s := by
  rw [trimEnd, List.reverse_append,
    List.dropWhile_append_of_pos fun c member => blank c (List.mem_reverse.mp member)]
  rfl

-- Trimming stops at the last character that is no blank.
theorem trimEnd_append_of_last {front : List Char} {c : Char} (last : front.getLast? = some c)
    (plain : isBlank c = false) (s : List Char) : trimEnd (front ++ s) = front ++ trimEnd s := by
  have kept : front.reverse.dropWhile isBlank = front.reverse := by
    rw [← List.head?_reverse] at last
    apply trimStart_eq_self_iff.mpr
    simpa [last] using plain
  rw [trimEnd, trimEnd, List.reverse_append, List.dropWhile_append, kept]
  split
  next allBlank => simp [List.isEmpty_iff.mp allBlank]
  next => simp

theorem trimEnd_cons {c : Char} (plain : isBlank c = false) (s : List Char) :
    trimEnd (c :: s) = c :: trimEnd s :=
  trimEnd_append_of_last (List.getLast?_singleton) plain s

theorem mem_of_mem_trimStart {c : Char} {s : List Char} (member : c ∈ trimStart s) : c ∈ s :=
  (List.dropWhile_suffix isBlank).subset member

theorem mem_of_mem_trimEnd {c : Char} {s : List Char} (member : c ∈ trimEnd s) : c ∈ s :=
  (trimEnd_begins s).subset member

theorem mem_of_mem_trim {c : Char} {s : List Char} (member : c ∈ trim s) : c ∈ s :=
  mem_of_mem_trimStart (mem_of_mem_trimEnd member)

theorem trimStart_eq_nil_iff {s : List Char} : trimStart s = [] ↔ ∀ c ∈ s, isBlank c = true :=
  List.dropWhile_eq_nil_iff

theorem trim_of_blank {s : List Char} (blank : ∀ c ∈ s, isBlank c = true) : trim s = [] := by
  rw [trim, trimStart_eq_nil_iff.mpr blank, trimEnd_nil]

theorem trim_blank_append {lead : List Char} (blank : ∀ c ∈ lead, isBlank c = true) (s : List Char) :
    trim (lead ++ s) = trim s := by
  have front : trimStart (lead ++ s) = trimStart s := List.dropWhile_append_of_pos blank
  rw [trim, front, trim]

theorem trim_append_blank {trail : List Char} (blank : ∀ c ∈ trail, isBlank c = true)
    (s : List Char) : trim (s ++ trail) = trim s := by
  -- A text of blanks alone is used up before its trail is reached.
  by_cases empty : trimStart s = []
  · have allBlank : ∀ c ∈ s ++ trail, isBlank c = true := by
      intro c member
      rcases List.mem_append.mp member with inside | behind
      · exact trimStart_eq_nil_iff.mp empty c inside
      · exact blank c behind
    rw [trim_of_blank allBlank, trim, empty, trimEnd_nil]
  · have kept : trimStart (s ++ trail) = trimStart s ++ trail := by
      unfold trimStart at empty ⊢
      rw [List.dropWhile_append, if_neg]
      rwa [List.isEmpty_iff]
    rw [trim, kept, trimEnd_append_blank blank, trim]

-- A text is its trimmed form with blanks around it.
theorem exists_trim (s : List Char) : ∃ lead trail, s = lead ++ (trim s ++ trail) ∧
    (∀ c ∈ lead, isBlank c = true) ∧ ∀ c ∈ trail, isBlank c = true := by
  have front : s.takeWhile isBlank ++ trimStart s = s := List.takeWhile_append_dropWhile
  have back : trim s ++ (trimStart s).rtakeWhile isBlank = trimStart s :=
    List.rdropWhile_append_rtakeWhile
  refine ⟨s.takeWhile isBlank, (trimStart s).rtakeWhile isBlank, ?_, ?_, ?_⟩
  · rw [back, front]
  · exact fun c among => List.mem_takeWhile_imp among
  · exact fun c among => List.mem_rtakeWhile_imp among

theorem trimEnd_append_space {s : List Char} (filled : ∀ c ∈ s.getLast?, isBlank c = false) :
    trimEnd (s ++ [' ']) = s := by
  rw [trimEnd_append_blank (List.all_eq_true.mp rfl), trimEnd_eq_self_iff.mpr filled]

end InterfaceDraft.Text
