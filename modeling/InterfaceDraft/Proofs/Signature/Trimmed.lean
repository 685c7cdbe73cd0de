import InterfaceDraft.Proofs.Signature.Characters
import InterfaceDraft.Proofs.Signature.Exported
import InterfaceDraft.Proofs.Signature.TwoPhase

set_option autoImplicit false

namespace InterfaceDraft.Signature

open Text

-- A declaration among the lines: the fragments that leave it open, and the one that completes it.
structure Fragments where
  opened : List (List Char)
  last : List Char

def Fragments.signature (d : Fragments) : List Char :=
  normalise (d.opened.flatMap joined ++ trimEnd (cut d.last))

def declarationsIn (receiver : List Char) : List (List Char) → List Fragments
  | [] => []
  | line :: rest =>
    match declared? receiver line with
    | none => declarationsIn receiver rest
    | some head =>
      match _complete : (head :: rest).dropWhile (!isComplete ·) with
      | [] => []
      | last :: after =>
        ⟨(head :: rest).takeWhile (!isComplete ·), last⟩ :: declarationsIn receiver after
termination_by lines => lines.length
decreasing_by
  · simp
  · have shorter := (List.dropWhile_suffix (l := head :: rest) (!isComplete ·)).length_le
    rw [_complete] at shorter
    simp only [List.length_cons] at shorter ⊢
    omega

-- The declarations of a source, its comments and blank lines taken out.
def declarationsOf (receiver source : List Char) : List Fragments :=
  declarationsIn receiver (uncommented ((lines source).map trim))

theorem signaturesIn_eq_map (receiver : List Char) (lines : List (List Char)) :
    signaturesIn receiver lines = (declarationsIn receiver lines).map Fragments.signature := by
  fun_induction declarationsIn receiver lines with
  | case1 => rw [signaturesIn, List.map_nil]
  | case2 line rest undeclared ih => rw [signaturesIn_cons, undeclared, ← ih]
  | case3 line rest head declared incomplete =>
    rw [signaturesIn_cons, declared]
    simp only [collected, incomplete, List.map_nil]
  | case4 line rest head declared last after complete ih =>
    rw [signaturesIn_cons, declared]
    simp only [collected, complete, List.map_cons, ← ih]
    rfl

-- Nothing stands before the body in the last fragment, and a space joins it to the one before.
structure Fragments.Bare (d : Fragments) : Prop where
  nothing : trimEnd (cut d.last) = []
  spaced : ∃ fragment, d.opened.getLast? = some fragment ∧ endsWith ['('] fragment = false

def EndsFilled (fragment : List Char) : Prop := ∃ c, fragment.getLast? = some c ∧ isBlank c = false

theorem EndsFilled.of_suffix {fragment line : List Char} (filled : EndsFilled line)
    (suffix : fragment <:+ line) (some : fragment ≠ []) : EndsFilled fragment := by
  obtain ⟨front, rfl⟩ := suffix
  obtain ⟨c, last, plain⟩ := filled
  rw [List.getLast?_append_of_ne_nil _ some] at last
  exact ⟨c, last, plain⟩

theorem mem_of_mem_behindClose {line : List Char} {lines : List (List Char)}
    (member : line ∈ behindClose lines) : line ∈ lines := by
  induction lines with
  | nil => exact member
  | cons first rest ih =>
    apply List.mem_cons_of_mem
    rw [behindClose] at member
    split at member
    next => exact member
    next => exact ih member

theorem mem_of_mem_uncommented {line : List Char} {lines : List (List Char)}
    (member : line ∈ uncommented lines) : line ∈ lines ∧ line ≠ [] := by
  fun_induction uncommented lines with
  | case1 => cases member
  | case2 first rest _ ih | case3 first rest _ _ _ ih =>
    exact ⟨List.mem_cons_of_mem _ (ih member).1, (ih member).2⟩
  | case4 first rest _ _ _ ih =>
    exact ⟨List.mem_cons_of_mem _ (mem_of_mem_behindClose (ih member).1), (ih member).2⟩
  | case5 first rest kept _ ih =>
    rcases List.mem_cons.mp member with rfl | later
    · refine ⟨List.mem_cons_self, ?_⟩
      rintro rfl
      exact kept rfl
    · exact ⟨List.mem_cons_of_mem _ (ih later).1, (ih later).2⟩

theorem endsFilled_of_mem_uncommented {line : List Char} {raws : List (List Char)}
    (member : line ∈ uncommented (raws.map trim)) : EndsFilled line := by
  obtain ⟨among, some⟩ := mem_of_mem_uncommented member
  obtain ⟨raw, -, rfl⟩ := List.mem_map.mp among
  have last := List.getLast?_eq_some_getLast some
  exact ⟨_, last, getLast?_trimEnd last⟩

theorem endsFilled_of_declared? {receiver line head : List Char} (declared : declared? receiver line = some head)
    (filled : EndsFilled line) : EndsFilled head := by
  apply filled.of_suffix (suffix_of_declared? declared)
  rintro rfl
  cases isExported_of_declared? declared

theorem endsFilled_of_mem_opened {receiver : List Char} {lines : List (List Char)}
    (filled : ∀ line ∈ lines, EndsFilled line) {d : Fragments} (member : d ∈ declarationsIn receiver lines) :
    ∀ fragment ∈ d.opened, EndsFilled fragment := by
  fun_induction declarationsIn receiver lines with
  | case1 => cases member
  | case2 line rest undeclared ih => exact ih (fun l later => filled l (List.mem_cons_of_mem _ later)) member
  | case3 => cases member
  | case4 line rest head declared last after complete ih =>
    have all : ∀ fragment ∈ head :: rest, EndsFilled fragment := by
      rw [List.forall_mem_cons] at filled ⊢
      exact ⟨endsFilled_of_declared? declared filled.1, filled.2⟩
    rcases List.mem_cons.mp member with rfl | later
    · have taken : (head :: rest).takeWhile (!isComplete ·) <+: head :: rest := List.takeWhile_prefix _
      exact fun fragment among => all fragment (taken.subset among)
    · have behind : last :: after <:+ head :: rest := complete ▸ List.dropWhile_suffix _
      apply ih _ later
      exact fun l among => all l (behind.subset (List.mem_cons_of_mem _ among))

theorem Fragments.signature_of_bare {d : Fragments} (filled : ∀ fragment ∈ d.opened, EndsFilled fragment)
    (bare : d.Bare) :
    ∃ stem, d.signature = stem ++ [' '] ∧ ∀ c ∈ stem.getLast?, isBlank c = false := by
  obtain ⟨fragment, isLast, noParen⟩ := bare.spaced
  obtain ⟨front, shape⟩ := List.getLast?_eq_some_iff.mp isLast
  obtain ⟨c, last, plain⟩ := filled fragment (by simp [shape])
  have apart : Apart (front.flatMap joined ++ fragment) [' '] := ⟨fun _ => rfl, fun _ => rfl⟩
  refine ⟨normalise (front.flatMap joined ++ fragment), ?_, ?_⟩
  · rw [← normalise_singleton ' ', ← normalise_append apart, signature, bare.nothing, shape]
    simp [joined, noParen]
  · rw [getLast?_normalise, List.getLast?_append, last]
    simpa using plain

theorem Fragments.getLast?_of_not_bare {d : Fragments} (bare : ¬ d.Bare) :
    ∀ c ∈ d.signature.getLast?, isBlank c = false := by
  intro c last
  rw [signature, getLast?_normalise, Option.mem_def] at last
  by_cases nothing : trimEnd (cut d.last) = []
  · rw [nothing, List.append_nil] at last
    rcases List.eq_nil_or_concat d.opened with none | ⟨front, fragment, shape⟩
    · simp [none] at last
    · rw [List.concat_eq_append] at shape
      -- The space is left out behind an opening parenthesis only.
      have paren : endsWith ['('] fragment = true := by
        by_contra noParen
        exact bare ⟨nothing, fragment, by simp [shape], by simpa using noParen⟩
      obtain ⟨head, rfl⟩ := endsWith_iff.mp paren
      have ends : joined (head ++ ['(']) = head ++ ['('] := by simp [joined, paren]
      obtain rfl : '(' = c := by simpa [shape, ends] using last
      decide
  · rw [List.getLast?_append_of_ne_nil _ nothing] at last
    exact getLast?_trimEnd last

theorem ofText_eq_map (receiver source : List Char) :
    ofText receiver source = (declarationsOf receiver source).map Fragments.signature := by
  rw [ofText_eq_two_phase, signaturesIn_eq_map]
  rfl

section Found

variable {receiver source : List Char} {d : Fragments} (found : d ∈ declarationsOf receiver source)

include found

theorem isBlank_of_head?_signature {c : Char} (first : d.signature.head? = some c) : isBlank c = false := by
  have member : d.signature ∈ ofText receiver source := by
    rw [ofText_eq_map]
    exact List.mem_map_of_mem found
  obtain ⟨c, rest, shape, upper⟩ := isExported_iff.mp (isExported_of_mem_ofText member)
  obtain rfl : c = _ := by simpa [shape] using first
  exact isBlank_of_isUppercase upper

theorem trim_signature (bare : ¬ d.Bare) : trim d.signature = d.signature := by
  rw [trim_eq_self_iff]
  exact ⟨fun _ => isBlank_of_head?_signature found, Fragments.getLast?_of_not_bare bare⟩

theorem exists_stem (bare : d.Bare) : ∃ stem, d.signature = stem ++ [' '] ∧ trim stem = stem := by
  have filled := endsFilled_of_mem_opened (fun _ => endsFilled_of_mem_uncommented) found
  obtain ⟨stem, shape, last⟩ := Fragments.signature_of_bare filled bare
  refine ⟨stem, shape, trim_eq_self_iff.mpr ⟨fun c first => ?_, last⟩⟩
  apply isBlank_of_head?_signature found
  rw [shape, List.head?_append, Option.mem_def.mp first]
  rfl

end Found

theorem signatures_trimmed_unless_bare (receiver source : List Char) :
    ofText receiver source = (declarationsOf receiver source).map Fragments.signature ∧
      (∀ d ∈ declarationsOf receiver source, (¬ d.Bare → trim d.signature = d.signature) ∧
        (d.Bare → ∃ stem, d.signature = stem ++ [' '] ∧ trim stem = stem)) ∧
      ((∀ signature ∈ ofText receiver source, trim signature = signature) ↔
        ∀ d ∈ declarationsOf receiver source, ¬ d.Bare) := by
  refine ⟨ofText_eq_map receiver source, fun d found => ⟨trim_signature found, exists_stem found⟩, ?_⟩
  rw [ofText_eq_map, List.forall_mem_map]
  constructor
  · intro trimmed d found bare
    obtain ⟨stem, shape, -⟩ := exists_stem found bare
    have last := (trim_eq_self_iff.mp (trimmed d found)).2 ' ' (by simp [shape])
    exact absurd last (by decide)
  · intro none d found
    exact trim_signature found (none d found)

-- The brace that opens the body stands on a line of its own.
theorem signature_ends_in_space :
    ofText "T".toList "func (t *T) A()\n\x7b\n".toList = ["A() ".toList] ∧
      trim "A() ".toList ≠ "A() ".toList := by
  decide

end InterfaceDraft.Signature
