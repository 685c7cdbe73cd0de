import InterfaceDraft.Signature.Declaration
import InterfaceDraft.Proofs.Text.Search

set_option autoImplicit false

namespace InterfaceDraft.Signature

open Text

def artifact : List Char := [',', ' ', ')']

theorem normalise_cons {c : Char} {rest : List Char} (missing : startsWith artifact (c :: rest) = false) :
    normalise (c :: rest) = c :: normalise rest := by
  change replaceFrom artifact [')'] 0 (c :: rest) = c :: replaceFrom artifact [')'] 0 rest
  simp [replaceFrom, missing]

theorem normalise_cons_of_ne {c : Char} (other : c ≠ ',') (rest : List Char) :
    normalise (c :: rest) = c :: normalise rest := by
  apply normalise_cons
  simp [startsWith, dropLead?, artifact, Ne.symm other]

theorem normalise_artifact (behind : List Char) : normalise (artifact ++ behind) = ')' :: normalise behind := by
  change replaceFrom artifact [')'] 0 (artifact ++ behind) = ')' :: replaceFrom artifact [')'] 0 behind
  simp [artifact, replaceFrom, startsWith, dropLead?]

-- An occurrence is a step of its own, and so is every character that begins none.
@[elab_as_elim]
theorem induction_on_artifacts {motive : List Char → Prop} (text : List Char) (nil : motive [])
    (found : ∀ behind, motive behind → motive (artifact ++ behind))
    (missing : ∀ c rest, startsWith artifact (c :: rest) = false → motive rest → motive (c :: rest)) :
    motive text := by
  cases text with
  | nil => exact nil
  | cons c rest =>
    cases starts : startsWith artifact (c :: rest) with
    | true =>
      obtain ⟨behind, shape⟩ := startsWith_iff.mp starts
      have shorter : behind.length < (c :: rest).length := by
        rw [shape, List.length_append]
        exact Nat.lt_add_of_pos_left (by decide)
      rw [shape]
      exact found behind (induction_on_artifacts behind nil found missing)
    | false => exact missing c rest starts (induction_on_artifacts rest nil found missing)
termination_by text.length
decreasing_by
  · exact Nat.lt_succ_self rest.length
  · exact shorter

theorem normalise_singleton (c : Char) : normalise [c] = [c] := by
  apply normalise_cons
  simp [startsWith, dropLead?, artifact]

theorem getLast?_normalise (text : List Char) : (normalise text).getLast? = text.getLast? := by
  induction text using induction_on_artifacts with
  | nil => rfl
  | found behind ih =>
    rw [normalise_artifact, List.getLast?_cons, ih, List.getLast?_append, artifact]
    cases behind.getLast? <;> rfl
  | missing c rest unmarked ih => rw [normalise_cons unmarked, List.getLast?_cons, ih, List.getLast?_cons]

theorem artifact_not_begins {text : List Char} (missing : startsWith artifact text = false) :
    ¬ artifact <+: text := by
  rintro ⟨rest, rfl⟩
  cases missing

theorem normalise_of_free {text : List Char} (free : ¬ artifact <:+: text) :
    normalise text = text := by
  induction text using induction_on_artifacts with
  | nil => rfl
  | found behind => exact absurd (List.prefix_append artifact behind).isInfix free
  | missing c rest unmarked ih => rw [normalise_cons unmarked, ih fun later => free (List.infix_cons later)]

theorem count_normalise {c : Char} (other : c ∉ artifact) (text : List Char) :
    (normalise text).count c = text.count c := by
  induction text using induction_on_artifacts with
  | nil => rfl
  | found behind ih =>
    have close : c ≠ ')' := fun same => other (by simp [same, artifact])
    have nowhere : artifact.count c = 0 := List.count_eq_zero.mpr other
    rw [normalise_artifact, List.count_cons_of_ne close.symm, ih, List.count_append, nowhere, Nat.zero_add]
  | missing d rest unmarked ih => rw [normalise_cons unmarked, List.count_cons, ih, List.count_cons]

-- No occurrence begins in `front` and ends in `back`.
structure Apart (front back : List Char) : Prop where
  comma : endsWith [','] front = true → startsWith [' ', ')'] back = false
  space : endsWith [',', ' '] front = true → startsWith [')'] back = false

theorem Apart.of_append {before front back : List Char} (apart : Apart (before ++ front) back) :
    Apart front back := by
  have longer {tail : List Char} (ends : endsWith tail front = true) : endsWith tail (before ++ front) = true := by
    obtain ⟨head, rfl⟩ := endsWith_iff.mp ends
    exact endsWith_iff.mpr ⟨before ++ head, (List.append_assoc ..).symm⟩
  exact ⟨fun ends => apart.comma (longer ends), fun ends => apart.space (longer ends)⟩

theorem apart_of_comma (front rest : List Char) : Apart front (',' :: rest) :=
  ⟨fun _ => rfl, fun _ => rfl⟩

theorem apart_of_close {front : List Char} (filled : front.getLast? ≠ some ' ') (rest : List Char) :
    Apart front (')' :: rest) := by
  refine ⟨fun _ => rfl, fun ends => ?_⟩
  obtain ⟨head, rfl⟩ := endsWith_iff.mp ends
  simp at filled

theorem Apart.startsWith_eq {c : Char} {front back : List Char} (apart : Apart (c :: front) back) :
    startsWith artifact (c :: (front ++ back)) = startsWith artifact (c :: front) := by
  obtain ⟨comma, space⟩ := apart
  match front with
  | [] =>
    by_cases first : c = ','
    · subst first
      have missing := comma rfl
      cases back with
      | nil => simp [startsWith, dropLead?, artifact]
      | cons d back => simpa [startsWith, dropLead?, artifact] using missing
    · simp [startsWith, dropLead?, artifact, Ne.symm first]
  | [d] =>
    by_cases both : c = ',' ∧ d = ' '
    · obtain ⟨rfl, rfl⟩ := both
      have missing := space rfl
      cases back with
      | nil => simp [startsWith, dropLead?, artifact]
      | cons e back => simpa [startsWith, dropLead?, artifact] using missing
    · simp only [startsWith, dropLead?, artifact, List.cons_append, List.nil_append]
      by_cases first : c = ','
      · have second : ' ' ≠ d := fun same => both ⟨first, same.symm⟩
        simp [first, second]
      · simp [Ne.symm first]
  | d :: e :: rest =>
    simp only [startsWith, dropLead?, artifact, List.cons_append]
    split_ifs <;> rfl

-- What is replaced lies on one side of the seam.
theorem normalise_append {front back : List Char} (apart : Apart front back) :
    normalise (front ++ back) = normalise front ++ normalise back := by
  induction front using induction_on_artifacts with
  | nil => rfl
  | found behind ih =>
    rw [List.append_assoc, normalise_artifact, normalise_artifact, ih apart.of_append, List.cons_append]
  | missing c rest unmarked ih =>
    have later : Apart rest back := @Apart.of_append [c] rest back apart
    rw [List.cons_append, normalise_cons (apart.startsWith_eq.trans unmarked), normalise_cons unmarked, ih later,
      List.cons_append]

theorem normalise_seam {front : List Char} (filled : front.getLast? ≠ some ' ')
    (behind : List Char) :
    normalise (front ++ (artifact ++ behind)) = normalise (front ++ ')' :: behind) := by
  have comma : Apart front (artifact ++ behind) := apart_of_comma front _
  rw [normalise_append (apart_of_close filled behind), normalise_append comma, normalise_artifact,
    normalise_cons_of_ne (by decide)]

-- A closing parenthesis stands where one stood, or where an occurrence did; any other character stood there.
theorem eq_of_normalise {c : Char} {text rest : List Char} (shape : normalise text = c :: rest) :
    (∃ more, text = c :: more ∧ normalise more = rest) ∨ c = ')' ∧ ∃ behind, text = artifact ++ behind := by
  cases text using induction_on_artifacts with
  | nil => cases shape
  | found behind =>
    rw [normalise_artifact] at shape
    exact .inr ⟨(List.cons.inj shape).1.symm, behind, rfl⟩
  | missing d more unmarked =>
    rw [normalise_cons unmarked] at shape
    obtain ⟨rfl, same⟩ := List.cons.inj shape
    exact .inl ⟨more, rfl, same⟩

theorem startsWith_of_normalise {lead : List Char} (free : ')' ∉ lead) {text : List Char}
    (begins : startsWith lead (normalise text) = true) : startsWith lead text = true := by
  induction lead generalizing text with
  | nil => rfl
  | cons c lead ih =>
    obtain ⟨rest, shape⟩ := startsWith_iff.mp begins
    rcases eq_of_normalise shape with ⟨more, rfl, later⟩ | ⟨close, -⟩
    · have onward := ih (List.not_mem_of_not_mem_cons free) (startsWith_iff.mpr ⟨rest, later⟩)
      obtain ⟨behind, rfl⟩ := startsWith_iff.mp onward
      exact startsWith_iff.mpr ⟨behind, rfl⟩
    · exact absurd close.symm (List.ne_of_not_mem_cons free)

end InterfaceDraft.Signature
