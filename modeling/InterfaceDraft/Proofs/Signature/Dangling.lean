import InterfaceDraft.Proofs.Signature.Trimmed

set_option autoImplicit false

namespace InterfaceDraft.Signature

open Text

-- At `i` stands the comma or the space of a `, )`.
def dangles (text : List Char) (i : Nat) : Bool :=
  startsWith artifact (text.drop i) || (0 < i && startsWith artifact (text.drop (i - 1)))

def undangled (text : List Char) : List Char :=
  (text.mapIdx fun i c => if dangles text i then [] else [c]).flatten

def doubled : List Char := [',', ' '] ++ artifact

-- The fragments of a declaration as they are joined, before normalising.
def Fragments.text (d : Fragments) : List Char :=
  d.opened.flatMap joined ++ trimEnd (cut d.last)

theorem Fragments.signature_eq (d : Fragments) : d.signature = normalise d.text := rfl

theorem dangles_zero (text : List Char) : dangles text 0 = startsWith artifact text := by
  simp [dangles]

theorem dangles_succ (c : Char) (rest : List Char) (i : Nat) :
    dangles (c :: rest) (i + 1) = (dangles rest i || (i == 0 && startsWith artifact (c :: rest))) := by
  cases i with
  | zero => simp [dangles]
  | succ i => simp [dangles]

theorem undangled_cons {c : Char} {rest : List Char} (missing : startsWith artifact (c :: rest) = false) :
    undangled (c :: rest) = c :: undangled rest := by
  simp [undangled, List.mapIdx_cons, dangles_zero, dangles_succ, missing]

theorem undangled_artifact (behind : List Char) : undangled (artifact ++ behind) = ')' :: undangled behind := by
  have found : startsWith artifact (',' :: ' ' :: ')' :: behind) = true := rfl
  have space : startsWith artifact (' ' :: ')' :: behind) = false := rfl
  have close : startsWith artifact (')' :: behind) = false := rfl
  change undangled (',' :: ' ' :: ')' :: behind) = _
  simp [undangled, List.mapIdx_cons, dangles_zero, dangles_succ, found, space, close]

theorem normalise_eq_undangled (text : List Char) : normalise text = undangled text := by
  induction text using induction_on_artifacts with
  | nil => rfl
  | found behind ih => rw [normalise_artifact, undangled_artifact, ih]
  | missing c rest unmarked ih => rw [normalise_cons unmarked, undangled_cons unmarked, ih]

-- If normalising brings the three characters together, the first two of them stood before an occurrence.
theorem doubled_of_begins {c : Char} {rest : List Char} (missing : startsWith artifact (c :: rest) = false)
    (begins : artifact <+: c :: normalise rest) : doubled <+: c :: rest := by
  obtain ⟨back, shape⟩ := begins
  obtain ⟨rfl, behind⟩ := List.cons.inj shape
  rcases eq_of_normalise behind.symm with ⟨more, rfl, later⟩ | ⟨close, -⟩
  · rcases eq_of_normalise later with ⟨after, rfl, -⟩ | ⟨-, after, rfl⟩
    · cases missing
    · exact ⟨after, rfl⟩
  · cases close

theorem normalise_doubled (front back : List Char) :
    normalise (front ++ (doubled ++ back)) = normalise front ++ (artifact ++ normalise back) := by
  have outer : Apart front (doubled ++ back) := apart_of_comma front _
  have inner : Apart [',', ' '] (artifact ++ back) := apart_of_comma _ _
  have kept : normalise [',', ' '] = [',', ' '] := by decide
  rw [normalise_append outer, doubled, List.append_assoc, normalise_append inner, kept, normalise_artifact]
  rfl

theorem artifact_infix_normalise_iff (text : List Char) : artifact <:+: normalise text ↔ doubled <:+: text := by
  constructor
  · intro inside
    induction text using induction_on_artifacts with
    | nil => simp [artifact, normalise, replaceAll, replaceFrom] at inside
    | found behind ih =>
      rw [normalise_artifact, List.infix_cons_iff] at inside
      have later := ih (inside.resolve_left (by simp [artifact]))
      exact later.trans (List.suffix_append artifact behind).isInfix
    | missing c rest unmarked ih =>
      rw [normalise_cons unmarked, List.infix_cons_iff] at inside
      rcases inside with here | later
      · exact (doubled_of_begins unmarked here).isInfix
      · exact List.infix_cons (ih later)
  · rintro ⟨front, back, rfl⟩
    rw [List.append_assoc, normalise_doubled]
    exact ⟨normalise front, normalise back, List.append_assoc ..⟩

theorem normalise_eq_self_iff (text : List Char) : normalise text = text ↔ ¬ artifact <:+: text := by
  refine ⟨fun same => ?_, normalise_of_free⟩
  induction text using induction_on_artifacts with
  | nil => simp [artifact]
  | found behind =>
    rw [normalise_artifact] at same
    cases same
  | missing c rest unmarked ih =>
    rw [normalise_cons unmarked] at same
    rw [List.infix_cons_iff, not_or]
    exact ⟨artifact_not_begins unmarked, ih (List.cons.inj same).2⟩

theorem signatures_lose_dangling_commas (receiver source : List Char) :
    ofText receiver source = (declarationsOf receiver source).map Fragments.signature ∧
      ∀ d ∈ declarationsOf receiver source,
        d.signature = undangled d.text ∧
        (artifact <:+: d.signature ↔ doubled <:+: d.text) ∧
        (normalise d.signature = d.signature ↔ ¬ doubled <:+: d.text) := by
  refine ⟨ofText_eq_map receiver source, fun d _ => ?_⟩
  have left := artifact_infix_normalise_iff d.text
  rw [← d.signature_eq] at left
  exact ⟨normalise_eq_undangled d.text, left, by rw [normalise_eq_self_iff, left]⟩

-- One comma dangles in the parameters, two in the results.
def listsSource : List Char :=
  "func (t *T) Foo(\n\ta string,\n\t// b int,\n) (\n\tn int,\n\t,\n) \x7b\n".toList

theorem signatures_lose_dangling_commas_two_lists :
    ∃ d ∈ declarationsOf "T".toList listsSource,
      d.signature = "Foo(a string) (n int, )".toList ∧ doubled <:+: d.text ∧
        normalise d.signature ≠ d.signature := by
  obtain ⟨all, each⟩ := signatures_lose_dangling_commas "T".toList listsSource
  have found : ofText "T".toList listsSource = ["Foo(a string) (n int, )".toList] := by decide
  obtain ⟨d, declared, signature⟩ := List.map_eq_singleton_iff.mp (all.symm.trans found)
  have member : d ∈ declarationsOf "T".toList listsSource := by simp only [declared, List.mem_singleton]
  obtain ⟨-, left, again⟩ := each d member
  have dangling : artifact <:+: d.signature := by
    rw [signature]
    exact ⟨"Foo(a string) (n int".toList, [], by decide⟩
  have twice : doubled <:+: d.text := left.mp dangling
  exact ⟨d, member, signature, twice, fun same => again.mp same twice⟩

end InterfaceDraft.Signature
