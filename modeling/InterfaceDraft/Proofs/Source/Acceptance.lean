import InterfaceDraft.Proofs.Files.LastName
import InterfaceDraft.Source.Filter

set_option autoImplicit false

namespace InterfaceDraft.Source

open Text Files

theorem extension?_of_fileName? {p : Path} {name : List Char} (found : p.fileName? = some (encode name)) :
    p.extension? = (splitLast? '.' name).bind fun (stem, extension) =>
      if stem.isEmpty then none else some (encode extension) := by
  have dot : Path.dot = .ofNat '.'.toNat := rfl
  rw [Path.extension?, found]
  simp only [dot, splitLast?_encode (show '.'.toNat < 0x80 by decide)]
  cases splitLast? '.' name with
  | none => rfl
  | some parts =>
    obtain ⟨stem, extension⟩ := parts
    have same : (encode stem).isEmpty = stem.isEmpty := by
      rw [Bool.eq_iff_iff, List.isEmpty_iff, List.isEmpty_iff, encode_eq_nil_iff]
    simp only [Option.map_some, Prod.map, same, Option.bind_some]

theorem extension?_eq_some_iff {p : Path} {name extension : List Char}
    (found : p.fileName? = some (encode name)) :
    p.extension?.bind decode? = some extension ↔
      '.' ∉ extension ∧ ∃ stem, stem ≠ [] ∧ name = stem ++ '.' :: extension := by
  rw [extension?_of_fileName? found]
  simp only [Option.bind_eq_some_iff, Prod.exists, splitLast?_eq_some_iff]
  constructor
  · rintro ⟨bytes, ⟨stem, rest, ⟨rfl, flat⟩, cut⟩, text⟩
    split at cut
    next => cases cut
    next filled =>
      cases cut
      rw [decode?_encode, Option.some.injEq] at text
      subst text
      exact ⟨flat, stem, by simpa using filled, rfl⟩
  · rintro ⟨flat, stem, filled, rfl⟩
    refine ⟨encode extension, ⟨stem, extension, ⟨rfl, flat⟩, ?_⟩, decode?_encode extension⟩
    simp [filled]

theorem Filter.accepts_eq_true_iff (filter : Filter) (p : Path) :
    filter.accepts p = true ↔ ∃ name, p.fileName? = some (encode name) ∧
      p.extension?.bind decode? = some filter.extension.toList ∧
      endsWith filter.testSuffix.toList name = false := by
  have named {name : List Char} :
      p.fileName?.bind decode? = some name ↔ p.fileName? = some (encode name) := by
    simp [Option.bind_eq_some_iff, decode?_eq_some_iff]
  simp only [← named]
  unfold accepts
  cases p.fileName?.bind decode? with
  | none => cases p.extension? <;> simp
  | some name => cases p.extension? <;> simp

theorem Filter.accepts_iff (filter : Filter) (p : Path) :
    filter.accepts p = true ↔ '.' ∉ filter.extension.toList ∧ ∃ stem : List Char, stem ≠ [] ∧
      p.IsNamed (encode (stem ++ '.' :: filter.extension.toList)) ∧
      ¬ filter.testSuffix.toList <:+ stem ++ '.' :: filter.extension.toList := by
  rw [accepts_eq_true_iff]
  simp only [← Path.fileName?_eq_some_iff]
  constructor
  · rintro ⟨name, found, extended, other⟩
    obtain ⟨flat, stem, filled, rfl⟩ := (extension?_eq_some_iff found).mp extended
    refine ⟨flat, stem, filled, found, fun ends => ?_⟩
    obtain ⟨front, shape⟩ := ends
    rw [endsWith_iff.mpr ⟨front, shape.symm⟩] at other
    cases other
  · rintro ⟨flat, stem, filled, found, other⟩
    refine ⟨_, found, (extension?_eq_some_iff found).mpr ⟨flat, stem, filled, rfl⟩, ?_⟩
    rw [Bool.eq_false_iff, Ne, endsWith_iff]
    rintro ⟨front, shape⟩
    exact other ⟨front, shape.symm⟩

-- A filter accepts the paths whose last name is a stem, a dot and the extension, tests excepted. So it
-- accepts no hidden name without another dot, nothing if every name is a test's or the extension holds a
-- dot, and a setting with dots in front of the extension means the one without them.
theorem accepts_exactly_named (extension testSuffix : String) (p : Path) :
    let filter : Filter := ⟨extension, testSuffix⟩
    (filter.accepts p = true ↔ '.' ∉ extension.toList ∧ ∃ stem : List Char, stem ≠ [] ∧
      p.IsNamed (encode (stem ++ '.' :: extension.toList)) ∧
      ¬ testSuffix.toList <:+ stem ++ '.' :: extension.toList) ∧
    (∀ hidden : List Char, '.' ∉ hidden → p.IsNamed (encode ('.' :: hidden)) → filter.accepts p = false) ∧
    (testSuffix = "" → filter.accepts p = false) ∧
    ('.' ∈ extension.toList → filter.accepts p = false) ∧
    ∀ dots : Nat,
      (Filter.ofSetting (.ofList (List.replicate dots '.' ++ extension.toList)) testSuffix).accepts p =
        Filter.accepts ⟨.ofList (extension.toList.dropWhile (· == '.')), testSuffix⟩ p := by
  intro filter
  have exactly := filter.accepts_iff p
  refine ⟨exactly, ?_, ?_, ?_, ?_⟩
  · intro hidden flat named
    rw [Bool.eq_false_iff, Ne, exactly]
    rintro ⟨-, stem, filled, also, -⟩
    have same := congrArg decode? (named.unique also)
    rw [decode?_encode, decode?_encode, Option.some.injEq] at same
    -- The name begins with its only dot, but a stem stands before the dot of an extension.
    obtain ⟨c, stem, rfl⟩ := List.exists_cons_of_ne_nil filled
    rw [List.cons_append, List.cons.injEq] at same
    exact flat (by simp [same.2])
  · rintro rfl
    rw [Bool.eq_false_iff, Ne, exactly]
    rintro ⟨-, stem, -, -, other⟩
    exact other List.nil_suffix
  · intro dotted
    rw [Bool.eq_false_iff, Ne, exactly]
    exact fun accepted => accepted.1 dotted
  · intro dots
    rw [Filter.ofSetting, withoutDots_dotted]
    rfl

end InterfaceDraft.Source
