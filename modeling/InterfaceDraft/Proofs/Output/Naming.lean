import InterfaceDraft.Output.Sink
import InterfaceDraft.Proofs.Files.LastName
import InterfaceDraft.Proofs.Text.Search

set_option autoImplicit false

namespace InterfaceDraft.Files.Path

open Text

-- The bytes behind the last slash, or all of them.
def ending (p : Path) : Bytes :=
  match splitLast? slash p.bytes with
  | some (_, rest) => rest
  | none => p.bytes

theorem ending_cases (p : Path) :
    slash ∉ p.ending ∧
      (p.bytes = p.ending ∨ ∃ front, p.bytes = front ++ slash :: p.ending) := by
  by_cases cut : slash ∈ p.bytes
  · obtain ⟨front, rest, split, free⟩ := exists_last_occurrence cut
    have ending : p.ending = rest := by rw [ending, split, splitLast?_append free]
    rw [ending]
    exact ⟨free, .inr ⟨front, split⟩⟩
  · have ending : p.ending = p.bytes := by rw [ending, splitLast?_eq_none cut]
    rw [ending]
    exact ⟨cut, .inl rfl⟩

-- What is put behind a path without a slash goes to its last piece.
theorem pieces_append (p : Path) {suffix : Bytes} (flat : slash ∉ suffix) :
    ∃ front, pieces ⟨p.bytes ++ suffix⟩ = front ++ [p.ending ++ suffix] := by
  obtain ⟨free, shape⟩ := p.ending_cases
  have last : splitAll slash (p.ending ++ suffix) = [p.ending ++ suffix] := by
    apply splitAll_of_not_mem
    simp [free, flat]
  rcases shape with whole | ⟨front, split⟩
  · refine ⟨[], ?_⟩
    rw [pieces, whole, last]
    rfl
  · refine ⟨splitAll slash front, ?_⟩
    rw [pieces, split, List.append_assoc, List.cons_append, splitAll_append_cons, last]

-- The last name is UTF-8 and ends so.
def HasSuffix (p : Path) (suffix : List Char) : Prop :=
  ∃ stem, p.fileName? = some (encode (stem ++ suffix))

theorem hasSuffix_iff {p : Path} {suffix : List Char} :
    p.HasSuffix suffix ↔ ∃ name, p.fileName?.bind decode? = some name ∧ endsWith suffix name = true := by
  simp only [HasSuffix, Option.bind_eq_some_iff, decode?_eq_some_iff, endsWith_iff]
  constructor
  · rintro ⟨stem, found⟩
    exact ⟨_, ⟨_, found, rfl⟩, stem, rfl⟩
  · rintro ⟨_, ⟨_, found, rfl⟩, stem, rfl⟩
    exact ⟨stem, found⟩

end InterfaceDraft.Files.Path

namespace InterfaceDraft.Output

open Text Files

theorem pathFor_of_empty {extension : String} (empty : (Source.withoutDots extension).toList = [])
    (p : Path) : pathFor p extension = p := by
  simp [pathFor, empty]

theorem pathFor_of_hasSuffix {p : Path} {extension : String}
    (named : p.HasSuffix ('.' :: (Source.withoutDots extension).toList)) : pathFor p extension = p := by
  obtain ⟨name, found, ends⟩ := Path.hasSuffix_iff.mp named
  simp [pathFor, found, ends]

theorem pathFor_of_not_hasSuffix {p : Path} {extension : String}
    (filled : (Source.withoutDots extension).toList ≠ [])
    (other : ¬ p.HasSuffix ('.' :: (Source.withoutDots extension).toList)) :
    pathFor p extension = ⟨p.bytes ++ encode ('.' :: (Source.withoutDots extension).toList)⟩ := by
  rw [Path.hasSuffix_iff] at other
  cases found : p.fileName?.bind decode? with
  | none => simp [pathFor, filled, found]
  | some name =>
    have ends : ¬ endsWith ('.' :: (Source.withoutDots extension).toList) name = true :=
      fun ends => other ⟨name, found, ends⟩
    simp [pathFor, filled, found, ends]

theorem withoutDots_eq (extension : String) :
    (Source.withoutDots extension).toList = extension.toList.dropWhile (· == '.') := by
  simp [Source.withoutDots]

theorem encode_dot_cons (s : List Char) : encode ('.' :: s) = Path.dot :: encode s := rfl

-- An extension does not begin with a dot, so with one before it, it names neither a directory itself
-- nor the one above.
theorem not_idle_of_extension {extension : String} (filled : (Source.withoutDots extension).toList ≠ [])
    (front : Bytes) :
    let name := front ++ encode ('.' :: (Source.withoutDots extension).toList)
    Path.isIdle name = false ∧ name ≠ Path.above := by
  intro name
  have notDot : (Source.withoutDots extension).toList ≠ ['.'] := by
    intro same
    have head := List.head?_dropWhile_not (· == '.') extension.toList
    rw [← withoutDots_eq, same] at head
    simp at head
  have bytes : encode (Source.withoutDots extension).toList ≠ [] := by rwa [Ne, encode_eq_nil_iff]
  have positive := List.length_pos_iff.mpr bytes
  have long : name.length = front.length + (encode (Source.withoutDots extension).toList).length + 1 := by
    simp only [name, encode_dot_cons, List.length_append, List.length_cons, Nat.add_assoc]
  constructor
  · have notHere : name ≠ Path.here := by
      intro same
      rw [same, Path.here, List.length_singleton] at long
      omega
    have notEmpty : name ≠ [] := by
      rw [← List.length_pos_iff]
      omega
    simp [Path.isIdle, notEmpty, notHere]
  · intro same
    rw [same, Path.above, List.length_cons, List.length_singleton] at long
    obtain rfl : front = [] := List.length_eq_zero_iff.mp (by omega)
    have dot : encode (Source.withoutDots extension).toList = encode ['.'] := (List.cons.inj same).2
    have decoded := congrArg decode? dot
    rw [decode?_encode, decode?_encode, Option.some.injEq] at decoded
    exact notDot decoded

theorem hasSuffix_append {p : Path} {extension : String} {ending : List Char}
    (text : decode? p.ending = some ending) (flat : '/' ∉ extension.toList)
    (filled : (Source.withoutDots extension).toList ≠ []) :
    Path.HasSuffix ⟨p.bytes ++ encode ('.' :: (Source.withoutDots extension).toList)⟩
      ('.' :: (Source.withoutDots extension).toList) := by
  have flatSuffix : Path.slash ∉ encode ('.' :: (Source.withoutDots extension).toList) := by
    intro cut
    have member : '/' ∈ '.' :: (Source.withoutDots extension).toList :=
      (mem_encode_ascii_iff (by decide)).mp cut
    rw [withoutDots_eq] at member
    rcases List.mem_cons.mp member with wrong | among
    · cases wrong
    · exact flat ((List.dropWhile_sublist _).mem among)
  obtain ⟨front, pieces⟩ := p.pieces_append flatSuffix
  obtain ⟨named, proper⟩ := not_idle_of_extension filled p.ending
  refine ⟨ending, ?_⟩
  rw [Path.fileName?_of_pieces pieces named proper (by simp), encode_append, decode?_eq_some_iff.mp text]

theorem pathFor_adds_extension_once (p : Path) (extension : String)
    (text : (decode? p.ending).isSome = true) (flat : '/' ∉ extension.toList) :
    let bare := extension.toList.dropWhile (· == '.')
    let q := pathFor p extension
    (q = p ∨ q = ⟨p.bytes ++ encode ('.' :: bare)⟩) ∧
    (bare = [] → q = p) ∧
    (bare ≠ [] → ∃ stem, q.fileName? = some (encode (stem ++ '.' :: bare))) ∧
    pathFor q extension = q ∧
    ∀ dots : Nat, pathFor p (.ofList (List.replicate dots '.' ++ extension.toList)) = q := by
  intro bare q
  have stripped : (Source.withoutDots extension).toList = bare := withoutDots_eq extension
  obtain ⟨ending, text⟩ := Option.isSome_iff_exists.mp text
  have dotted (dots : Nat) : pathFor p (.ofList (List.replicate dots '.' ++ extension.toList)) = q := by
    simp only [q, pathFor, Source.withoutDots_dotted]
  by_cases empty : bare = []
  · have kept (other : Path) : pathFor other extension = other :=
      pathFor_of_empty (stripped.trans empty) other
    exact ⟨.inl (kept p), fun _ => kept p, fun filled => absurd empty filled, kept q, dotted⟩
  · have filled : (Source.withoutDots extension).toList ≠ [] := stripped ▸ empty
    have result : (q = p ∨ q = ⟨p.bytes ++ encode ('.' :: bare)⟩) ∧ q.HasSuffix ('.' :: bare) := by
      rw [← stripped]
      by_cases named : p.HasSuffix ('.' :: (Source.withoutDots extension).toList)
      · have kept : q = p := pathFor_of_hasSuffix named
        exact ⟨.inl kept, kept ▸ named⟩
      · have added := pathFor_of_not_hasSuffix filled named
        refine ⟨.inr added, ?_⟩
        rw [show q = _ from added]
        exact hasSuffix_append text flat filled
    refine ⟨result.1, fun none => absurd none empty, fun _ => result.2, ?_, dotted⟩
    exact pathFor_of_hasSuffix (stripped ▸ result.2)

-- The last name is that of the directory above, so the path has no file name at first.
theorem pathFor_adds_extension_once_above :
    let p : Path := ⟨0xff :: bytesOf "/a.tar.gz/.."⟩
    let q := pathFor p "..tar.gz"
    (decode? p.ending).isSome = true ∧ '/' ∉ "..tar.gz".toList ∧ p.fileName? = none ∧
      q = ⟨0xff :: bytesOf "/a.tar.gz/...tar.gz"⟩ ∧ pathFor q "..tar.gz" = q := by
  intro p q
  have text : (decode? p.ending).isSome = true := by decide +kernel
  have flat : '/' ∉ "..tar.gz".toList := by decide +kernel
  obtain ⟨-, -, -, again, -⟩ := pathFor_adds_extension_once p "..tar.gz" text flat
  exact ⟨text, flat, by decide +kernel, by decide +kernel, again⟩

end InterfaceDraft.Output
