import InterfaceDraft.Text.Lines
import InterfaceDraft.Proofs.Text.Search
import InterfaceDraft.Proofs.Text.Utf8

set_option autoImplicit false

namespace InterfaceDraft.Text

theorem splitAll_eq_splitOn {α : Type} [BEq α] (a : α) (t : List α) : splitAll a t = t.splitOn a := by
  induction t with
  | nil => rfl
  | cons b t ih =>
    rw [splitAll, List.splitOn_cons_eq_if_modifyHead, ih]
    cases pieces : t.splitOn a with
    | nil => exact absurd pieces (List.splitOn_ne_nil a t)
    | cons piece more => rfl

theorem splitAll_ne_nil {α : Type} [BEq α] (a : α) (t : List α) : splitAll a t ≠ [] := by
  rw [splitAll_eq_splitOn]
  exact List.splitOn_ne_nil a t

theorem splitAll_of_not_mem {α : Type} [BEq α] [LawfulBEq α] {a : α} {t : List α} (free : a ∉ t) :
    splitAll a t = [t] := by
  rw [splitAll_eq_splitOn, List.splitOn_eq_singleton free]

theorem splitAll_append_cons {α : Type} [BEq α] [LawfulBEq α] (a : α) (s t : List α) :
    splitAll a (s ++ a :: t) = splitAll a s ++ splitAll a t := by
  simp only [splitAll_eq_splitOn]
  exact List.splitOn_append_cons_of_beq s t (beq_self_eq_true a)

theorem splitAll_endedLines {α : Type} [BEq α] [LawfulBEq α] {a : α} {lines : List (List α)}
    (flat : ∀ line ∈ lines, a ∉ line) (rest : List α) :
    splitAll a (lines.flatMap (· ++ [a]) ++ rest) = lines ++ splitAll a rest := by
  induction lines with
  | nil => rfl
  | cons line lines ih =>
    have later : ∀ line ∈ lines, a ∉ line := fun line member => flat line (List.mem_cons_of_mem _ member)
    rw [List.flatMap_cons, List.append_assoc, List.append_assoc, List.singleton_append,
      splitAll_append_cons, splitAll_of_not_mem (flat line List.mem_cons_self), ih later]
    rfl

theorem not_mem_of_mem_splitAll {α : Type} [BEq α] [LawfulBEq α] {a : α} {t piece : List α}
    (member : piece ∈ splitAll a t) : a ∉ piece := by
  induction t generalizing piece with
  | nil => simp_all [splitAll]
  | cons b t ih =>
    rw [splitAll] at member
    split at member
    next =>
      rcases List.mem_cons.mp member with rfl | later
      · exact List.not_mem_nil
      · exact ih later
    next other =>
      have different : a ≠ b := by
        rintro rfl
        exact other (beq_self_eq_true a)
      split at member
      next none => exact absurd none (splitAll_ne_nil a t)
      next first more pieces =>
        rw [pieces] at ih
        rcases List.mem_cons.mp member with rfl | later
        · simpa [different] using ih List.mem_cons_self
        · exact ih (List.mem_cons_of_mem _ later)

theorem splitAll_append_of_not_mem {α : Type} [BEq α] [LawfulBEq α] {a : α} {front : List α}
    (free : a ∉ front) (t : List α) :
    splitAll a (front ++ t) = (splitAll a t).modifyHead (front ++ ·) := by
  simp only [splitAll_eq_splitOn]
  induction front with
  | nil =>
    rw [List.nil_append]
    cases t.splitOn a <;> rfl
  | cons b front ih =>
    have other : (b == a) = false := beq_eq_false_iff_ne.mpr (List.ne_of_not_mem_cons free).symm
    rw [List.cons_append, List.splitOn_cons_eq_if_modifyHead, other,
      ih (List.not_mem_of_not_mem_cons free), if_neg (by simp), List.modifyHead_modifyHead]
    rfl

-- A byte below 0x80 is a character of its own and no part of another.
theorem encodeChar_of_mem_ascii {b : UInt8} {c : Char} (ascii : b.toNat < 0x80)
    (member : b ∈ encodeChar c) : encodeChar c = [b] ∧ c.toNat = b.toNat := by
  have range := char_range c
  simp only [encodeChar] at member ⊢
  generalize c.toNat = n at *
  split_ifs at member ⊢ with one
  next =>
    obtain rfl := List.mem_singleton.mp member
    exact ⟨rfl, (toNat_byte (by omega)).symm⟩
  all_goals
    simp only [List.mem_cons, List.not_mem_nil, or_false, ← UInt8.toNat_inj] at member
    simp (disch := omega) only [toNat_byte] at member
    omega

theorem encodeChar_ascii {c : Char} (ascii : c.toNat < 0x80) : encodeChar c = [.ofNat c.toNat] := by
  simp only [encodeChar, ascii, if_true]

theorem mem_encodeChar_ascii_iff {a c : Char} (ascii : a.toNat < 0x80) :
    UInt8.ofNat a.toNat ∈ encodeChar c ↔ c = a := by
  have value : (UInt8.ofNat a.toNat).toNat = a.toNat := toNat_byte (by omega)
  constructor
  · intro member
    obtain ⟨-, same⟩ := encodeChar_of_mem_ascii (by omega) member
    exact Char.toNat_inj.mp (same.trans value)
  · rintro rfl
    simp [encodeChar_ascii ascii]

theorem mem_encode_ascii_iff {a : Char} (ascii : a.toNat < 0x80) {t : List Char} :
    UInt8.ofNat a.toNat ∈ encode t ↔ a ∈ t := by
  simp only [encode, List.mem_flatMap, mem_encodeChar_ascii_iff ascii, exists_eq_right]

theorem splitAll_encode {a : Char} (ascii : a.toNat < 0x80) (t : List Char) :
    splitAll (.ofNat a.toNat) (encode t) = (splitAll a t).map encode := by
  induction t with
  | nil => rfl
  | cons c t ih =>
    by_cases cut : c = a
    · subst cut
      simp [encodeChar_ascii ascii, splitAll, ih]
    · have free : UInt8.ofNat a.toNat ∉ encodeChar c := by
        rwa [mem_encodeChar_ascii_iff ascii]
      have single : a ∉ [c] := by
        rw [List.mem_singleton]
        exact Ne.symm cut
      rw [encode_cons, splitAll_append_of_not_mem free, ih, ← List.singleton_append,
        splitAll_append_of_not_mem single]
      cases splitAll a t <;> rfl

theorem splitLast?_encode {a : Char} (ascii : a.toNat < 0x80) (t : List Char) :
    splitLast? (.ofNat a.toNat) (encode t) = (splitLast? a t).map (Prod.map encode encode) := by
  have free {s : List Char} : a ∉ s → UInt8.ofNat a.toNat ∉ encode s :=
    mt (mem_encode_ascii_iff ascii).mp
  by_cases member : a ∈ t
  · obtain ⟨front, rest, rfl, missing⟩ := exists_last_occurrence member
    rw [splitLast?_append missing, encode_append, encode_cons, encodeChar_ascii ascii,
      List.singleton_append, splitLast?_append (free missing)]
    rfl
  · rw [splitLast?_eq_none member, splitLast?_eq_none (free member)]
    rfl

theorem chompReturn_append {α : Type} [BEq α] [LawfulBEq α] (cr : α) (line : List α) :
    chompReturn cr (line ++ [cr]) = line := by
  rw [chompReturn, dropTail?_eq_some_iff.mpr rfl, Option.getD_some]

theorem chompReturn_of_getLast? {α : Type} [BEq α] [LawfulBEq α] {cr : α} {line : List α}
    (last : line.getLast? ≠ some cr) : chompReturn cr line = line := by
  rw [chompReturn, Option.getD_eq_iff]
  refine .inr ⟨?_, rfl⟩
  rw [Option.eq_none_iff_forall_ne_some]
  intro rest split
  rw [dropTail?_eq_some_iff.mp split] at last
  simp at last

theorem chompReturn_encode {a : Char} (ascii : a.toNat < 0x80) (t : List Char) :
    chompReturn (.ofNat a.toNat) (encode t) = encode (chompReturn a t) := by
  rcases List.eq_nil_or_concat t with rfl | ⟨t, c, rfl⟩
  · rfl
  · by_cases same : c = a
    · subst same
      simp [encodeChar_ascii ascii, chompReturn_append]
    · have free : UInt8.ofNat a.toNat ∉ encodeChar c := by
        rwa [mem_encodeChar_ascii_iff ascii]
      obtain ⟨lead, tail, bytes, -⟩ := next_encodeChar c
      rw [chompReturn_of_getLast?, chompReturn_of_getLast?]
      · simpa using same
      · intro last
        rw [List.concat_eq_append, encode_append,
          List.getLast?_append_of_ne_nil _ (by simp [bytes])] at last
        simp only [encode_cons, encode_nil, List.append_nil] at last
        exact free (List.mem_of_getLast? last)

theorem eq_chompReturn_or {α : Type} [BEq α] [LawfulBEq α] (cr : α) (line : List α) :
    line = chompReturn cr line ∨ line = chompReturn cr line ++ [cr] := by
  by_cases last : line.getLast? = some cr
  · obtain ⟨front, rfl⟩ := List.getLast?_eq_some_iff.mp last
    rw [chompReturn_append]
    exact .inr rfl
  · rw [chompReturn_of_getLast? last]
    exact .inl rfl

theorem mem_of_mem_linesOfPieces {α : Type} [BEq α] [LawfulBEq α] {cr : α} {pieces : List (List α)}
    {line : List α} (member : line ∈ linesOfPieces cr pieces) :
    ∃ piece ∈ pieces, line <+: piece := by
  fun_induction linesOfPieces cr pieces with
  | case1 => cases member
  | case2 last empty => cases member
  | case3 last full => exact ⟨line, member, List.prefix_rfl⟩
  | case4 piece more _ ih =>
    rcases List.mem_cons.mp member with rfl | later
    · refine ⟨piece, List.mem_cons_self, ?_⟩
      rcases eq_chompReturn_or cr piece with bare | ended
      · exact bare ▸ List.prefix_rfl
      · exact ⟨[cr], ended.symm⟩
    · obtain ⟨behind, among, front⟩ := ih later
      exact ⟨behind, List.mem_cons_of_mem _ among, front⟩

theorem flat_of_mem_lines {text line : List Char} (member : line ∈ lines text) : '\n' ∉ line := by
  obtain ⟨piece, among, front⟩ := mem_of_mem_linesOfPieces member
  intro inside
  exact not_mem_of_mem_splitAll among (front.subset inside)

theorem encode_eq_nil_iff {t : List Char} : encode t = [] ↔ t = [] := by
  cases t with
  | nil => simp
  | cons c t =>
    obtain ⟨lead, tail, bytes, -⟩ := next_encodeChar c
    simp [bytes]

theorem linesOfPieces_map_encode (pieces : List (List Char)) :
    linesOfPieces 0x0d (pieces.map encode) = (linesOfPieces '\r' pieces).map encode := by
  have cr : (0x0d : UInt8) = .ofNat '\r'.toNat := rfl
  fun_induction linesOfPieces '\r' pieces with
  | case1 => rfl
  | case2 last empty => simp_all [linesOfPieces]
  | case3 last full => simp_all [linesOfPieces, encode_eq_nil_iff]
  | case4 piece more single ih =>
    rw [List.map_cons, linesOfPieces, ih, cr, chompReturn_encode (by decide), List.map_cons]
    simpa using single

theorem mapM_decode?_eq_some_iff {pieces : List Bytes} {texts : List (List Char)} :
    pieces.mapM decode? = some texts ↔ pieces = texts.map encode := by
  induction pieces generalizing texts with
  | nil => cases texts <;> simp
  | cons piece pieces ih =>
    cases texts with
    | nil => simp [Option.bind_eq_some_iff]
    | cons text texts => simp [Option.bind_eq_some_iff, ih, decode?_eq_some_iff]

-- If every line is UTF-8, so is every piece, its carriage return included.
theorem pieces_eq_of_lines {pieces : List Bytes} {texts : List (List Char)}
    (decoded : linesOfPieces 0x0d pieces = texts.map encode) :
    ∃ parts : List (List Char), pieces = parts.map encode := by
  fun_induction linesOfPieces (0x0d : UInt8) pieces generalizing texts with
  | case1 => exact ⟨[], rfl⟩
  | case2 last empty =>
    rw [List.isEmpty_iff] at empty
    exact ⟨[[]], by simp [empty]⟩
  | case3 last full => exact ⟨texts, decoded⟩
  | case4 piece more single ih =>
    cases texts with
    | nil => cases decoded
    | cons text texts =>
      rw [List.map_cons, List.cons.injEq] at decoded
      obtain ⟨parts, rfl⟩ := ih decoded.2
      rcases eq_chompReturn_or 0x0d piece with bare | ended
      · exact ⟨text :: parts, by rw [List.map_cons, ← decoded.1, ← bare]⟩
      · refine ⟨(text ++ ['\r']) :: parts, ?_⟩
        rw [ended, decoded.1, List.map_cons, encode_append]
        rfl

theorem encode_intercalate (sep : List Char) (parts : List (List Char)) :
    encode (sep.intercalate parts) = (encode sep).intercalate (parts.map encode) := by
  induction parts with
  | nil => rfl
  | cons part parts ih =>
    cases parts with
    | nil => simp
    | cons second parts =>
      rw [List.map_cons, List.map_cons, List.intercalate_cons_cons, List.intercalate_cons_cons,
        encode_append, encode_append, ih, List.map_cons]

theorem mapM_decode?_byteLines (bytes : Bytes) :
    (byteLines bytes).mapM decode? = (decode? bytes).map lines := by
  have lf : (0x0a : UInt8) = .ofNat '\n'.toNat := rfl
  cases whole : decode? bytes with
  | some text =>
    obtain rfl := decode?_eq_some_iff.mp whole
    rw [Option.map_some, mapM_decode?_eq_some_iff, byteLines, linesWith, lf,
      splitAll_encode (by decide), linesOfPieces_map_encode]
    rfl
  | none =>
    rw [Option.map_none, Option.eq_none_iff_forall_ne_some]
    intro texts decoded
    obtain ⟨parts, pieces⟩ := pieces_eq_of_lines (mapM_decode?_eq_some_iff.mp decoded)
    have joined : bytes = encode (['\n'].intercalate parts) := by
      rw [encode_intercalate, ← pieces, splitAll_eq_splitOn]
      exact (List.intercalate_splitOn _).symm
    rw [decode?_eq_some_iff.mpr joined] at whole
    cases whole

end InterfaceDraft.Text
