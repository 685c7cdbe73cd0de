import InterfaceDraft.Extraction.Run
import InterfaceDraft.Proofs.Text.Lines
import InterfaceDraft.Proofs.Text.Search

set_option autoImplicit false

namespace InterfaceDraft.Signature

open Text

theorem piecesOfChunks_cons_flat {chunk : Bytes} (flat : 0x0a ∉ chunk) (carried : Bytes)
    (more : List Bytes) :
    piecesOfChunks carried (chunk :: more) = piecesOfChunks (carried ++ chunk) more := by
  rw [piecesOfChunks, splitAll_of_not_mem flat]

theorem piecesOfChunks_cons_fed {last : Bytes} (flat : 0x0a ∉ last) (carried front : Bytes)
    (more : List Bytes) :
    piecesOfChunks carried ((front ++ 0x0a :: last) :: more) =
      (splitAll 0x0a front).modifyHead (carried ++ ·) ++ piecesOfChunks last more := by
  obtain ⟨first, others, pieces⟩ := List.exists_cons_of_ne_nil (splitAll_ne_nil 0x0a front)
  have cut : splitAll 0x0a (front ++ 0x0a :: last) = first :: (others ++ [last]) := by
    rw [splitAll_append_cons, splitAll_of_not_mem flat, pieces, List.cons_append]
  rw [piecesOfChunks]
  split
  next none => simp [cut] at none
  next only single => simp [cut] at single
  next first' second others' many =>
    rw [cut, List.cons.injEq] at many
    obtain ⟨rfl, rest⟩ := many
    simp only [← rest, List.dropLast_concat, List.getLast_append_singleton, pieces,
      List.modifyHead_cons, List.cons_append]

-- The carried piece never holds a line feed, so the pieces are those of the bytes in one chunk.
theorem piecesOfChunks_eq {carried : Bytes} (free : 0x0a ∉ carried) (chunks : List Bytes) :
    piecesOfChunks carried chunks = splitAll 0x0a (carried ++ chunks.flatten) := by
  induction chunks generalizing carried with
  | nil => rw [piecesOfChunks, List.flatten_nil, List.append_nil, splitAll_of_not_mem free]
  | cons chunk more ih =>
    rw [List.flatten_cons]
    by_cases fed : (0x0a : UInt8) ∈ chunk
    · obtain ⟨front, last, rfl, flat⟩ := exists_last_occurrence fed
      rw [piecesOfChunks_cons_fed flat, ih flat, ← splitAll_append_of_not_mem free,
        ← splitAll_append_cons]
      simp only [List.append_assoc, List.cons_append]
    · have joined : (0x0a : UInt8) ∉ carried ++ chunk := by
        rw [List.mem_append]
        exact not_or.mpr ⟨free, fed⟩
      rw [piecesOfChunks_cons_flat fed, ih joined, List.append_assoc]

theorem piecesOfChunks_nil (chunks : List Bytes) :
    piecesOfChunks [] chunks = splitAll 0x0a chunks.flatten :=
  piecesOfChunks_eq List.not_mem_nil chunks

theorem ofReader_of_complete (receiver : List Char) (chunks : List Bytes) :
    ofReader receiver ⟨chunks, none⟩ =
      match decode? chunks.flatten with
      | some text => .ok (ofText receiver text)
      | none => .error .notUtf8 := by
  have decoded : decodedLines (splitAll 0x0a chunks.flatten) = (decode? chunks.flatten).map lines :=
    mapM_decode?_byteLines chunks.flatten
  simp only [ofReader, piecesOfChunks_nil, decoded]
  cases decode? chunks.flatten <;> rfl

theorem ofReader_ofBytes (receiver : List Char) (content : Bytes) :
    ofReader receiver (.ofBytes content) =
      match decode? content with
      | some text => .ok (ofText receiver text)
      | none => .error .notUtf8 := by
  have single := ofReader_of_complete receiver [content]
  rwa [List.flatten_singleton] at single

-- A line of `bytes` that a line feed ends. It begins at the start or behind a line feed.
def IsEndedLine (bytes line : Bytes) : Prop :=
  0x0a ∉ line ∧ ∃ before after, bytes = before ++ (line ++ 0x0a :: after) ∧
    (before = [] ∨ before.getLast? = some 0x0a)

theorem mem_dropLast_splitAll_of_isEndedLine {bytes line : Bytes} (ended : IsEndedLine bytes line) :
    line ∈ (splitAll 0x0a bytes).dropLast := by
  obtain ⟨free, before, after, rfl, start⟩ := ended
  have lastOne : line ∈ (splitAll 0x0a (line ++ 0x0a :: after)).dropLast := by
    rw [splitAll_append_cons, splitAll_of_not_mem free, List.singleton_append,
      List.dropLast_cons_of_ne_nil (splitAll_ne_nil _ _)]
    exact List.mem_cons_self
  rcases start with rfl | start
  · exact lastOne
  · obtain ⟨front, rfl⟩ := List.getLast?_eq_some_iff.mp start
    rw [List.append_assoc, List.singleton_append, splitAll_append_cons,
      List.dropLast_append_of_ne_nil (splitAll_ne_nil _ _)]
    exact List.mem_append_right _ lastOne

theorem isEndedLine_of_mem_dropLast {pieces : List Bytes} {line : Bytes}
    (free : ∀ piece ∈ pieces, 0x0a ∉ piece) (member : line ∈ pieces.dropLast) :
    IsEndedLine ([0x0a].intercalate pieces) line := by
  induction pieces with
  | nil => cases member
  | cons piece pieces ih =>
    cases pieces with
    | nil => cases member
    | cons second pieces =>
      rw [List.intercalate_cons_cons]
      rw [List.dropLast_cons_of_ne_nil (by simp), List.mem_cons] at member
      rcases member with rfl | later
      · exact ⟨free line List.mem_cons_self, [], _, List.append_assoc _ _ _, .inl rfl⟩
      · obtain ⟨plain, before, after, shape, start⟩ :=
          ih (fun piece member => free piece (List.mem_cons_of_mem _ member)) later
        refine ⟨plain, piece ++ 0x0a :: before, after, by simp [shape], .inr ?_⟩
        rcases start with rfl | start
        · simp
        · obtain ⟨front, rfl⟩ := List.getLast?_eq_some_iff.mp start
          rw [← List.cons_append, ← List.append_assoc, List.getLast?_concat]

theorem mem_dropLast_splitAll_iff {bytes line : Bytes} :
    line ∈ (splitAll 0x0a bytes).dropLast ↔ IsEndedLine bytes line := by
  constructor
  · intro member
    have ended := isEndedLine_of_mem_dropLast (fun _ => not_mem_of_mem_splitAll) member
    rwa [splitAll_eq_splitOn, List.intercalate_splitOn] at ended
  · exact mem_dropLast_splitAll_of_isEndedLine

theorem linesOfPieces_append_nil (ended : List Bytes) :
    linesOfPieces 0x0d (ended ++ [[]]) = ended.map (chompReturn 0x0d) := by
  induction ended with
  | nil => rfl
  | cons piece ended ih =>
    rw [List.cons_append, linesOfPieces, ih, List.map_cons]
    simp

theorem decode?_chompReturn_eq_none_iff (piece : Bytes) :
    decode? (chompReturn 0x0d piece) = none ↔ decode? piece = none := by
  have cr : (0x0d : UInt8) = .ofNat '\r'.toNat := rfl
  rw [← Option.not_isSome_iff_eq_none, ← Option.not_isSome_iff_eq_none, not_iff_not,
    Option.isSome_iff_exists, Option.isSome_iff_exists]
  simp only [decode?_eq_some_iff]
  constructor
  · rintro ⟨text, chomped⟩
    rcases eq_chompReturn_or 0x0d piece with bare | ended
    · exact ⟨text, bare.trans chomped⟩
    · refine ⟨text ++ ['\r'], ?_⟩
      rw [ended, chomped, encode_append]
      rfl
  · rintro ⟨text, rfl⟩
    exact ⟨chompReturn '\r' text, by rw [cr, chompReturn_encode (by decide)]⟩

theorem decodedLines_eq_none_iff (ended : List Bytes) :
    decodedLines (ended ++ [[]]) = none ↔ ∃ line ∈ ended, decode? line = none := by
  rw [decodedLines, linesOfPieces_append_nil]
  induction ended with
  | nil => simp
  | cons piece ended ih =>
    have first := decode?_chompReturn_eq_none_iff piece
    rw [List.map_cons, List.mapM_cons, List.exists_mem_cons_iff, ← first, ← ih]
    cases decode? (chompReturn 0x0d piece) with
    | none => simp
    | some text => cases (ended.map (chompReturn 0x0d)).mapM decode? <;> simp

theorem decodedLines_failing_iff (chunks : List Bytes) :
    decodedLines ((piecesOfChunks [] chunks).dropLast ++ [[]]) = none ↔
      ∃ line, IsEndedLine chunks.flatten line ∧ decode? line = none := by
  rw [decodedLines_eq_none_iff, piecesOfChunks_nil]
  simp only [mem_dropLast_splitAll_iff]

theorem ofReader_of_failing (receiver : List Char) (chunks : List Bytes) (message : String) :
    ofReader receiver ⟨chunks, some message⟩ =
      if decodedLines ((piecesOfChunks [] chunks).dropLast ++ [[]]) = none then .error .notUtf8
      else .error (.failed message) := by
  simp only [ofReader]
  cases decodedLines ((piecesOfChunks [] chunks).dropLast ++ [[]]) <;> rfl

theorem scanFile_isOk_iff (w : Files.Workspace) (receiver : List Char) (p : Files.Path) :
    (∃ signatures, Extraction.scanFile w receiver p = .ok signatures) ↔
      ∃ content text, w.read p = .ok content ∧ decode? content = some text := by
  unfold Extraction.scanFile
  cases w.read p with
  | error cause => simp
  | ok content =>
    simp only [ofReader_ofBytes]
    cases decoded : decode? content <;> simp [decoded]

theorem bytes_scanned_as_text (receiver : List Char) (chunks : List Bytes) :
    (∀ text, decode? chunks.flatten = some text →
      ofReader receiver ⟨chunks, none⟩ = .ok (ofText receiver text)) ∧
    (decode? chunks.flatten = none → ofReader receiver ⟨chunks, none⟩ = .error .notUtf8) ∧
    (∀ message, ofReader receiver ⟨chunks, some message⟩ = .error .notUtf8 ↔
      ∃ line, IsEndedLine chunks.flatten line ∧ decode? line = none) ∧
    (∀ message, ofReader receiver ⟨chunks, some message⟩ = .error (.failed message) ↔
      ¬ ∃ line, IsEndedLine chunks.flatten line ∧ decode? line = none) ∧
    ∀ w p, (∃ signatures, Extraction.scanFile w receiver p = .ok signatures) ↔
      ∃ content text, w.read p = .ok content ∧ decode? content = some text := by
  refine ⟨?_, ?_, ?_, ?_, fun w p => scanFile_isOk_iff w receiver p⟩
  · intro text valid
    rw [ofReader_of_complete, valid]
  · intro invalid
    rw [ofReader_of_complete, invalid]
  · intro message
    rw [ofReader_of_failing, ← decodedLines_failing_iff]
    split <;> simp_all
  · intro message
    rw [ofReader_of_failing, ← decodedLines_failing_iff]
    split <;> simp_all

end InterfaceDraft.Signature
