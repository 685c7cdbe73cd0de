import InterfaceDraft.Proofs.Signature.TwoPhase
import InterfaceDraft.Proofs.Text.Blank
import InterfaceDraft.Proofs.Text.Lines
import Mathlib.Logic.Relation

set_option autoImplicit false

namespace InterfaceDraft.Signature

open Text

-- A line as it stands between line feeds. If it is ended by `\r\n`, the return is part of its text.
structure SourceLine where
  text : List Char
  flat : '\n' ∉ text

def sourceOf (lines : List SourceLine) : List Char :=
  ['\n'].intercalate (lines.map SourceLine.text)

def IsClosedComment (line : List Char) : Prop :=
  startsWith commentOpen line = true ∧ endsWith commentClose line = true ∧ 4 ≤ (encode line).length

instance (line : List Char) : Decidable (IsClosedComment line) :=
  inferInstanceAs (Decidable (_ ∧ _ ∧ _))

-- Lines that are nothing but one comment. What stands inside a region does not matter.
inductive IsComment : List (List Char) → Prop
  | remark {raw : List Char} (marked : startsWith lineComment (trim raw) = true) : IsComment [raw]
  | closed {raw : List Char} (closed : IsClosedComment (trim raw)) : IsComment [raw]
  | region (first last : List Char) (inner : List (List Char))
      (opens : startsWith commentOpen (trim first) = true)
      (leftOpen : ¬ IsClosedComment (trim first))
      (within : ∀ raw ∈ inner, endsWith commentClose (trim raw) = false)
      (closes : endsWith commentClose (trim last) = true) : IsComment (first :: (inner ++ [last]))

inductive Edit (receiver : List Char) : List SourceLine → List SourceLine → Prop
  -- With `\r` behind a line, its line end becomes `\r\n`.
  | pad (before after : List SourceLine) (line padded : SourceLine) (lead trail : List Char)
      (blankLead : ∀ c ∈ lead, isBlank c = true) (blankTrail : ∀ c ∈ trail, isBlank c = true)
      (shape : padded.text = lead ++ (line.text ++ trail)) :
      Edit receiver (before ++ line :: after) (before ++ padded :: after)
  | blank (before after : List SourceLine) (line : SourceLine)
      (blank : ∀ c ∈ line.text, isBlank c = true) :
      Edit receiver (before ++ after) (before ++ line :: after)
  | comment (before block after : List SourceLine)
      (outside : (Scan.start.feedAll receiver (before.map SourceLine.text)).inComment = false)
      (comment : IsComment (block.map SourceLine.text)) :
      Edit receiver (before ++ after) (before ++ (block ++ after))

theorem feed_congr {a b : List Char} (same : trim a = trim b) (receiver : List Char) (scan : Scan) :
    scan.feed receiver a = scan.feed receiver b := by
  simp only [Scan.feed, same]

theorem read_nil (receiver : List Char) (scan : Scan) : scan.read receiver [] = scan := by
  unfold Scan.read
  cases scan.pending <;> rfl

theorem feed_blank {raw : List Char} (blank : trim raw = []) (receiver : List Char) (scan : Scan) :
    scan.feed receiver raw = scan := by
  have unclosed : endsWith commentClose [] = false := rfl
  have unmarked : startsWith lineComment [] = false := rfl
  have unopened : startsWith commentOpen [] = false := rfl
  obtain ⟨inComment, pending, found⟩ := scan
  cases inComment with
  | true => simp [Scan.feed, blank, unclosed]
  | false => simp [Scan.feed, blank, unmarked, unopened, read_nil]

theorem trim_chompReturn (piece : List Char) : trim (chompReturn '\r' piece) = trim piece := by
  have blankReturn : ∀ c ∈ ['\r'], isBlank c = true := List.all_eq_true.mp rfl
  rcases eq_chompReturn_or '\r' piece with bare | ended
  · rw [← bare]
  · conv_rhs => rw [ended]
    exact (trim_append_blank blankReturn _).symm

-- The lines of a text and the pieces between its line feeds come to the same: they differ by
-- carriage returns and an empty piece at the end.
theorem feedAll_linesOfPieces (receiver : List Char) (scan : Scan) (pieces : List (List Char)) :
    scan.feedAll receiver (linesOfPieces '\r' pieces) = scan.feedAll receiver pieces := by
  fun_induction linesOfPieces '\r' pieces generalizing scan with
  | case1 => rfl
  | case2 last empty =>
    rw [List.isEmpty_iff] at empty
    rw [empty, Scan.feedAll_cons, feed_blank trim_nil]
  | case3 last full => rfl
  | case4 piece more _ ih =>
    rw [Scan.feedAll_cons, Scan.feedAll_cons, ih, feed_congr (trim_chompReturn piece)]

theorem splitAll_sourceOf {lines : List SourceLine} (some : lines ≠ []) :
    splitAll '\n' (sourceOf lines) = lines.map SourceLine.text := by
  rw [splitAll_eq_splitOn, sourceOf]
  apply List.splitOn_intercalate
  · intro text member
    obtain ⟨line, -, rfl⟩ := List.mem_map.mp member
    exact line.flat
  · simpa using some

theorem ofText_sourceOf (receiver : List Char) (source : List SourceLine) :
    ofText receiver (sourceOf source) =
      (Scan.start.feedAll receiver (source.map SourceLine.text)).found := by
  by_cases empty : source = []
  · subst empty
    rfl
  · rw [ofText, ofLines, Text.lines, linesWith, feedAll_linesOfPieces, splitAll_sourceOf empty]

theorem startsWith_lineComment_of_commentOpen {line : List Char}
    (opens : startsWith commentOpen line = true) : startsWith lineComment line = false := by
  obtain ⟨rest, rfl⟩ := startsWith_iff.mp opens
  rfl

theorem feed_commentOpen {scan : Scan} {raw : List Char} (outside : scan.inComment = false)
    (opens : startsWith commentOpen (trim raw) = true) (receiver : List Char) :
    scan.feed receiver raw = { scan with
      inComment := !(4 ≤ (encode (trim raw)).length && endsWith commentClose (trim raw)) } := by
  have unmarked := startsWith_lineComment_of_commentOpen opens
  simp [Scan.feed, outside, unmarked, opens, closesItself_eq opens]

theorem feedAll_inside {scan : Scan} (inside : scan.inComment = true) {inner : List (List Char)}
    (within : ∀ raw ∈ inner, endsWith commentClose (trim raw) = false) (receiver : List Char) :
    scan.feedAll receiver inner = scan := by
  induction inner with
  | nil => rfl
  | cons raw inner ih =>
    have stays : scan.feed receiver raw = scan := by
      obtain ⟨inComment, pending, found⟩ := scan
      simp_all [Scan.feed]
    rw [Scan.feedAll_cons, stays]
    exact ih fun raw member => within raw (List.mem_cons_of_mem _ member)

theorem feedAll_comment {scan : Scan} (outside : scan.inComment = false) {block : List (List Char)}
    (comment : IsComment block) (receiver : List Char) : scan.feedAll receiver block = scan := by
  have same : { scan with inComment := false } = scan := by rw [← outside]
  cases comment with
  | remark marked => simp [Scan.feed, outside, marked]
  | closed closed =>
    obtain ⟨opens, closes, long⟩ := closed
    simp [feed_commentOpen outside opens, closes, long, same]
  | region first last inner opens leftOpen within closes =>
    have unclosed : (4 ≤ (encode (trim first)).length && endsWith commentClose (trim first)) = false := by
      rw [Bool.eq_false_iff]
      intro both
      simp only [Bool.and_eq_true, decide_eq_true_eq] at both
      exact leftOpen ⟨opens, both.2, both.1⟩
    have left : ({ scan with inComment := true } : Scan).feed receiver last = scan := by
      simp [Scan.feed, closes, same]
    rw [Scan.feedAll_cons, feed_commentOpen outside opens, unclosed, Scan.feedAll_append,
      feedAll_inside rfl within]
    simpa using left

theorem feedAll_edit {receiver : List Char} {source edited : List SourceLine}
    (edit : Edit receiver source edited) :
    Scan.start.feedAll receiver (edited.map SourceLine.text) =
      Scan.start.feedAll receiver (source.map SourceLine.text) := by
  cases edit with
  | pad before after line padded lead trail blankLead blankTrail shape =>
    have same : trim padded.text = trim line.text := by
      rw [shape, trim_blank_append blankLead, trim_append_blank blankTrail]
    simp only [List.map_append, List.map_cons, Scan.feedAll_append, Scan.feedAll_cons, feed_congr same]
  | blank before after line blank =>
    simp only [List.map_append, List.map_cons, Scan.feedAll_append, Scan.feedAll_cons,
      feed_blank (trim_of_blank blank)]
  | comment before block after outside comment =>
    simp only [List.map_append, Scan.feedAll_append, feedAll_comment outside comment]

theorem ofText_unchanged_by_edits {receiver : List Char} {source edited : List SourceLine}
    (edits : Relation.ReflTransGen (Edit receiver) source edited) :
    ofText receiver (sourceOf edited) = ofText receiver (sourceOf source) := by
  rw [ofText_sourceOf, ofText_sourceOf]
  induction edits with
  | refl => rfl
  | tail _ edit ih => rw [feedAll_edit edit, ih]

-- Line ends become `\r\n`, and a blank line, a region that opens with `/*/` and holds a whole
-- declaration, and a remark come between the parameters.
theorem ofText_unchanged_by_edits_parameters :
    let opening : SourceLine := ⟨"func (e *T) Foo(".toList, by decide⟩
    let item : SourceLine := ⟨"a string,".toList, by decide⟩
    let ending : SourceLine := ⟨") error \x7b".toList, by decide⟩
    let opening' : SourceLine := ⟨"func (e *T) Foo(\r".toList, by decide⟩
    let item' : SourceLine := ⟨"\ta string,\r".toList, by decide⟩
    let region : List SourceLine := [⟨"/*/".toList, by decide⟩,
      ⟨"func (e *T) Hidden() \x7b".toList, by decide⟩, ⟨"*/ ".toList, by decide⟩]
    let remark : SourceLine := ⟨"\t// b int,".toList, by decide⟩
    let empty : SourceLine := ⟨"\u3000".toList, by decide⟩
    let source := [opening, item, ending]
    let edited := [opening', item', empty] ++ (region ++ [remark, ending])
    Relation.ReflTransGen (Edit ['T']) source edited ∧
      ofText ['T'] (sourceOf edited) = ofText ['T'] (sourceOf source) ∧
      ofText ['T'] (sourceOf source) = ["Foo(a string) error".toList] := by
  intro opening item ending opening' item' region remark empty source edited
  have edits : Relation.ReflTransGen (Edit ['T']) source edited := by
    have blanks {text : List Char} (all : text.all isBlank = true) : ∀ c ∈ text, isBlank c = true :=
      List.all_eq_true.mp all
    refine .head (.pad [] [item, ending] opening opening' [] ['\r'] (blanks rfl) (blanks rfl) rfl) ?_
    refine .head (.pad [opening'] [ending] item item' ['\t'] ['\r'] (blanks rfl) (blanks rfl) rfl) ?_
    refine .head (.blank [opening', item'] [ending] empty (blanks rfl)) ?_
    refine .head (.comment [opening', item', empty] [remark] [ending] ?_ ?_) ?_
    · decide
    · exact .remark (by decide)
    refine .single (.comment [opening', item', empty] region [remark, ending] ?_ ?_)
    · decide
    · exact .region "/*/".toList "*/ ".toList ["func (e *T) Hidden() \x7b".toList]
        (by decide) (by decide) (by decide) (by decide)
  exact ⟨edits, ofText_unchanged_by_edits edits, by decide⟩

end InterfaceDraft.Signature
