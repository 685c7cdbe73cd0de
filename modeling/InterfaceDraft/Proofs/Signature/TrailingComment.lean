import InterfaceDraft.Proofs.Signature.Edits
import InterfaceDraft.Proofs.Signature.Exported

set_option autoImplicit false

namespace InterfaceDraft.Signature

open Text

-- Whatever follows, the text begins neither with a blank nor with a comment mark.
structure BeginsPlain (text : List Char) : Prop where
  filled : ∃ c rest, text = c :: rest ∧ isBlank c = false
  noRemark : ∀ more, startsWith lineComment (text ++ more) = false

theorem BeginsPlain.append {text : List Char} (plain : BeginsPlain text) (added : List Char) :
    BeginsPlain (text ++ added) := by
  obtain ⟨⟨c, rest, rfl, filled⟩, noRemark⟩ := plain
  refine ⟨⟨c, rest ++ added, rfl, filled⟩, fun more => ?_⟩
  rw [List.append_assoc]
  exact noRemark _

-- Behind an item line comes the next item, or the end of the group.
theorem beginsPlain_items (items : List Item) :
    BeginsPlain (items.flatMap (·.text ++ [',', ' ']) ++ [')']) := by
  cases items with
  | nil => exact ⟨⟨')', [], rfl, by decide⟩, fun more => startsWith_of_head (by decide) _ _⟩
  | cons item items =>
    obtain ⟨c, rest, shape, filled⟩ := item.exists_first
    refine ⟨⟨c, _, by rw [List.flatMap_cons, shape]; rfl, filled⟩, fun more => ?_⟩
    have noRemark := (item.plain_append_comma
      (' ' :: (items.flatMap (·.text ++ [',', ' ']) ++ ')' :: more))).1
    simpa using noRemark

-- The lines `front` stand before the line of an item: they leave `text` pending, and the item stands
-- behind it in the joined text of the declaration.
structure IsBefore (receiver : List Char) (start : Scan) (whole : List Char) (front : List (List Char))
    (item : Item) (text behind : List Char) : Prop where
  joined : whole = text ++ (item.text ++ ',' :: ' ' :: behind)
  plain : BeginsPlain behind
  fed : ∀ raw : List (List Char), raw.map trim = front →
    start.feedAll receiver raw = { start with pending := some text }

def Page.Holds (page : Page) (receiver : List Char) (start : Scan) (whole : List Char) : Prop :=
  ∀ front line back, page.ended = front ++ (line ++ [',']) :: back →
    ∃ item text behind, item.text = line ∧ IsBefore receiver start whole front item text behind

theorem Page.Holds.add {page : Page} {receiver whole : List Char} {start : Scan}
    (holds : page.Holds receiver start whole) (added : List Char) :
    (page.add added).Holds receiver start (whole ++ added) := by
  intro front line back shape
  obtain ⟨item, text, behind, same, before⟩ := holds front line back shape
  refine ⟨item, text, behind ++ added, same, ?_, before.plain.append added, before.fed⟩
  rw [before.joined]
  simp

-- A line that is not the first of the later ones is among the earlier ones or among the rest.
theorem split_at_line {earlier later front back : List (List Char)} {first line : List Char}
    (other : first ≠ line) (split : earlier ++ first :: later = front ++ line :: back) :
    (∃ rest, earlier = front ++ line :: rest) ∨
      ∃ between, front = earlier ++ first :: between ∧ later = between ++ line :: back := by
  rcases List.append_eq_append_iff.mp split with ⟨between, rfl, rest⟩ | ⟨between, rfl, rest⟩
  · cases between with
    | nil => exact absurd (List.cons.inj rest).1 other
    | cons head between =>
      obtain ⟨rfl, behind⟩ := List.cons.inj rest
      exact .inr ⟨between, rfl, behind⟩
  · cases between with
    | nil => exact absurd (List.cons.inj rest).1.symm other
    | cons head between =>
      obtain ⟨rfl, behind⟩ := List.cons.inj rest
      exact .inl ⟨between, rfl⟩

theorem Page.Holds.addGroup {page : Page} {receiver whole : List Char} {start : Scan}
    (holds : page.Holds receiver start whole) (reads : page.Reads receiver start whole)
    (items : List Item) (layout : Layout) :
    (page.addGroup items layout).Holds receiver start (whole ++ groupText items layout) := by
  cases layout with
  | inline => exact holds.add _
  | exploded =>
    intro front line back shape
    have other : page.line ++ ['('] ≠ line ++ [','] := by
      intro same
      have last := congrArg List.getLast? same
      simp at last
    rcases split_at_line other shape with ⟨rest, ended⟩ | ⟨between, rfl, inItems⟩
    · exact (holds.add _) front line rest ended
    · obtain ⟨earlier, later, rfl, before, behind⟩ := List.map_eq_append_iff.mp inItems
      obtain ⟨item, later, rfl, same, -⟩ := List.map_eq_cons_iff.mp behind
      have text : item.text = line := List.append_cancel_right same
      refine ⟨item, whole ++ '(' :: earlier.flatMap (·.text ++ [',', ' ']),
        later.flatMap (·.text ++ [',', ' ']) ++ [')'], text, ?_, beginsPlain_items later, ?_⟩
      · simp [groupText]
      · intro raw fed
        rw [← before] at fed
        exact (reads.openGroup earlier fed).2

theorem Declaration.page_holds (d : Declaration) {start : Scan} (outside : start.inComment = false)
    (seeking : start.pending = none) (parameters results : Layout) :
    (d.page parameters results).Holds d.receiver start (d.text parameters results) := by
  have opening : (Page.mk [] d.opening).Holds d.receiver start d.method := by
    intro front line back shape
    simp at shape
  have read := d.opening_reads outside seeking
  have opened := opening.addGroup read d.parameters parameters
  have readOn := read.addGroup d.parameters parameters
  unfold Declaration.page Declaration.text Declaration.resultText
  rw [← List.append_assoc]
  cases d.result with
  | nothing => simpa using opened
  | bare type => exact opened.add _
  | group items => simpa using (opened.add [' ']).addGroup (readOn.add [' ']) items results

theorem Declaration.exists_isBefore (d : Declaration) {start : Scan} (outside : start.inComment = false)
    (seeking : start.pending = none) {parameters results : Layout} {front back : List (List Char)}
    {line : List Char} (shape : d.lines parameters results = front ++ (line ++ [',']) :: back) :
    ∃ item text behind, item.text = line ∧
      IsBefore d.receiver start (d.text parameters results) front item text behind := by
  have other : (d.page parameters results).line ++ d.ending ≠ line ++ [','] := by
    intro same
    have last := congrArg List.getLast? same
    revert last
    unfold Declaration.ending
    cases d.body with
    | none => simp [bodyOpen]
    | some inner => simp [bodyClose, List.getLast?_append, List.getLast?_cons]
  rcases split_at_line other shape with ⟨rest, ended⟩ | ⟨between, -, nothing⟩
  · exact d.page_holds outside seeking parameters results front line rest ended
  · simp at nothing

-- What stands behind an item that a comment follows, up to the mark of the comment.
structure Mark where
  blanks : List Char
  filled : blanks ≠ []
  blank : ∀ c ∈ blanks, isBlank c = true

namespace Mark

def text (mark : Mark) : List Char := ',' :: (mark.blanks ++ lineComment)

theorem not_mem (mark : Mark) {c : Char} (filled : isBlank c = false) (notComma : c ≠ ',')
    (notSlash : c ≠ '/') : c ∉ mark.text := by
  rw [text, List.mem_cons, List.mem_append]
  rintro (comma | inBlanks | inMark)
  · exact notComma comma
  · rw [mark.blank c inBlanks] at filled
    cases filled
  · simp [lineComment, notSlash] at inMark

theorem getLast?_append (mark : Mark) (line : List Char) : (line ++ mark.text).getLast? = some '/' := by
  simp [text, lineComment, List.getLast?_append, List.getLast?_cons]

theorem normalise_append (mark : Mark) (rest : List Char) :
    normalise (mark.text ++ rest) = mark.text ++ normalise rest := by
  have last : mark.text.getLast? = some '/' := mark.getLast?_append []
  have apart : Apart mark.text rest := by
    constructor
    · intro ends
      rw [endsWith_singleton.mp ends] at last
      cases last
    · intro ends
      obtain ⟨front, shape⟩ := endsWith_iff.mp ends
      simp [shape] at last
  have free : ¬ artifact <:+: mark.text := fun inside =>
    mark.not_mem (by decide) (by decide) (by decide) (inside.subset (by decide : ')' ∈ artifact))
  rw [Signature.normalise_append apart, normalise_of_free free]

-- Without the comment there is no such mark.
theorem startsWith_plain (mark : Mark) {behind : List Char} (plain : BeginsPlain behind) :
    startsWith mark.text (',' :: ' ' :: behind) = false := by
  rw [Bool.eq_false_iff, Ne, startsWith_iff]
  rintro ⟨rest, shape⟩
  obtain ⟨b, blanks, split⟩ := List.exists_cons_of_ne_nil mark.filled
  obtain ⟨c, more, rfl, filled⟩ := plain.filled
  rw [text, split] at shape
  obtain ⟨-, behind⟩ := List.cons.inj (List.cons.inj shape).2
  cases blanks with
  | nil =>
    have marked : startsWith lineComment (c :: more) = true := startsWith_iff.mpr ⟨rest, behind⟩
    rw [← List.append_nil (c :: more), plain.noRemark] at marked
    cases marked
  | cons next blanks =>
    have blank := mark.blank c (by simp [split, (List.cons.inj behind).1])
    rw [filled] at blank
    cases blank

theorem normalise_ne (mark : Mark) {behind : List Char} (plain : BeginsPlain behind) (front rest : List Char) :
    normalise (front ++ (mark.text ++ rest)) ≠ normalise (front ++ ',' :: ' ' :: behind) := by
  intro same
  have paren : ')' ∉ mark.text := mark.not_mem (by decide) (by decide) (by decide)
  have apart : Apart front (mark.text ++ rest) := apart_of_comma front _
  rw [Signature.normalise_append apart, Signature.normalise_append (apart_of_comma front _),
    mark.normalise_append] at same
  have begins : startsWith mark.text (normalise (',' :: ' ' :: behind)) = true :=
    startsWith_iff.mpr ⟨_, (List.append_cancel_left same).symm⟩
  have marked := startsWith_of_normalise paren begins
  rw [mark.startsWith_plain plain] at marked
  cases marked

end Mark

theorem exists_mark (item : Item) {raw : List Char} (isItem : trim raw = item.text ++ [','])
    (comment : List Char) :
    ∃ (mark : Mark) (rest : List Char),
      trim (raw ++ (" // ".toList ++ comment)) = item.text ++ (mark.text ++ rest) := by
  obtain ⟨lead, trail, shape, blankLead, blankTrail⟩ := exists_trim raw
  obtain ⟨c, more, begun, filled⟩ := item.exists_first
  have blank : ∀ c ∈ trail ++ [' '], isBlank c = true := by
    rw [List.forall_mem_append]
    exact ⟨blankTrail, List.all_eq_true.mp rfl⟩
  let mark : Mark := ⟨trail ++ [' '], by simp, blank⟩
  refine ⟨mark, trimEnd (' ' :: comment), ?_⟩
  have whole : raw ++ (" // ".toList ++ comment) =
      lead ++ (item.text ++ mark.text ++ ' ' :: comment) := by
    rw [shape, isItem]
    simp [mark, Mark.text, lineComment]
  have started : trimStart (item.text ++ mark.text ++ ' ' :: comment) =
      item.text ++ mark.text ++ ' ' :: comment := by
    rw [trimStart_eq_self_iff, begun]
    simpa using filled
  rw [whole, trim_blank_append blankLead, trim, started,
    trimEnd_append_of_last (mark.getLast?_append item.text) (by decide), List.append_assoc]

-- If the line completes the declaration, the body it opens stands in the comment or in the item.
theorem completed?_commented {line : List Char} {mark : Mark} {rest head : List Char}
    (completed : completed? (line ++ (mark.text ++ rest)) = some head) :
    (∃ kept, head = line ++ (mark.text ++ kept)) ∨ head.count bodyOpen < line.count bodyOpen := by
  obtain ⟨body, shape⟩ := eq_of_completed? completed
  have marked : line ++ mark.text <+: line ++ (mark.text ++ rest) := ⟨rest, List.append_assoc _ _ _⟩
  have braced : head ++ [bodyOpen] <+: line ++ (mark.text ++ rest) := by
    rw [shape]
    exact ⟨body, by simp⟩
  have none : mark.text.count bodyOpen = 0 :=
    List.count_eq_zero.mpr (mark.not_mem (by decide) (by decide) (by decide))
  rcases List.prefix_or_prefix_of_prefix marked braced with short | short
  · left
    rcases List.prefix_concat_iff.mp short with same | ⟨kept, rfl⟩
    · have last := congrArg List.getLast? same
      rw [mark.getLast?_append] at last
      simp [bodyOpen] at last
    · exact ⟨kept, List.append_assoc _ _ _⟩
  · right
    have fewer := short.sublist.count_le bodyOpen
    rw [List.count_append, List.count_append, none, List.count_singleton_self] at fewer
    omega

theorem finished_commented_ne {line text behind : List Char} {mark : Mark} {rest head : List Char}
    (plain : BeginsPlain behind) (completed : completed? (line ++ (mark.text ++ rest)) = some head) :
    finished text head ≠ normalise (text ++ (line ++ ',' :: ' ' :: behind)) := by
  rw [finished, ← List.append_assoc text line]
  rcases completed?_commented completed with ⟨kept, rfl⟩ | fewer
  · rw [← List.append_assoc line, trimEnd_append_of_last (mark.getLast?_append line) (by decide),
      List.append_assoc line, ← List.append_assoc text]
    exact mark.normalise_ne plain _ _
  · intro same
    -- A brace of the item is lost.
    have braces := congrArg (List.count bodyOpen) same
    have trimmed := (trimEnd_begins head).sublist.count_le bodyOpen
    rw [count_normalise (by decide), count_normalise (by decide)] at braces
    simp only [List.count_append] at braces
    omega

-- The next signature that is found, if any, is not the one that the declaration has without the comment.
theorem next_of_commented (mark : Mark) {behind : List Char} (plain : BeginsPlain behind)
    (receiver text line rest : List Char) (scan : Scan) (lines : List (List Char)) :
    ∃ later, ((scan.advance text (line ++ (mark.text ++ rest))).feedAll receiver lines).found =
        scan.found ++ later ∧
      ∀ signature ∈ later.head?, signature ≠ normalise (text ++ (line ++ ',' :: ' ' :: behind)) := by
  unfold Scan.advance
  cases completed : completed? (line ++ (mark.text ++ rest)) with
  | some head =>
    simp only [feedAll_found, List.append_assoc, List.singleton_append]
    refine ⟨_, rfl, ?_⟩
    simpa using finished_commented_ne plain completed
  | none =>
    simp only [feedAll_found]
    refine ⟨_, rfl, ?_⟩
    have joinedText : ∃ added, joined (line ++ (mark.text ++ rest)) = line ++ (mark.text ++ added) := by
      unfold joined
      split
      · exact ⟨rest, rfl⟩
      · exact ⟨rest ++ [' '], by simp⟩
    obtain ⟨added, shape⟩ := joinedText
    rw [shape, resumed, collected]
    split
    next => simp
    next =>
      simp only [List.head?_cons, Option.mem_def, Option.some.injEq, forall_eq', List.append_assoc]
      rw [← List.append_assoc text line, ← List.append_assoc text line]
      exact mark.normalise_ne plain _ _

theorem Declaration.found_of_commented (d : Declaration) {parameters results : Layout} {start : Scan}
    (outside : start.inComment = false) (seeking : start.pending = none) {front back : List (List Char)}
    {raw line : List Char} (laidOut : (front ++ raw :: back).map trim = d.lines parameters results)
    (isItem : trim raw = line ++ [',']) (comment : List Char) (after : List (List Char)) :
    (start.feedAll d.receiver (front ++ (raw ++ (" // ".toList ++ comment)) :: (back ++ after))).found ≠
      (start.feedAll d.receiver (front ++ raw :: (back ++ after))).found := by
  have original := d.feedAll_lines parameters results outside seeking laidOut
  rw [List.map_append, List.map_cons, isItem] at laidOut
  obtain ⟨item, text, behind, rfl, before⟩ := d.exists_isBefore outside seeking laidOut.symm
  obtain ⟨mark, rest, trimmed⟩ := exists_mark item isItem comment
  -- The line is no comment as a whole, so it is taken for the next fragment.
  have step : ({ start with pending := some text } : Scan).feed d.receiver (raw ++ (" // ".toList ++ comment)) =
      ({ start with pending := some text } : Scan).advance text (item.text ++ (mark.text ++ rest)) := by
    obtain ⟨noRemark, noComment⟩ := item.plain_append_comma (mark.blanks ++ lineComment ++ rest)
    have stillOutside : ({ start with pending := some text } : Scan).inComment = false := outside
    apply feed_of_taken stillOutside
    · rw [trimmed]
      exact noRemark
    · rw [trimmed]
      exact noComment
    · rw [trimmed]
      simp [Scan.taken?, item.filled]
  obtain ⟨later, found, other⟩ := next_of_commented mark before.plain d.receiver text item.text rest
    { start with pending := some text } (back ++ after)
  have split : front ++ raw :: (back ++ after) = (front ++ raw :: back) ++ after := by simp
  rw [split, Scan.feedAll_append, Scan.feedAll_append, before.fed front rfl, Scan.feedAll_cons, step, found,
    original, feedAll_found, List.append_assoc]
  intro same
  have next := List.append_cancel_left same
  refine other _ ?_ (congrArg normalise before.joined)
  simp [next]

-- Appending a comment to the line of an item always changes the signatures that are found, whatever the
-- comment says and whatever stands around the declaration.
theorem ofText_changed_by_trailing_comment (d : Declaration) (parameters results : Layout)
    (before front back after : List SourceLine) (line commented : SourceLine) (item comment : List Char)
    (outside : (Scan.start.feedAll d.receiver (before.map SourceLine.text)).inComment = false)
    (seeking : (Scan.start.feedAll d.receiver (before.map SourceLine.text)).pending = none)
    (laidOut : ((front ++ line :: back).map SourceLine.text).map trim = d.lines parameters results)
    (isItem : trim line.text = item ++ [','])
    (appended : commented.text = line.text ++ (" // ".toList ++ comment)) :
    ofText d.receiver (sourceOf (before ++ (front ++ commented :: (back ++ after)))) ≠
      ofText d.receiver (sourceOf (before ++ (front ++ line :: (back ++ after)))) := by
  rw [List.map_append, List.map_cons] at laidOut
  have changed := d.found_of_commented outside seeking laidOut isItem comment (after.map SourceLine.text)
  rw [ofText_sourceOf, ofText_sourceOf]
  simpa only [List.map_append, List.map_cons, appended, Scan.feedAll_append] using changed

-- The comment even looks like the end of the declaration.
theorem ofText_changed_by_trailing_comment_lookup :
    let opening : SourceLine := ⟨"func (s *Store) Lookup(".toList, by decide⟩
    let first : SourceLine := ⟨"\tkeys ...string,".toList, by decide⟩
    let second : SourceLine := ⟨"\tinto map[string]interface\x7b\x7d,".toList, by decide⟩
    let commented : SourceLine := ⟨"\tinto map[string]interface\x7b\x7d, // ) \x7b".toList, by decide⟩
    let ending : SourceLine := ⟨") (n int, err error) \x7b".toList, by decide⟩
    ofText lookup.receiver (sourceOf [opening, first, commented, ending]) ≠
      ofText lookup.receiver (sourceOf [opening, first, second, ending]) := by
  intro opening first second commented ending
  apply ofText_changed_by_trailing_comment lookup .exploded .inline [] [opening, first] [ending] [] second
    commented "into map[string]interface\x7b\x7d".toList ") \x7b".toList
  · rfl
  · rfl
  · decide
  · decide
  · decide

theorem trailing_comment_kept :
    ofText "T".toList "func (t *T) A(\n\ta string, // the name\n\tb int,\n) error \x7b\n".toList =
        ["A(a string, // the name b int) error".toList] ∧
      ofText "T".toList "func (t *T) A(\n\ta string,\n\tb int,\n) error \x7b\n".toList =
        ["A(a string, b int) error".toList] := by
  decide

end InterfaceDraft.Signature
