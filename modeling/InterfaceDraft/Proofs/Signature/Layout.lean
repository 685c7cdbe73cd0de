import InterfaceDraft.Proofs.Signature.Written

set_option autoImplicit false

namespace InterfaceDraft.Signature

open Text

-- The joined text and the fragment for it, if the scan takes the line for part of a declaration.
def Scan.taken? (receiver : List Char) (scan : Scan) (line : List Char) :
    Option (List Char × List Char) :=
  match scan.pending with
  | none => (declared? receiver line).map fun head => ([], head)
  | some text => if line.isEmpty then none else some (text, line)

theorem read_of_taken {receiver line text fragment : List Char} {scan : Scan}
    (taken : scan.taken? receiver line = some (text, fragment)) :
    scan.read receiver line = scan.advance text fragment := by
  unfold Scan.taken? at taken
  unfold Scan.read
  cases pending : scan.pending with
  | none =>
    simp only [pending, Option.map_eq_some_iff, Prod.mk.injEq] at taken
    obtain ⟨head, declared, rfl, rfl⟩ := taken
    simp only [declared]
  | some text =>
    cases line with
    | nil => simp [pending] at taken
    | cons c line =>
      simp only [pending, List.isEmpty_cons, Bool.false_eq_true, if_false, Option.some.injEq,
        Prod.mk.injEq] at taken
      obtain ⟨rfl, rfl⟩ := taken
      rfl

theorem feed_of_taken {receiver raw text fragment : List Char} {scan : Scan}
    (outside : scan.inComment = false) (noRemark : startsWith lineComment (trim raw) = false)
    (noComment : startsWith commentOpen (trim raw) = false)
    (taken : scan.taken? receiver (trim raw) = some (text, fragment)) :
    scan.feed receiver raw = scan.advance text fragment := by
  rw [← read_of_taken taken]
  simp [Scan.feed, outside, noRemark, noComment]

theorem advance_paren (scan : Scan) (text front : List Char) :
    scan.advance text (front ++ ['(']) =
      { scan with pending := some (text ++ (front ++ ['('])) } := by
  have ends : endsWith ['('] (front ++ ['(']) = true := endsWith_iff.mpr ⟨front, rfl⟩
  simp [Scan.advance, completed?_append_of_ne (c := '(') (by decide) (by decide), joined, ends]

theorem advance_comma (scan : Scan) (text front : List Char) :
    scan.advance text (front ++ [',']) =
      { scan with pending := some (text ++ (front ++ [',', ' '])) } := by
  have ends : endsWith ['('] (front ++ [',']) = false := endsWith_append_of_ne (by decide) front
  simp [Scan.advance, completed?_append_of_ne (c := ',') (by decide) (by decide), joined, ends]

theorem startsWith_of_head {c d : Char} (other : d ≠ c) (lead line : List Char) :
    startsWith (c :: lead) (d :: line) = false := by
  simp [startsWith, dropLead?, Ne.symm other]

-- However the open line goes on, the scan takes it to continue the joined text.
structure Scan.Continues (receiver : List Char) (scan : Scan) (line text : List Char) : Prop where
  outside : scan.inComment = false
  plain : ∃ c rest, line = c :: rest ∧ c ≠ '/'
  taken : ∃ before fragment, text = before ++ fragment ∧
    ∀ more, scan.taken? receiver (line ++ more) = some (before, fragment ++ more)

theorem Scan.Continues.append {receiver line text : List Char} {scan : Scan}
    (continues : scan.Continues receiver line text) (added : List Char) :
    scan.Continues receiver (line ++ added) (text ++ added) := by
  obtain ⟨outside, ⟨c, rest, rfl, plain⟩, before, fragment, rfl, taken⟩ := continues
  refine ⟨outside, ⟨c, rest ++ added, rfl, plain⟩, before, fragment ++ added, by simp, ?_⟩
  intro more
  rw [List.append_assoc, taken, List.append_assoc]

theorem Scan.Continues.feed_eq {receiver line text raw added : List Char} {scan : Scan}
    (continues : scan.Continues receiver line text) (shape : trim raw = line ++ added) :
    ∃ before fragment, text = before ++ fragment ∧
      scan.feed receiver raw = scan.advance before (fragment ++ added) := by
  obtain ⟨outside, ⟨c, rest, rfl, plain⟩, before, fragment, rfl, taken⟩ := continues
  refine ⟨before, fragment, rfl, feed_of_taken outside ?_ ?_ ?_⟩
  · rw [shape]
    exact startsWith_of_head plain _ _
  · rw [shape]
    exact startsWith_of_head plain _ _
  · rw [shape, taken]

theorem continues_close {scan : Scan} (outside : scan.inComment = false) (receiver text : List Char) :
    { scan with pending := some text }.Continues receiver [')'] (text ++ [')']) := by
  refine ⟨outside, ⟨')', [], rfl, by decide⟩, text, [')'], rfl, ?_⟩
  intro more
  rfl

theorem feed_item {receiver raw text : List Char} {scan : Scan} (outside : scan.inComment = false)
    (item : Item) (shape : trim raw = item.text ++ [',']) :
    { scan with pending := some text }.feed receiver raw =
      { scan with pending := some (text ++ (item.text ++ [',', ' '])) } := by
  obtain ⟨noRemark, noComment⟩ := item.plain_append_comma []
  rw [← shape] at noRemark noComment
  have taken : { scan with pending := some text }.taken? receiver (trim raw) =
      some (text, item.text ++ [',']) := by
    simp [Scan.taken?, shape]
  have outside' : { scan with pending := some text }.inComment = false := outside
  rw [feed_of_taken outside' noRemark noComment taken, advance_comma]

theorem feedAll_items {receiver : List Char} {scan : Scan} (outside : scan.inComment = false)
    {raw : List (List Char)} {items : List Item} (text : List Char)
    (shape : raw.map trim = items.map (·.text ++ [','])) :
    { scan with pending := some text }.feedAll receiver raw =
      { scan with pending := some (text ++ items.flatMap (·.text ++ [',', ' '])) } := by
  induction items generalizing raw text with
  | nil =>
    obtain rfl := List.map_eq_nil_iff.mp shape
    simp
  | cons item items ih =>
    obtain ⟨first, rest, rfl, head, tail⟩ := List.map_eq_cons_iff.mp shape
    rw [Scan.feedAll_cons, feed_item outside item head, ih _ tail]
    simp

-- The ended lines, with any blanks around them, lead the scan to the open line.
def Page.Reads (page : Page) (receiver : List Char) (start : Scan) (text : List Char) : Prop :=
  ∀ raw : List (List Char), raw.map trim = page.ended →
    ∃ pending, start.feedAll receiver raw = { start with pending := pending } ∧
      { start with pending := pending }.Continues receiver page.line text

theorem Page.Reads.add {page : Page} {receiver text : List Char} {start : Scan}
    (reads : page.Reads receiver start text) (added : List Char) :
    (page.add added).Reads receiver start (text ++ added) := by
  intro raw shape
  obtain ⟨pending, fed, continues⟩ := reads raw shape
  exact ⟨pending, fed, continues.append added⟩

-- The line that opens a group leaves its text pending, and each item line adds to it.
theorem Page.Reads.openGroup {page : Page} {receiver text : List Char} {start : Scan}
    (reads : page.Reads receiver start text) (items : List Item) {raw : List (List Char)}
    (shape : raw.map trim = page.ended ++ (page.line ++ ['(']) :: items.map (·.text ++ [','])) :
    start.inComment = false ∧ start.feedAll receiver raw =
      { start with pending := some (text ++ '(' :: items.flatMap (·.text ++ [',', ' '])) } := by
  obtain ⟨before, behind, rfl, ended, opened⟩ := List.map_eq_append_iff.mp shape
  obtain ⟨first, rest, rfl, head, tail⟩ := List.map_eq_cons_iff.mp opened
  obtain ⟨pending, fed, continues⟩ := reads before ended
  obtain ⟨joinedText, fragment, rfl, step⟩ := continues.feed_eq head
  have outside : start.inComment = false := continues.outside
  refine ⟨outside, ?_⟩
  rw [Scan.feedAll_append, fed, Scan.feedAll_cons, step, advance_paren, feedAll_items outside _ tail]
  simp

theorem Page.Reads.addGroup {page : Page} {receiver text : List Char} {start : Scan}
    (reads : page.Reads receiver start text) (items : List Item) (layout : Layout) :
    (page.addGroup items layout).Reads receiver start (text ++ groupText items layout) := by
  cases layout with
  | inline => exact reads.add _
  | exploded =>
    intro raw shape
    obtain ⟨outside, fed⟩ := reads.openGroup items shape
    refine ⟨_, fed, ?_⟩
    simpa [groupText, Page.addGroup] using continues_close outside receiver
      (text ++ '(' :: items.flatMap (·.text ++ [',', ' ']))

theorem Declaration.opening_reads (d : Declaration) {start : Scan}
    (outside : start.inComment = false) (seeking : start.pending = none) :
    (Page.mk [] d.opening).Reads d.receiver start d.method := by
  intro raw shape
  obtain rfl := List.map_eq_nil_iff.mp shape
  refine ⟨none, by simp [← seeking], outside, ⟨'f', _, rfl, by decide⟩, [], d.method, rfl, ?_⟩
  intro more
  simp [Scan.taken?, d.declared?_opening]

theorem Declaration.page_reads (d : Declaration) {start : Scan} (outside : start.inComment = false)
    (seeking : start.pending = none) (parameters results : Layout) :
    (d.page parameters results).Reads d.receiver start (d.text parameters results) := by
  have opened := (d.opening_reads outside seeking).addGroup d.parameters parameters
  unfold Declaration.page Declaration.text Declaration.resultText
  rw [← List.append_assoc]
  cases d.result with
  | nothing => simpa using opened
  | bare type => exact opened.add _
  | group items => simpa using (opened.add [' ']).addGroup items results

theorem Declaration.feedAll_lines (d : Declaration) (parameters results : Layout) {scan : Scan}
    (outside : scan.inComment = false) (seeking : scan.pending = none) {raw : List (List Char)}
    (shape : raw.map trim = d.lines parameters results) :
    scan.feedAll d.receiver raw =
      { scan with found := scan.found ++ [normalise (d.text parameters results)] } := by
  obtain ⟨before, behind, rfl, ended, opened⟩ := List.map_eq_append_iff.mp shape
  obtain ⟨final, rfl, last⟩ := List.map_eq_singleton_iff.mp opened
  obtain ⟨pending, fed, continues⟩ := d.page_reads outside seeking parameters results before ended
  obtain ⟨joinedText, fragment, text, step⟩ := continues.feed_eq last
  -- The space before the brace is all that trimming the last fragment takes away.
  have fragmentLast : ∀ c ∈ fragment.getLast?, isBlank c = false := by
    intro c isLast
    apply d.text_last parameters results
    rw [text, List.getLast?_append, Option.mem_def.mp isLast]
    rfl
  rw [Scan.feedAll_append, fed, Scan.feedAll_cons, Scan.feedAll_nil, step]
  simp only [Scan.advance, completed?_ending, finished, trimEnd_append_space fragmentLast, ← text,
    seeking]

theorem scan_independent_of_layout (d : Declaration) (parameters results : Layout) (scan : Scan)
    (outside : scan.inComment = false) (seeking : scan.pending = none) :
    scan.feedAll d.receiver (d.lines parameters results) =
        { scan with found := scan.found ++ [normalise (d.text .inline .inline)] } ∧
      (∀ raw : List (List Char), raw.map trim = d.lines parameters results →
        scan.feedAll d.receiver raw = scan.feedAll d.receiver (d.lines parameters results)) ∧
      (¬ artifact <:+: d.text .inline .inline →
        normalise (d.text .inline .inline) = d.text .inline .inline) := by
  have fed : ∀ raw : List (List Char), raw.map trim = d.lines parameters results →
      scan.feedAll d.receiver raw =
        { scan with found := scan.found ++ [normalise (d.text .inline .inline)] } := by
    intro raw indented
    rw [d.feedAll_lines parameters results outside seeking indented, d.normalise_text]
  have asWritten := fed _ (d.lines_trimmed parameters results)
  refine ⟨asWritten, ?_, normalise_of_free⟩
  intro raw indented
  rw [fed raw indented, asWritten]

def Item.ofString (text : String) (filled : text.toList ≠ [] := by decide)
    (trimmed : trim text.toList = text.toList := by decide)
    (noRemark : startsWith lineComment text.toList = false := by decide)
    (noComment : startsWith commentOpen text.toList = false := by decide) : Item :=
  ⟨text.toList, filled, trimmed, noRemark, noComment⟩

def lookup : Declaration where
  receiver := "Store".toList
  binder := some "s".toList
  pointer := true
  method := "Lookup".toList
  parameters := [.ofString "keys ...string", .ofString "into map[string]interface\x7b\x7d"]
  result := .group [.ofString "n int", .ofString "err error"]
  body := none
  receiverPlain := by simp [isBlank, inRanges, blankRanges]
  receiverValue := by decide
  binderPlain := by simp [isBlank, inRanges, blankRanges]
  exported := by decide
  methodPlain := by simp [isBlank, inRanges, blankRanges]
  bodyFlat := by decide

theorem scan_independent_of_layout_lookup :
    Scan.start.feedAll "Store".toList
        ["func (s *Store) Lookup(".toList, "\tkeys ...string,".toList,
          "\tinto map[string]interface\x7b\x7d,".toList, ") (".toList, "\tn int,".toList,
          "\terr error,".toList, ") \x7b".toList] =
      ⟨false, none,
        ["Lookup(keys ...string, into map[string]interface\x7b\x7d) (n int, err error)".toList]⟩ := by
  obtain ⟨asWritten, indented, -⟩ :=
    scan_independent_of_layout lookup .exploded .exploded Scan.start rfl rfl
  have signature : normalise (lookup.text .inline .inline) =
      "Lookup(keys ...string, into map[string]interface\x7b\x7d) (n int, err error)".toList := by
    decide
  rw [signature] at asWritten
  exact (indented _ (by decide)).trans asWritten

end InterfaceDraft.Signature
