import InterfaceDraft.Proofs.Signature.Edits

set_option autoImplicit false

namespace InterfaceDraft.Signature

open Text

structure OneLineComment where
  line : SourceLine
  inner : List Char
  behind : List Char
  shape : trim line.text = commentOpen ++ (inner ++ (commentClose ++ behind))

namespace OneLineComment

-- Nothing follows the comment, or what follows ends in a closing mark once more.
def AtEnd (comment : OneLineComment) : Prop :=
  comment.behind = [] ∨ endsWith commentClose comment.behind = true

instance (comment : OneLineComment) : Decidable comment.AtEnd :=
  inferInstanceAs (Decidable (_ ∨ _))

theorem opens (comment : OneLineComment) : startsWith commentOpen (trim comment.line.text) = true :=
  startsWith_iff.mpr ⟨_, comment.shape⟩

theorem length_le (comment : OneLineComment) : 4 ≤ (encode (trim comment.line.text)).length := by
  have longer := length_le_length_encode (trim comment.line.text)
  have marks : (trim comment.line.text).length = 2 + (comment.inner.length + (2 + comment.behind.length)) := by
    rw [comment.shape, List.length_append, List.length_append, List.length_append]
    rfl
  omega

-- A second mark shares no character with the first, whose slash is no star.
theorem endsWith_iff_atEnd (comment : OneLineComment) :
    endsWith commentClose (trim comment.line.text) = true ↔ comment.AtEnd := by
  rw [endsWith_iff, comment.shape, AtEnd, endsWith_iff]
  constructor
  · rintro ⟨head, split⟩
    rw [← List.append_assoc, ← List.append_assoc] at split
    rcases List.append_eq_append_iff.mp split with ⟨between, -, behind⟩ | ⟨between, front, mark⟩
    · exact .inr ⟨between, behind⟩
    · match between with
      | [] => exact .inr ⟨[], mark.symm⟩
      | [c] =>
        have last := congrArg List.getLast? front
        have star : c = '*' := (List.cons.inj mark).1.symm
        simp [commentClose, star] at last
      | c :: d :: between =>
        have rest : '*' = c ∧ '/' = d ∧ between = [] ∧ comment.behind = [] := by
          simpa [commentClose] using mark
        exact .inl rest.2.2.2
  · rintro (nothing | ⟨head, again⟩)
    · exact ⟨commentOpen ++ comment.inner, by simp [nothing]⟩
    · exact ⟨commentOpen ++ (comment.inner ++ (commentClose ++ head)), by simp [again]⟩

theorem feed_eq (comment : OneLineComment) {scan : Scan} (outside : scan.inComment = false)
    (receiver : List Char) :
    scan.feed receiver comment.line.text = { scan with inComment := !decide comment.AtEnd } := by
  have ends : endsWith commentClose (trim comment.line.text) = decide comment.AtEnd := by
    rw [Bool.eq_iff_iff, comment.endsWith_iff_atEnd, decide_eq_true_iff]
  rw [feed_commentOpen outside comment.opens, decide_eq_true comment.length_le, Bool.true_and, ends]

end OneLineComment

def behindRegion (lines : List SourceLine) : List SourceLine :=
  (lines.dropWhile fun line => !endsWith commentClose (trim line.text)).tail

theorem behindClose_eq (lines : List SourceLine) :
    behindClose ((lines.map SourceLine.text).map trim) = ((behindRegion lines).map SourceLine.text).map trim := by
  induction lines with
  | nil => rfl
  | cons line rest ih =>
    cases closes : endsWith commentClose (trim line.text) <;>
      simp_all [behindClose, behindRegion]

-- What is found from inside a region on is what is found behind it.
theorem found_inside {scan : Scan} (inside : scan.inComment = true) (receiver : List Char)
    (lines : List SourceLine) :
    (scan.feedAll receiver (lines.map SourceLine.text)).found =
      ({ scan with inComment := false }.feedAll receiver ((behindRegion lines).map SourceLine.text)).found := by
  rw [feedAll_found, feedAll_found, ← behindClose_eq, inside]
  rfl

-- Behind a comment at the end of its line all goes on as before. Behind any other the scan is in a region,
-- although the comment is closed.
theorem lines_hidden_behind_comment (receiver : List Char) (comment : OneLineComment)
    (before after : List SourceLine)
    (outside : (Scan.start.feedAll receiver (before.map SourceLine.text)).inComment = false) :
    ((Scan.start.feedAll receiver ((before ++ [comment.line]).map SourceLine.text)).inComment = false ↔
      comment.AtEnd) ∧
    ofText receiver (sourceOf (before ++ comment.line :: after)) =
      ofText receiver (sourceOf (before ++ if comment.AtEnd then after else behindRegion after)) := by
  have step := comment.feed_eq outside receiver
  constructor
  · simp [step]
  · simp only [ofText_sourceOf, List.map_append, List.map_cons, Scan.feedAll_append, Scan.feedAll_cons, step]
    have same : { Scan.start.feedAll receiver (before.map SourceLine.text) with inComment := false } =
        Scan.start.feedAll receiver (before.map SourceLine.text) := by rw [← outside]
    split
    next atEnd => simp [atEnd, same]
    next hidden =>
      rw [found_inside (by simp [hidden])]
      simp [same]

def parameterComment : OneLineComment where
  line := ⟨"\t/* b int, */ c int,".toList, by decide⟩
  inner := " b int, ".toList
  behind := " c int,".toList
  shape := by decide

-- The end of the declaration is hidden, and with it all up to the next line that ends in a closing mark.
theorem lines_hidden_behind_comment_parameters :
    let before : List SourceLine :=
      [⟨"func (t *T) Foo(".toList, by decide⟩, ⟨"\ta int,".toList, by decide⟩]
    let after : List SourceLine := [⟨") \x7b".toList, by decide⟩, ⟨"\x7d // */".toList, by decide⟩,
      ⟨"func (t *T) Bar() \x7b".toList, by decide⟩]
    (Scan.start.feedAll "T".toList ((before ++ [parameterComment.line]).map SourceLine.text)).inComment = true ∧
      ofText "T".toList (sourceOf (before ++ parameterComment.line :: after)) =
        ["Foo(a int, func (t *T) Bar()".toList] := by
  intro before after
  have outside : (Scan.start.feedAll "T".toList (before.map SourceLine.text)).inComment = false := by decide
  have behindComment : ¬ parameterComment.AtEnd := by decide
  obtain ⟨region, hidden⟩ := lines_hidden_behind_comment "T".toList parameterComment before after outside
  constructor
  · simpa [behindComment] using region
  · rw [hidden, if_neg behindComment]
    decide

-- The comment is closed, but the line goes on.
theorem closed_comment_opens_region :
    trim "/* c */ var x int".toList =
        commentOpen ++ (" c ".toList ++ (commentClose ++ " var x int".toList)) ∧
      ¬ commentOpen <:+: " var x int".toList ∧
      (Scan.start.feed "T".toList "/* c */ var x int".toList).inComment = true ∧
      ofText "T".toList "/* c */ var x int\nfunc (t *T) A() \x7b\n".toList = [] ∧
      ofText "T".toList "var x int\nfunc (t *T) A() \x7b\n".toList = ["A()".toList] := by
  have noFurther : ¬ commentOpen <:+: " var x int".toList := by
    intro inside
    have star : '*' ∈ " var x int".toList := inside.subset (by decide)
    revert star
    decide
  exact ⟨by decide, noFurther, by decide, by decide, by decide⟩

end InterfaceDraft.Signature
