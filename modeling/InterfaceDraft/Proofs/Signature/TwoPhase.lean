import InterfaceDraft.Signature.Scan
import InterfaceDraft.Proofs.Text.Search
import InterfaceDraft.Proofs.Text.Utf8

set_option autoImplicit false

namespace InterfaceDraft.Signature

open Text

-- What follows the first line that ends a comment region.
def behindClose : List (List Char) → List (List Char)
  | [] => []
  | line :: rest => if endsWith commentClose line then rest else behindClose rest

theorem behindClose_length_le (lines : List (List Char)) :
    (behindClose lines).length ≤ lines.length := by
  induction lines with
  | nil => simp [behindClose]
  | cons line rest ih =>
    rw [behindClose]
    split
    · simp
    · exact Nat.le_succ_of_le ih

-- First comments and blank lines are taken out, then the declarations are read from the lines that are
-- left.
def uncommented : List (List Char) → List (List Char)
  | [] => []
  | line :: rest =>
    if line.isEmpty || startsWith lineComment line then uncommented rest
    else if startsWith commentOpen line then
      if 4 ≤ (encode line).length && endsWith commentClose line then uncommented rest
      else uncommented (behindClose rest)
    else line :: uncommented rest
termination_by lines => lines.length
decreasing_by
  all_goals simp only [List.length_cons]
  all_goals have shorter := behindClose_length_le rest; omega

def isComplete (fragment : List Char) : Bool :=
  endsWith [bodyOpen] fragment || (endsWith [bodyClose] fragment && fragment.contains bodyOpen)

-- The text before the trailing opening brace, else before the last one.
def cut (fragment : List Char) : List Char :=
  if endsWith [bodyOpen] fragment then fragment.dropLast
  else (fragment.reverse.dropWhile (· != bodyOpen)).tail.reverse

def signaturesIn (receiver : List Char) : List (List Char) → List (List Char)
  | [] => []
  | line :: rest =>
    match declared? receiver line with
    | none => signaturesIn receiver rest
    | some head =>
      match _complete : (head :: rest).dropWhile (!isComplete ·) with
      | [] => []
      | last :: after =>
        normalise
          (((head :: rest).takeWhile (!isComplete ·)).flatMap joined ++ trimEnd (cut last)) ::
            signaturesIn receiver after
termination_by lines => lines.length
decreasing_by
  · simp
  · have shorter := (List.dropWhile_suffix (l := head :: rest) (!isComplete ·)).length_le
    rw [_complete] at shorter
    simp only [List.length_cons] at shorter ⊢
    omega

theorem cut_append {rest : List Char} (free : bodyOpen ∉ rest) (notLast : rest ≠ [])
    (front : List Char) : cut (front ++ bodyOpen :: rest) = front := by
  have last : endsWith [bodyOpen] (front ++ bodyOpen :: rest) = false := by
    rw [Bool.eq_false_iff, Ne, endsWith_singleton]
    intro last
    rw [← List.singleton_append, ← List.append_assoc, List.getLast?_append_of_ne_nil _ notLast] at last
    exact free (List.mem_of_getLast? last)
  have skipped : ∀ c ∈ rest.reverse, (c != bodyOpen) = true := by
    intro c member
    rw [bne_iff_ne]
    rintro rfl
    exact free (List.mem_reverse.mp member)
  rw [cut, last, if_neg (by simp), List.reverse_append, List.reverse_cons, List.append_assoc,
    List.dropWhile_append_of_pos skipped]
  simp

theorem completed?_eq (fragment : List Char) :
    completed? fragment = if isComplete fragment then some (cut fragment) else none := by
  unfold completed? isComplete
  cases opened : dropTail? [bodyOpen] fragment with
  | some head =>
    obtain rfl := dropTail?_eq_some_iff.mp opened
    have last : endsWith [bodyOpen] (head ++ [bodyOpen]) = true := endsWith_iff.mpr ⟨head, rfl⟩
    simp [last, cut]
  | none =>
    have last : endsWith [bodyOpen] fragment = false := by rw [endsWith, opened]; rfl
    rw [last, Bool.false_or]
    by_cases closed : endsWith [bodyClose] fragment
    · by_cases braced : bodyOpen ∈ fragment
      · obtain ⟨front, rest, rfl, free⟩ := exists_last_occurrence braced
        have notLast : rest ≠ [] := by
          rintro rfl
          have ends := endsWith_singleton.mp closed
          simp [bodyOpen, bodyClose] at ends
        rw [splitLast?_append free, cut_append free notLast]
        simp [closed]
      · rw [splitLast?_eq_none braced]
        simp [closed, braced]
    · simp [closed]

-- What the second phase reads once `text` is the joined text of an open declaration.
def collected (receiver text : List Char) (fragments : List (List Char)) : List (List Char) :=
  match fragments.dropWhile (!isComplete ·) with
  | [] => []
  | last :: after =>
    normalise (text ++ ((fragments.takeWhile (!isComplete ·)).flatMap joined ++ trimEnd (cut last))) ::
      signaturesIn receiver after

theorem signaturesIn_cons (receiver line : List Char) (rest : List (List Char)) :
    signaturesIn receiver (line :: rest) =
      match declared? receiver line with
      | none => signaturesIn receiver rest
      | some head => collected receiver [] (head :: rest) := by
  rw [signaturesIn]
  cases declared? receiver line with
  | none => rfl
  | some head =>
    simp only [collected, List.nil_append]
    split
    next incomplete => rw [incomplete]
    next complete => rw [complete]

def resumed (receiver : List Char) : Option (List Char) → List (List Char) → List (List Char)
  | none, lines => signaturesIn receiver lines
  | some text, lines => collected receiver text lines

theorem collected_cons_complete {fragment : List Char} (complete : isComplete fragment = true)
    (receiver text : List Char) (rest : List (List Char)) :
    collected receiver text (fragment :: rest) =
      finished text (cut fragment) :: signaturesIn receiver rest := by
  simp [collected, finished, complete]

theorem collected_cons_incomplete {fragment : List Char} (incomplete : isComplete fragment = false)
    (receiver text : List Char) (rest : List (List Char)) :
    collected receiver text (fragment :: rest) =
      collected receiver (text ++ joined fragment) rest := by
  simp [collected, incomplete]

theorem advance_resumed (receiver text fragment : List Char) (scan : Scan) (rest : List (List Char)) :
    (scan.advance text fragment).found ++ resumed receiver (scan.advance text fragment).pending rest =
      scan.found ++ collected receiver text (fragment :: rest) := by
  unfold Scan.advance
  rw [completed?_eq]
  cases complete : isComplete fragment with
  | true =>
    rw [collected_cons_complete complete]
    simp [resumed]
  | false =>
    rw [collected_cons_incomplete complete]
    rfl

theorem declared?_nil (receiver : List Char) : declared? receiver [] = none := rfl

theorem read_resumed (receiver line : List Char) (scan : Scan) (rest : List (List Char)) :
    (scan.read receiver line).found ++ resumed receiver (scan.read receiver line).pending rest =
      scan.found ++ resumed receiver scan.pending (if line.isEmpty then rest else line :: rest) := by
  unfold Scan.read
  -- An empty line declares nothing and continues nothing.
  cases pending : scan.pending with
  | none =>
    cases line with
    | nil => simp [declared?_nil, pending]
    | cons c line =>
      simp only [List.isEmpty_cons, Bool.false_eq_true, if_false, resumed, signaturesIn_cons]
      cases declared? receiver (c :: line) with
      | none => simp [pending]
      | some head => exact advance_resumed receiver [] head scan rest
  | some text =>
    cases line with
    | nil => simp [pending]
    | cons c line => exact advance_resumed receiver text (c :: line) scan rest

theorem read_inComment (receiver line : List Char) (scan : Scan) :
    (scan.read receiver line).inComment = scan.inComment := by
  unfold Scan.read Scan.advance
  repeat' split
  all_goals rfl

-- A comment line of three characters that ends its comment is `/*/`, which has three bytes.
theorem closesItself_eq {line : List Char} (comment : startsWith commentOpen line = true) :
    closesItself line = (4 ≤ (encode line).length && endsWith commentClose line) := by
  unfold closesItself
  obtain ⟨rest, rfl⟩ := startsWith_iff.mp comment
  have longer := length_le_length_encode (commentOpen ++ rest)
  match rest with
  | [] => decide
  | [c] =>
    by_cases closed : endsWith commentClose (commentOpen ++ [c])
    · obtain ⟨head, shape⟩ := endsWith_iff.mp closed
      have last := congrArg List.getLast? shape
      obtain rfl : c = '/' := by simpa [commentOpen, commentClose] using last
      decide
    · simp [closed]
  | c :: d :: rest =>
    have long : 4 ≤ (commentOpen ++ c :: d :: rest).length := by simp [commentOpen]
    have long' := Nat.le_trans long longer
    rw [decide_eq_true long, decide_eq_true long']

def remaining (inComment : Bool) (lines : List (List Char)) : List (List Char) :=
  if inComment then uncommented (behindClose lines) else uncommented lines

theorem feed_resumed (receiver raw : List Char) (scan : Scan) (rest : List (List Char)) :
    (scan.feed receiver raw).found ++
        resumed receiver (scan.feed receiver raw).pending
          (remaining (scan.feed receiver raw).inComment rest) =
      scan.found ++
        resumed receiver scan.pending (remaining scan.inComment (trim raw :: rest)) := by
  unfold Scan.feed
  by_cases inside : scan.inComment = true
  -- Inside a region only a closing mark counts, also on a line that looks like a declaration.
  · simp only [inside, if_true, remaining, behindClose]
    cases endsWith commentClose (trim raw) <;> simp
  · simp only [inside, if_false, remaining, Bool.false_eq_true]
    rw [uncommented]
    by_cases remark : startsWith lineComment (trim raw) = true
    · simp [remark, inside]
    · by_cases comment : startsWith commentOpen (trim raw) = true
      · have filled : (trim raw).isEmpty = false := by
          obtain ⟨more, shape⟩ := startsWith_iff.mp comment
          rw [shape]
          rfl
        simp only [remark, comment, filled, closesItself_eq comment, if_true, if_false, Bool.or_false,
          Bool.false_eq_true]
        cases (4 ≤ (encode (trim raw)).length && endsWith commentClose (trim raw) : Bool) <;> simp
      · simp only [remark, comment, if_false, read_inComment, inside, read_resumed, Bool.or_false,
          Bool.false_eq_true]

theorem feedAll_found (receiver : List Char) (scan : Scan) (lines : List (List Char)) :
    (scan.feedAll receiver lines).found =
      scan.found ++
        resumed receiver scan.pending (remaining scan.inComment (lines.map trim)) := by
  induction lines generalizing scan with
  | nil =>
    have nothing : remaining scan.inComment [] = [] := by
      simp [remaining, behindClose, uncommented]
    rw [List.map_nil, nothing, Scan.feedAll_nil]
    cases scan.pending <;> simp [resumed, signaturesIn, collected]
  | cons raw lines ih =>
    -- What is found in the end stays the same from line to line: one line only moves it from what
    -- is still to be read to what was found.
    rw [Scan.feedAll_cons, ih, List.map_cons, feed_resumed]

theorem ofText_eq_two_phase (receiver source : List Char) :
    ofText receiver source = signaturesIn receiver (uncommented ((lines source).map trim)) := by
  rw [ofText, ofLines, feedAll_found]
  rfl

end InterfaceDraft.Signature
