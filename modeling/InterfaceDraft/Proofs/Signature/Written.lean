import InterfaceDraft.Signature.Scan
import InterfaceDraft.Proofs.Signature.Normalised
import InterfaceDraft.Proofs.Text.Blank

set_option autoImplicit false

namespace InterfaceDraft.Signature

open Text

-- A parameter, a result, or a bare result type. It may hold commas, parentheses and braces. Line
-- breaks are not ruled out: the scan is given the lines.
structure Item where
  text : List Char
  filled : text ≠ []
  trimmed : trim text = text
  noRemark : startsWith lineComment text = false
  noComment : startsWith commentOpen text = false

inductive Result where
  | nothing
  | bare (type : Item)
  | group (items : List Item)

structure Declaration where
  receiver : List Char
  binder : Option (List Char)
  pointer : Bool
  method : List Char
  parameters : List Item
  result : Result
  -- The text of a body on the same line; `none` leaves the body open.
  body : Option (List Char)
  receiverPlain : ∀ c ∈ receiver, isBlank c = false ∧ c ≠ ')'
  receiverValue : receiver.head? ≠ some '*'
  binderPlain : ∀ name ∈ binder, ∀ c ∈ name, isBlank c = false ∧ c ≠ ')'
  exported : isExported method = true
  methodPlain : ∀ c ∈ method, isBlank c = false
  bodyFlat : ∀ inner ∈ body, bodyOpen ∉ inner

inductive Layout where
  | inline
  | exploded
  deriving DecidableEq, Repr

-- Lines being written: those that are ended, and the one that is still open.
structure Page where
  ended : List (List Char)
  line : List Char

def Page.add (page : Page) (text : List Char) : Page :=
  { page with line := page.line ++ text }

def inlineItems (items : List Item) : List Char :=
  [',', ' '].intercalate (items.map Item.text)

def Page.addGroup (page : Page) (items : List Item) : Layout → Page
  | .inline => page.add ('(' :: (inlineItems items ++ [')']))
  | .exploded =>
    { ended := page.ended ++ (page.line ++ ['(']) :: items.map (·.text ++ [','])
      line := [')'] }

namespace Declaration

def clause (d : Declaration) : List Char :=
  (d.binder.elim [] (· ++ [' '])) ++ ((if d.pointer then ['*'] else []) ++ d.receiver)

def opening (d : Declaration) : List Char :=
  keyword ++ (d.clause ++ ')' :: ' ' :: d.method)

def ending (d : Declaration) : List Char :=
  ' ' :: bodyOpen :: d.body.elim [] (· ++ [bodyClose])

def page (d : Declaration) (parameters results : Layout) : Page :=
  let start := (Page.mk [] d.opening).addGroup d.parameters parameters
  match d.result with
  | .nothing => start
  | .bare type => start.add (' ' :: type.text)
  | .group items => (start.add [' ']).addGroup items results

def lines (d : Declaration) (parameters results : Layout) : List (List Char) :=
  (d.page parameters results).ended ++ [(d.page parameters results).line ++ d.ending]

end Declaration

def groupText (items : List Item) : Layout → List Char
  | .inline => '(' :: (inlineItems items ++ [')'])
  | .exploded => '(' :: (items.flatMap (·.text ++ [',', ' ']) ++ [')'])

def Declaration.resultText (d : Declaration) (results : Layout) : List Char :=
  match d.result with
  | .nothing => []
  | .bare type => ' ' :: type.text
  | .group items => ' ' :: groupText items results

-- The declaration from the method name on, its lines joined.
def Declaration.text (d : Declaration) (parameters results : Layout) : List Char :=
  d.method ++ (groupText d.parameters parameters ++ d.resultText results)

theorem Declaration.receiverType_clause (d : Declaration) : receiverType d.clause = d.receiver := by
  have receiverPlain : ∀ c ∈ d.receiver, isBlank c = false := fun c member =>
    (d.receiverPlain c member).1
  have typePlain : ∀ c ∈ (if d.pointer then ['*'] else []) ++ d.receiver, isBlank c = false := by
    intro c member
    rcases List.mem_append.mp member with star | member
    · have plainStar : isBlank '*' = false := by decide
      split at star <;> simp_all
    · exact receiverPlain c member
  have stripped : (dropLead? ['*'] ((if d.pointer then ['*'] else []) ++ d.receiver)).getD
      ((if d.pointer then ['*'] else []) ++ d.receiver) = d.receiver := by
    cases d.pointer with
    | true => simp [dropLead?]
    | false =>
      have value := d.receiverValue
      cases shape : d.receiver with
      | nil => rfl
      | cons c rest =>
        have other : '*' ≠ c := by simpa [shape, eq_comm] using value
        simp [dropLead?, other]
  have noSpace : ∀ {s : List Char}, (∀ c ∈ s, isBlank c = false) → ' ' ∉ s := by
    intro s plain member
    have blank : isBlank ' ' = true := by decide
    simp [plain ' ' member] at blank
  unfold receiverType Declaration.clause
  -- The first space ends the binder, as the type has none.
  cases binder : d.binder with
  | none =>
    simp only [Option.elim_none, List.nil_append, splitFirst?_eq_none (noSpace typePlain),
      trim_of_no_blank typePlain, stripped]
  | some name =>
    have free : ' ' ∉ name := noSpace fun c member => (d.binderPlain name binder c member).1
    simp only [Option.elim_some, List.append_assoc, List.singleton_append, splitFirst?_append free,
      trim_of_no_blank typePlain, stripped]

theorem Declaration.clause_closed (d : Declaration) : ')' ∉ d.clause := by
  unfold Declaration.clause
  intro member
  rcases List.mem_append.mp member with inBinder | inType
  · cases binder : d.binder with
    | none => simp [binder] at inBinder
    | some name =>
      have inName : ')' ∈ name := by simpa [binder] using inBinder
      exact (d.binderPlain name binder ')' inName).2 rfl
  · rcases List.mem_append.mp inType with star | inReceiver
    · split at star <;> simp at star
    · exact (d.receiverPlain ')' inReceiver).2 rfl

theorem Declaration.declared?_opening (d : Declaration) (more : List Char) :
    declared? d.receiver (d.opening ++ more) = some (d.method ++ more) := by
  have keyed : dropLead? keyword (d.opening ++ more) =
      some (d.clause ++ ')' :: ' ' :: (d.method ++ more)) :=
    dropLead?_eq_some_iff.mpr (by simp [Declaration.opening])
  have started : trimStart (' ' :: (d.method ++ more)) = d.method ++ more ∧
      isExported (d.method ++ more) = true := by
    have exported := d.exported
    cases shape : d.method with
    | nil => simp [shape, isExported] at exported
    | cons c rest =>
      have plain := d.methodPlain c (by simp [shape])
      have blank : isBlank ' ' = true := by decide
      rw [shape] at exported
      exact ⟨by simp [trimStart, blank, plain], by simpa [isExported] using exported⟩
  simp [declared?, keyed, splitFirst?_append d.clause_closed, d.receiverType_clause, started.1,
    started.2]

theorem completed?_append_of_ne {c : Char} (notOpen : c ≠ bodyOpen) (notClose : c ≠ bodyClose)
    (front : List Char) : completed? (front ++ [c]) = none := by
  simp [completed?, dropTail?_append_of_ne notOpen, endsWith_append_of_ne notClose]

theorem completed?_ending (d : Declaration) (front : List Char) :
    completed? (front ++ d.ending) = some (front ++ [' ']) := by
  unfold completed? Declaration.ending
  cases body : d.body with
  | none =>
    have opened : dropTail? [bodyOpen] (front ++ [' ', bodyOpen]) = some (front ++ [' ']) :=
      dropTail?_eq_some_iff.mpr (by simp)
    simp [opened]
  | some inner =>
    have other : bodyClose ≠ bodyOpen := by decide
    have flat : bodyOpen ∉ inner ++ [bodyClose] := by
      simp [d.bodyFlat inner body, other.symm]
    have shape : front ++ ' ' :: bodyOpen :: (inner ++ [bodyClose]) =
        (front ++ ' ' :: bodyOpen :: inner) ++ [bodyClose] := by simp
    have shape' : front ++ ' ' :: bodyOpen :: (inner ++ [bodyClose]) =
        (front ++ [' ']) ++ bodyOpen :: (inner ++ [bodyClose]) := by simp
    have closed : endsWith [bodyClose] (front ++ ' ' :: bodyOpen :: (inner ++ [bodyClose])) =
        true := endsWith_iff.mpr ⟨_, shape⟩
    rw [Option.elim_some, closed, shape, dropTail?_append_of_ne other, ← shape, shape',
      splitLast?_append flat]
    rfl

theorem Item.plain_append_comma (item : Item) (more : List Char) :
    startsWith lineComment (item.text ++ ',' :: more) = false ∧
      startsWith commentOpen (item.text ++ ',' :: more) = false := by
  have noRemark := item.noRemark
  have noComment := item.noComment
  -- A mark has two characters, so it would have to lie in the item, or end with the comma.
  match shape : item.text with
  | [] => exact absurd shape item.filled
  | [c] => simp [startsWith, dropLead?, lineComment, commentOpen]
  | c :: d :: rest =>
    rw [shape] at noRemark noComment
    exact ⟨by simpa [startsWith, dropLead?, lineComment] using noRemark,
      by simpa [startsWith, dropLead?, commentOpen] using noComment⟩

theorem Item.exists_first (item : Item) : ∃ c rest, item.text = c :: rest ∧ isBlank c = false := by
  obtain ⟨c, rest, shape⟩ := List.exists_cons_of_ne_nil item.filled
  exact ⟨c, rest, shape, (trim_eq_self_iff.mp item.trimmed).1 c (by simp [shape])⟩

theorem Item.exists_last (item : Item) : ∃ c, item.text.getLast? = some c ∧ isBlank c = false := by
  have last := List.getLast?_eq_some_getLast item.filled
  exact ⟨_, last, (trim_eq_self_iff.mp item.trimmed).2 _ last⟩

theorem groupText_last (items : List Item) (layout : Layout) :
    (groupText items layout).getLast? = some ')' := by
  cases layout <;> rw [groupText, ← List.cons_append, List.getLast?_concat]

theorem Declaration.text_last (d : Declaration) (parameters results : Layout) :
    ∀ c ∈ (d.text parameters results).getLast?, isBlank c = false := by
  have close : isBlank ')' = false := by decide
  unfold Declaration.text Declaration.resultText
  cases d.result with
  | nothing => simp [groupText_last, close]
  | bare type =>
    obtain ⟨c, last, plain⟩ := type.exists_last
    simp [List.getLast?_append, List.getLast?_cons, last, plain]
  | group items => simp [List.getLast?_append, List.getLast?_cons, groupText_last, close]

theorem inlineItems_last (first : Item) (items : List Item) :
    ∃ c, (inlineItems (first :: items)).getLast? = some c ∧ isBlank c = false := by
  induction items generalizing first with
  | nil => simpa [inlineItems] using first.exists_last
  | cons second items ih =>
    obtain ⟨c, last, plain⟩ := ih second
    refine ⟨c, ?_, plain⟩
    rw [inlineItems, List.map_cons, List.map_cons, List.intercalate_cons_cons, List.getLast?_append]
    rw [inlineItems, List.map_cons] at last
    simp [last]

theorem flatMap_items (first : Item) (items : List Item) :
    (first :: items).flatMap (·.text ++ [',', ' ']) = inlineItems (first :: items) ++ [',', ' '] := by
  induction items generalizing first with
  | nil => simp [inlineItems]
  | cons second items ih =>
    rw [List.flatMap_cons, ih]
    simp [inlineItems, List.intercalate_cons_cons]

theorem normalise_groupText (before behind : List Char) (items : List Item) (layout : Layout) :
    normalise (before ++ (groupText items layout ++ behind)) =
      normalise (before ++ (groupText items .inline ++ behind)) := by
  cases layout with
  | inline => rfl
  | exploded =>
    cases items with
    | nil => rfl
    | cons first items =>
      obtain ⟨c, last, plain⟩ := inlineItems_last first items
      have filled : (before ++ '(' :: inlineItems (first :: items)).getLast? ≠ some ' ' := by
        intro space
        have same : c = ' ' := by
          simpa [List.getLast?_append, List.getLast?_cons, last] using space
        rw [same] at plain
        exact absurd plain (by decide)
      -- Only the ends differ: there the artifact stands in place of the parenthesis.
      have seam := normalise_seam filled behind
      rw [groupText, groupText, flatMap_items]
      simpa [artifact] using seam

theorem Declaration.normalise_text (d : Declaration) (parameters results : Layout) :
    normalise (d.text parameters results) = normalise (d.text .inline .inline) := by
  unfold Declaration.text
  rw [normalise_groupText]
  unfold Declaration.resultText
  cases d.result with
  | nothing => rfl
  | bare type => rfl
  | group items =>
    have regrouped := normalise_groupText (d.method ++ (groupText d.parameters .inline ++ [' '])) []
      items results
    simpa using regrouped

theorem trim_append_eq_self {front back : List Char} {c d : Char} (first : front.head? = some c)
    (last : back.getLast? = some d) (firstPlain : isBlank c = false) (lastPlain : isBlank d = false) :
    trim (front ++ back) = front ++ back := by
  rw [trim_eq_self_iff]
  simp [List.head?_append, List.getLast?_append, first, last, firstPlain, lastPlain]

structure Page.Tidy (page : Page) : Prop where
  ended : ∀ line ∈ page.ended, trim line = line
  begun : ∃ c, page.line.head? = some c ∧ isBlank c = false

theorem Page.Tidy.add {page : Page} (tidy : page.Tidy) (added : List Char) :
    (page.add added).Tidy := by
  obtain ⟨ended, c, first, plain⟩ := tidy
  exact ⟨ended, c, by simp [Page.add, first], plain⟩

theorem Item.trim_comma (item : Item) : trim (item.text ++ [',']) = item.text ++ [','] := by
  obtain ⟨c, rest, shape, plain⟩ := item.exists_first
  exact trim_append_eq_self (by rw [shape]; rfl) rfl plain (by decide)

theorem Page.Tidy.addGroup {page : Page} (tidy : page.Tidy) (items : List Item) (layout : Layout) :
    (page.addGroup items layout).Tidy := by
  cases layout with
  | inline => exact tidy.add _
  | exploded =>
    obtain ⟨ended, c, first, plain⟩ := tidy
    refine ⟨?_, ')', rfl, by decide⟩
    intro line member
    rcases List.mem_append.mp member with before | opened
    · exact ended line before
    · rcases List.mem_cons.mp opened with rfl | inItems
      · exact trim_append_eq_self first rfl plain (by decide)
      · obtain ⟨item, -, rfl⟩ := List.mem_map.mp inItems
        exact item.trim_comma

theorem Declaration.page_tidy (d : Declaration) (parameters results : Layout) :
    (d.page parameters results).Tidy := by
  have opening : (Page.mk [] d.opening).Tidy := ⟨by simp, 'f', rfl, by decide⟩
  have opened := opening.addGroup d.parameters parameters
  unfold Declaration.page
  cases d.result with
  | nothing => exact opened
  | bare type => exact opened.add _
  | group items => exact (opened.add _).addGroup items results

theorem Declaration.ending_last (d : Declaration) :
    ∃ c, d.ending.getLast? = some c ∧ isBlank c = false := by
  unfold Declaration.ending
  cases d.body with
  | none => exact ⟨bodyOpen, rfl, by decide⟩
  | some inner => exact ⟨bodyClose, by simp [List.getLast?_cons], by decide⟩

theorem Declaration.lines_trimmed (d : Declaration) (parameters results : Layout) :
    (d.lines parameters results).map trim = d.lines parameters results := by
  obtain ⟨ended, c, first, firstPlain⟩ := d.page_tidy parameters results
  obtain ⟨e, last, lastPlain⟩ := d.ending_last
  rw [Declaration.lines, List.map_append, List.map_singleton,
    trim_append_eq_self first last firstPlain lastPlain, List.map_congr_left ended, List.map_id']

end InterfaceDraft.Signature
