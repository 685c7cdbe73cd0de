import InterfaceDraft.Proofs.Toml.Strings
import InterfaceDraft.Toml.Reader
import Mathlib.Data.List.TakeWhile
import Mathlib.Tactic.IntervalCases

set_option autoImplicit false

namespace InterfaceDraft.Toml

open Number

theorem ne_of_class {isMember : Char → Bool} {c d : Char} (inside : isMember c = true)
    (outside : isMember d = false) : c ≠ d := by
  rintro rfl
  rw [inside] at outside
  cases outside

-- A text that is read as a value up to its line end, whatever follows.
structure WritesValue (text : List Char) (value : Value) : Prop where
  front : ∃ c more, text = c :: more ∧ isSpace c = false
  read (fuel depth : Nat) (rest : List Char) :
    readValue (fuel + 1) depth (text ++ '\n' :: rest) = some (value, '\n' :: rest)

theorem writeString_front (s : List Char) :
    ∃ more, writeString s = '\x22' :: more ∨ writeString s = '\x27' :: more := by
  unfold writeString tripled
  cases formOf s <;> simp

theorem writeString_writes (s : List Char) : WritesValue (writeString s) (.text s) := by
  have read (rest : List Char) : readString (writeString s ++ '\n' :: rest) = some (s, '\n' :: rest) :=
    readString_writeString s (by simp) (by simp)
  obtain ⟨more, double | single⟩ := writeString_front s
  · rw [double] at read ⊢
    refine ⟨⟨_, _, rfl, by decide⟩, fun fuel depth rest => ?_⟩
    have read := read rest
    rw [List.cons_append] at read ⊢
    rw [readValue, read]
    rfl
  · rw [single] at read ⊢
    refine ⟨⟨_, _, rfl, by decide⟩, fun fuel depth rest => ?_⟩
    have read := read rest
    rw [List.cons_append] at read ⊢
    rw [readValue, read]
    rfl

-- A token in front of a line end is read as a scalar.
theorem scalar_writes {token : List Char} {value : Value} (filled : token ≠ [])
    (tokens : ∀ d ∈ token, isTokenChar d = true) (undated : isDate token = false)
    (scalar : scalar? token = some value) : WritesValue token value := by
  obtain ⟨c, more, rfl⟩ := List.exists_cons_of_ne_nil filled
  have isToken : isTokenChar c = true := tokens c List.mem_cons_self
  refine ⟨⟨c, more, rfl, ?_⟩, fun fuel depth rest => ?_⟩
  · have notSpace := ne_of_class isToken (by decide : isTokenChar ' ' = false)
    have notTab := ne_of_class isToken (by decide : isTokenChar '\t' = false)
    simp [isSpace, notSpace, notTab]
  · have ended : isTokenChar '\n' = false := by decide
    have taken : (c :: more ++ '\n' :: rest).takeWhile isTokenChar = c :: more := by
      rw [List.takeWhile_append_of_pos tokens, List.takeWhile_cons_of_neg (by simp [ended]), List.append_nil]
    have dropped : (c :: more ++ '\n' :: rest).dropWhile isTokenChar = '\n' :: rest := by
      rw [List.dropWhile_append_of_pos tokens, List.dropWhile_cons_of_neg (by simp [ended])]
    have read : readScalar (c :: more ++ '\n' :: rest) = some (value, '\n' :: rest) := by
      rw [readScalar]
      simp only [taken, dropped, undated, scalar]
      rfl
    have notBracket := ne_of_class isToken (by decide : isTokenChar '[' = false)
    have notBrace := ne_of_class isToken (by decide : isTokenChar '\x7b' = false)
    have notDouble := ne_of_class isToken (by decide : isTokenChar '\x22' = false)
    have notSingle := ne_of_class isToken (by decide : isTokenChar '\x27' = false)
    rw [← read, List.cons_append, readValue]
    all_goals simp [notBracket, notBrace, notDouble, notSingle]

theorem flag_writes (flag : Bool) :
    WritesValue (if flag then "true".toList else "false".toList) (.flag flag) := by
  cases flag with
  | true => exact scalar_writes (by decide) (List.all_eq_true.mp (by decide)) (by decide) (by rfl)
  | false => exact scalar_writes (by decide) (List.all_eq_true.mp (by decide)) (by decide) (by rfl)

section Digits

variable {token : List Char} (digits : ∀ c ∈ token, c.isDigit = true)

include digits

theorem not_mem_of_digits {c : Char} (other : c.isDigit = false) : c ∉ token := by
  intro member
  exact absurd (digits c member) (by simp [other])

theorem isDate_of_digits : isDate token = false := by
  have noDash := not_mem_of_digits digits (by decide : '-'.isDigit = false)
  unfold isDate
  split <;> simp_all

theorem isTime_of_digits (offset : List Char → Bool) : isTime offset token = false := by
  have noColon := not_mem_of_digits digits (by decide : ':'.isDigit = false)
  unfold isTime
  split <;> simp_all

theorem isMoment_of_digits : isMoment token = false := by
  rw [isMoment, isDate_of_digits digits, isTime_of_digits digits]
  split
  next mark time shape =>
    have member : mark ∈ token := List.mem_of_mem_drop (by rw [shape]; exact List.mem_cons_self)
    have notUpper := ne_of_class (digits mark member) (by decide : 'T'.isDigit = false)
    have notLower := ne_of_class (digits mark member) (by decide : 't'.isDigit = false)
    simp [notUpper, notLower]
  next => rfl

theorem takeSign_of_digits : takeSign token = (false, token) := by
  unfold takeSign
  split
  next => exact absurd (digits '-' List.mem_cons_self) (by decide)
  next => exact absurd (digits '+' List.mem_cons_self) (by decide)
  next => rfl

theorem real?_of_digits : real? token = none := by
  have named : token ≠ "inf".toList ∧ token ≠ "nan".toList := by
    constructor
    · rintro rfl
      exact absurd (digits 'i' (by decide)) (by decide)
    · rintro rfl
      exact absurd (digits 'n' (by decide)) (by decide)
  have rest : token.dropWhile (fun c => c.isDigit || c == '_') = [] := by
    rw [List.dropWhile_eq_nil_iff]
    intro c member
    simp [digits c member]
  simp only [real?, takeSign_of_digits digits, beq_iff_eq, named.1, named.2, if_false, rest, List.isEmpty_nil, if_true]
  split <;> rfl

theorem ungroup_of_digits (filled : token ≠ []) : ungroup Char.isDigit token = some token := by
  induction token with
  | nil => exact absurd rfl filled
  | cons c more ih =>
    have isDigit := digits c List.mem_cons_self
    cases more with
    | nil => simp [ungroup, isDigit]
    | cons d more =>
      have rest := ih (fun e member => digits e (List.mem_cons_of_mem _ member)) (by simp)
      have notUnderscore := ne_of_class (digits d (by simp)) (by decide : '_'.isDigit = false)
      rw [ungroup]
      · simp [isDigit, rest]
      · simp
      · intro more same
        exact notUnderscore (List.cons.inj same).1

end Digits

theorem toDigits_front {n : Nat} (positive : 0 < n) : (Nat.toDigits 10 n).head? ≠ some '0' := by
  induction n using Nat.strongRecOn with
  | ind n ih =>
    by_cases small : n < 10
    · rw [Nat.toDigits_of_lt_base small]
      interval_cases n <;> decide
    · rw [Nat.toDigits_of_base_le (by decide) (by omega), List.head?_append_of_ne_nil _ Nat.toDigits_ne_nil]
      exact ih (n / 10) (by omega) (by omega)

theorem digitsValue_toDigits (n : Nat) : digitsValue (Nat.toDigits 10 n) = n := by
  have value := @Nat.ofDigitChars_ten_toDigits n
  rw [Nat.ofDigitChars_eq_foldl] at value
  rw [digitsValue]
  simpa [digitValue, Nat.mul_comm] using value

theorem word?_of_lt {n : Nat} (small : n < signedEnd) : word? n = some (n : Int) := by
  have nonneg : -(signedEnd : Int) ≤ n := by omega
  have below : (n : Int) < signedEnd := Int.ofNat_lt.mpr small
  rw [word?, if_pos]
  rw [decide_eq_true nonneg, decide_eq_true below]
  rfl

theorem integer?_toDigits {n : Nat} (small : n < signedEnd) : integer? (Nat.toDigits 10 n) = some (n : Int) := by
  have digits : ∀ c ∈ Nat.toDigits 10 n, c.isDigit = true := fun c member =>
    Nat.isDigit_of_mem_toDigits (by decide) (by decide) member
  have noLeadingZero : wholeDigits? (Nat.toDigits 10 n) = some (Nat.toDigits 10 n) := by
    unfold wholeDigits?
    split
    next second more shape =>
      rcases Nat.eq_zero_or_pos n with rfl | positive
      · rw [Nat.toDigits_zero] at shape
        cases shape
      · exact absurd (by rw [shape]; rfl) (toDigits_front positive)
    next => exact ungroup_of_digits digits Nat.toDigits_ne_nil
  unfold integer?
  split
  next shape => exact absurd (digits 'x' (by simp [shape])) (by decide)
  next shape => exact absurd (digits 'o' (by simp [shape])) (by decide)
  next shape => exact absurd (digits 'b' (by simp [shape])) (by decide)
  next =>
    rw [takeSign_of_digits digits]
    simp only
    rw [noLeadingZero, Option.bind_some, if_neg Bool.false_ne_true, digitsValue_toDigits, word?_of_lt small]

theorem toDigits_writes {n : Nat} (small : n < signedEnd) :
    WritesValue (Nat.toDigits 10 n) (.signed n) := by
  have digits : ∀ c ∈ Nat.toDigits 10 n, c.isDigit = true := fun c member =>
    Nat.isDigit_of_mem_toDigits (by decide) (by decide) member
  refine scalar_writes Nat.toDigits_ne_nil ?_ (isDate_of_digits digits) ?_
  · intro c member
    simp [isTokenChar, Char.isAlphanum, digits c member]
  · have notTrue : Nat.toDigits 10 n ≠ "true".toList := by
      intro same
      exact absurd (digits 't' (by simp [same])) (by decide)
    have notFalse : Nat.toDigits 10 n ≠ "false".toList := by
      intro same
      exact absurd (digits 'f' (by simp [same])) (by decide)
    simp only [scalar?, beq_iff_eq, notTrue, notFalse, if_false, isMoment_of_digits digits,
      real?_of_digits digits, integer?_toDigits small, Bool.false_eq_true, Option.map_some]

-- A key that needs no quotes.
def IsBare (key : String) : Prop := key.toList ≠ [] ∧ ∀ c ∈ key.toList, isBareKeyChar c = true

-- Characters are finite, but only those of the key are to be looked at.
instance (key : String) : Decidable (IsBare key) :=
  decidable_of_iff (key.toList ≠ [] ∧ key.toList.all isBareKeyChar = true) (by rw [IsBare, List.all_eq_true])

section Bare

variable {key : String} (bare : IsBare key)

include bare

theorem IsBare.front : ∃ c more, key.toList = c :: more ∧ isBareKeyChar c = true := by
  obtain ⟨c, more, shape⟩ := List.exists_cons_of_ne_nil bare.1
  exact ⟨c, more, shape, bare.2 c (by simp [shape])⟩

theorem IsBare.dropWhile_space (rest : List Char) :
    (key.toList ++ rest).dropWhile isSpace = key.toList ++ rest := by
  obtain ⟨c, more, shape, isBare⟩ := bare.front
  have notSpace := ne_of_class isBare (by decide : isBareKeyChar ' ' = false)
  have notTab := ne_of_class isBare (by decide : isBareKeyChar '\t' = false)
  simp [shape, isSpace, notSpace, notTab]

theorem readKeyPart_bare {d : Char} (ended : isBareKeyChar d = false) (rest : List Char) :
    readKeyPart (key.toList ++ d :: rest) = some (key, d :: rest) := by
  have taken : (key.toList ++ d :: rest).takeWhile isBareKeyChar = key.toList := by
    rw [List.takeWhile_append_of_pos bare.2, List.takeWhile_cons_of_neg (by simp [ended]), List.append_nil]
  have dropped : (key.toList ++ d :: rest).dropWhile isBareKeyChar = d :: rest := by
    rw [List.dropWhile_append_of_pos bare.2, List.dropWhile_cons_of_neg (by simp [ended])]
  obtain ⟨c, more, shape, isBare⟩ := bare.front
  have notDouble := ne_of_class isBare (by decide : isBareKeyChar '\x22' = false)
  have notSingle := ne_of_class isBare (by decide : isBareKeyChar '\x27' = false)
  unfold readKeyPart
  split
  next same => exact absurd (List.cons.inj (shape ▸ same)).1 notDouble
  next same => exact absurd (List.cons.inj (shape ▸ same)).1 notSingle
  next =>
    simp only [taken, dropped, List.isEmpty_iff, bare.1, if_false, String.ofList_toList]

-- A key on its own, up to a character that is no dot.
theorem readKey_bare {d e : Char} {rest more : List Char} (ended : isBareKeyChar d = false)
    (spaced : (d :: rest).dropWhile isSpace = e :: more) (undotted : e ≠ '.') :
    readKey (key.toList ++ d :: rest) = some (([], key), e :: more) := by
  have parts (fuel : Nat) :
      readKeyParts (fuel + 1) (key.toList ++ d :: rest) = some ([key], e :: more) := by
    rw [readKeyParts, bare.dropWhile_space, readKeyPart_bare bare ended]
    simp only [spaced]
    split
    next same => exact absurd (List.cons.inj same).1 undotted
    next => rfl
  rw [readKey, parts]
  rfl

end Bare

theorem readLineEnd_feed (rest : List Char) : readLineEnd ('\n' :: rest) = some rest := rfl

-- More fuel than is needed changes nothing.
theorem readStatements_mono {fuel more : Nat} {state final : State} {input : List Char}
    (read : readStatements fuel state input = some final) (enough : fuel ≤ more) :
    readStatements more state input = some final := by
  induction fuel generalizing more state input with
  | zero => cases read
  | succ fuel ih =>
    obtain ⟨more, rfl⟩ := Nat.exists_eq_add_of_le' (Nat.lt_of_lt_of_le (Nat.succ_pos fuel) enough)
    rw [readStatements.eq_def] at read ⊢
    simp only at read ⊢
    split at read
    next => exact read
    next => exact ih read (by omega)
    next => exact ih read (by omega)
    next =>
      split at read
      next => exact ih read (by omega)
      next => cases read
    next =>
      split at read
      next => exact ih read (by omega)
      next => cases read

-- The rest of a document is read, with what its length gives as fuel.
def Reads (state : State) (input : List Char) (final : State) : Prop :=
  readStatements (input.length + 1) state input = some final

theorem Reads.nil (state : State) : Reads state [] state := rfl

-- A line that is read in one step can be put in front.
theorem Reads.cons {state next final : State} {line rest : List Char} (filled : line ≠ [])
    (step : ∀ fuel, readStatements (fuel + 1) state (line ++ rest) = readStatements fuel next rest)
    (onward : Reads next rest final) : Reads state (line ++ rest) final := by
  have positive := List.length_pos_iff.mpr filled
  rw [Reads, step]
  refine readStatements_mono onward ?_
  rw [List.length_append]
  omega

theorem Reads.feed {state final : State} {rest : List Char} (onward : Reads state rest final) :
    Reads state ('\n' :: rest) final :=
  Reads.cons (List.cons_ne_nil '\n' []) (fun _ => rfl) onward

theorem readStatement_assign {key : String} (bare : IsBare key) {text : List Char} {value : Value}
    (writes : WritesValue text value) {state next : State} (added : state.add [] key value = some next)
    (rest : List Char) :
    readStatement state (key.toList ++ (" = ".toList ++ (text ++ '\n' :: rest))) = some (next, rest) := by
  obtain ⟨c, more, shape, isBare⟩ := bare.front
  obtain ⟨first, others, textShape, notSpace⟩ := writes.front
  have notBracket := ne_of_class isBare (by decide : isBareKeyChar '[' = false)
  have keyed : readKey (key.toList ++ (" = ".toList ++ (text ++ '\n' :: rest))) =
      some (([], key), '=' :: ' ' :: (text ++ '\n' :: rest)) :=
    readKey_bare bare (by decide) rfl (by decide)
  have spaced : (' ' :: (text ++ '\n' :: rest)).dropWhile isSpace = text ++ '\n' :: rest := by
    rw [List.dropWhile_cons_of_pos (by decide), textShape, List.cons_append,
      List.dropWhile_cons_of_neg (by simp [notSpace])]
  rw [readStatement.eq_def]
  split
  next same => exact absurd (List.cons.inj (shape ▸ same)).1 notBracket
  next same => exact absurd (List.cons.inj (shape ▸ same)).1 notBracket
  next =>
    rw [keyed]
    simp only [spaced, writes.read, added, readLineEnd_feed]

theorem Reads.assign {key : String} (bare : IsBare key) {text : List Char} {value : Value}
    (writes : WritesValue text value) {state next final : State}
    (added : state.add [] key value = some next) {rest : List Char} (onward : Reads next rest final) :
    Reads state (key.toList ++ (" = ".toList ++ (text ++ '\n' :: rest))) final := by
  obtain ⟨c, more, shape, isBare⟩ := bare.front
  have notFeed := ne_of_class isBare (by decide : isBareKeyChar '\n' = false)
  have notReturn := ne_of_class isBare (by decide : isBareKeyChar '\r' = false)
  have notRemark := ne_of_class isBare (by decide : isBareKeyChar '#' = false)
  have step (fuel : Nat) :
      readStatements (fuel + 1) state (key.toList ++ (" = ".toList ++ (text ++ '\n' :: rest))) =
        readStatements fuel next rest := by
    rw [readStatements, bare.dropWhile_space]
    split
    next same => simp [shape] at same
    next same => exact absurd (List.cons.inj (shape ▸ same)).1 notFeed
    next same => exact absurd (List.cons.inj (shape ▸ same)).1 notReturn
    next same => exact absurd (List.cons.inj (shape ▸ same)).1 notRemark
    next => rw [readStatement_assign bare writes added]
  have line : key.toList ++ (" = ".toList ++ (text ++ '\n' :: rest)) =
      (key.toList ++ (" = ".toList ++ (text ++ ['\n']))) ++ rest := by simp
  rw [line] at step ⊢
  exact Reads.cons (by simp [bare.1]) step onward

theorem Reads.header {key : String} (bare : IsBare key) {state next final : State}
    (opened : state.openTable [] key = some next) {rest : List Char} (onward : Reads next rest final) :
    Reads state ('[' :: (key.toList ++ ']' :: '\n' :: rest)) final := by
  obtain ⟨c, more, shape, isBare⟩ := bare.front
  have notBracket := ne_of_class isBare (by decide : isBareKeyChar '[' = false)
  have keyed : readKey (key.toList ++ ']' :: '\n' :: rest) = some (([], key), ']' :: '\n' :: rest) :=
    readKey_bare bare (by decide) rfl (by decide)
  have statement : readStatement state ('[' :: (key.toList ++ ']' :: '\n' :: rest)) = some (next, rest) := by
    rw [readStatement]
    · simp only [keyed, opened, readLineEnd_feed]
    · intro more same
      exact absurd (List.cons.inj (shape ▸ same)).1 notBracket
  have step (fuel : Nat) :
      readStatements (fuel + 1) state ('[' :: (key.toList ++ ']' :: '\n' :: rest)) =
        readStatements fuel next rest := by
    rw [readStatements, List.dropWhile_cons_of_neg (by decide)]
    split
    next same => cases same
    next same => cases same
    next same => cases same
    next same => cases same
    next => rw [statement]
  have line : '[' :: (key.toList ++ ']' :: '\n' :: rest) = '[' :: (key.toList ++ [']', '\n']) ++ rest := by simp
  rw [line] at step ⊢
  exact Reads.cons (List.cons_ne_nil _ _) step onward

theorem Reads.document {text : List Char} {final : State} (unmarked : text.head? ≠ some '\ufeff')
    (reads : Reads ⟨[], []⟩ text final) : read? text = some (entriesToValues final.entries) := by
  unfold read?
  split
  next => exact absurd rfl unmarked
  next =>
    rw [Reads] at reads
    simp only [reads, Option.map_some]

theorem State.add_plain {entries : Entries} {key : String} (free : entries.lookup key = none)
    (value : Value) :
    State.add ⟨entries, []⟩ [] key value = some ⟨entries ++ [(key, .value value)], []⟩ := by
  simp [State.add, changeAt, addDotted, addValue, free]

theorem State.openTable_new {entries : Entries} {key : String} (free : entries.lookup key = none)
    (current : List String) :
    State.openTable ⟨entries, current⟩ [] key = some ⟨entries ++ [(key, .table .named [])], [key]⟩ := by
  simp [State.openTable, changeAt, addTable, free]

-- The open table is the last one, so the entries before it stay.
theorem State.add_last {before inner : Entries} {table key : String}
    (fresh : before.lookup table = none) (free : inner.lookup key = none) (value : Value) :
    State.add ⟨before ++ [(table, .table .named inner)], [table]⟩ [] key value =
      some ⟨before ++ [(table, .table .named (inner ++ [(key, .value value)]))], [table]⟩ := by
  have found : (before ++ [(table, Item.table .named inner)]).lookup table = some (.table .named inner) := by
    simp [List.lookup_append, fresh]
  have replaced (item : Item) :
      replaceItem (before ++ [(table, .table .named inner)]) table item = before ++ [(table, item)] := by
    have kept : ∀ e ∈ before, (if e.1 == table then (table, item) else e) = e := by
      intro e member
      have different := List.lookup_eq_none_iff.mp fresh e member
      rw [bne_iff_ne] at different
      simp [Ne.symm different]
    rw [replaceItem, List.map_append, List.map_congr_left kept, List.map_id']
    simp
  simp [State.add, changeAt, found, addDotted, addValue, free, replaced]

end InterfaceDraft.Toml
