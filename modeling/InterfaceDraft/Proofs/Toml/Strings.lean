import InterfaceDraft.Toml.Text
import Mathlib.Data.Char
import Mathlib.Data.List.Basic

set_option autoImplicit false

namespace InterfaceDraft.Toml

structure Unescapes (read : List Char → Option (List Char × List Char)) : Prop where
  short {e c : Char} (known : shortEscape? e = some c) (rest : List Char) :
    read ('\\' :: e :: rest) = prepend c (read rest)
  code {a b d e c : Char} (valid : hexChar? [a, b, d, e] = some c) (rest : List Char) :
    read ('\\' :: 'u' :: a :: b :: d :: e :: rest) = prepend c (read rest)
  plain {c : Char} (isPlain : isPlain c = true) (notQuote : c ≠ '\x22') (notSlash : c ≠ '\\')
    (rest : List Char) : read (c :: rest) = prepend c (read rest)

theorem shortEscape?_cases {e c : Char} (known : shortEscape? e = some c) :
    e = 'b' ∨ e = 't' ∨ e = 'n' ∨ e = 'f' ∨ e = 'r' ∨ e = '\x22' ∨ e = '\\' := by
  unfold shortEscape? at known
  split at known <;> simp_all

theorem readBasic_unescapes : Unescapes readBasic where
  short := by
    intro e c known rest
    rcases shortEscape?_cases known with rfl | rfl | rfl | rfl | rfl | rfl | rfl <;>
      simp [readBasic, known]
  code := by
    intro a b d e c valid rest
    rw [readBasic, valid]
  plain := by
    intro c isPlain notQuote notSlash rest
    rw [readBasic.eq_def]
    split <;> simp_all

theorem readMultiBasic_unescapes : Unescapes (readMultiBasic false) where
  short := by
    intro e c known rest
    rcases shortEscape?_cases known with rfl | rfl | rfl | rfl | rfl | rfl | rfl <;>
      simp [readMultiBasic, known]
  code := by
    intro a b d e c valid rest
    rw [readMultiBasic, valid]
  plain := by
    intro c isPlain notQuote notSlash rest
    rw [readMultiBasic.eq_def]
    split <;> simp_all [Toml.isPlain]

-- Control characters are few, so what their escapes are read as is checked one by one.
theorem Unescapes.escapeControl {read : List Char → Option (List Char × List Char)}
    (undoes : Unescapes read) {c : Char} (control : c.toNat < 0x20 ∨ c.toNat = 0x7f)
    (rest : List Char) : read (escapeControl c ++ rest) = prepend c (read rest) := by
  have codes : ∀ n ∈ 0x7f :: List.range 0x20,
      hexChar? ['0', '0', hexDigit (n / 16), hexDigit (n % 16)] = some (.ofNat n) := by decide
  have code : hexChar? ['0', '0', hexDigit (c.toNat / 16), hexDigit (c.toNat % 16)] = some c := by
    have coded := codes c.toNat (by simpa [or_comm] using control)
    rwa [Char.ofNat_toNat] at coded
  unfold Toml.escapeControl
  split_ifs with backspace tab feed formFeed carriage
  · rw [eq_of_beq backspace]
    exact undoes.short rfl rest
  · rw [eq_of_beq tab]
    exact undoes.short rfl rest
  · rw [eq_of_beq feed]
    exact undoes.short rfl rest
  · rw [eq_of_beq formFeed]
    exact undoes.short rfl rest
  · rw [eq_of_beq carriage]
    exact undoes.short rfl rest
  · exact undoes.code code rest

theorem isPlain_of_code {c : Char} (visible : ¬ (c.toNat < 0x20 ∨ c.toNat = 0x7f)) :
    isPlain c = true := by
  simp only [isPlain, Bool.or_eq_true, Bool.and_eq_true, decide_eq_true_eq, bne_iff_ne]
  omega

-- One character other than a quote, and other than a line feed that may stay.
theorem Unescapes.escape_cons {read : List Char → Option (List Char × List Char)}
    (undoes : Unescapes read) {multi : Bool} {c : Char} (notQuote : c ≠ '\x22')
    (notLine : (multi && c == '\n') = false) (run : Nat) (s rest : List Char) :
    read (escape multi run (c :: s) ++ rest) = prepend c (read (escape multi 0 s ++ rest)) := by
  have noQuote : (c == '\x22') = false := beq_eq_false_iff_ne.mpr notQuote
  rw [escape, noQuote, notLine]
  simp only [Bool.false_eq_true, if_false]
  split_ifs with slash control
  · rw [eq_of_beq slash]
    exact undoes.short rfl _
  · rw [List.append_assoc]
    exact undoes.escapeControl (by simpa using control) _
  · refine undoes.plain (isPlain_of_code (by simpa using control)) notQuote ?_ _
    rintro rfl
    exact slash rfl

theorem readBasic_escape (s rest : List Char) (run : Nat) :
    readBasic (escape false run s ++ '\x22' :: rest) = some (s, rest) := by
  induction s generalizing run with
  | nil => rfl
  | cons c s ih =>
    by_cases quote : c = '\x22'
    · subst quote
      have escaped : escape false run ('\x22' :: s) = '\\' :: '\x22' :: escape false 0 s := rfl
      rw [escaped, List.cons_append, List.cons_append, readBasic_unescapes.short rfl, ih]
      rfl
    · rw [readBasic_unescapes.escape_cons quote rfl, ih]
      rfl

section MultiBasic

variable {rest : List Char} (closed : rest.head? ≠ some '\x22')

include closed

theorem readMultiBasic_close :
    readMultiBasic false ('\x22' :: '\x22' :: '\x22' :: rest) = some ([], rest) ∧
      readMultiBasic false ('\x22' :: '\x22' :: '\x22' :: '\x22' :: rest) = some (['\x22'], rest) ∧
      readMultiBasic false ('\x22' :: '\x22' :: '\x22' :: '\x22' :: '\x22' :: rest) =
        some (['\x22', '\x22'], rest) := by
  cases rest with
  | nil => exact ⟨rfl, rfl, rfl⟩
  | cons c rest =>
    have other : c ≠ '\x22' := by simpa using closed
    simp [readMultiBasic, other]

end MultiBasic

theorem readMultiBasic_quote {rest : List Char} (single : ∀ more, rest ≠ '\x22' :: '\x22' :: more) :
    readMultiBasic false ('\x22' :: rest) = prepend '\x22' (readMultiBasic false rest) := by
  have plain : isPlain '\x22' = true := by decide
  rw [readMultiBasic]
  · simp [plain]
  · exact fun more _ => single _
  · exact fun more _ => single _
  · exact fun more _ => single _
  · simp
  · simp
  · simp
  · simp

theorem readMultiBasic_line (rest : List Char) :
    readMultiBasic false ('\n' :: rest) = prepend '\n' (readMultiBasic false rest) := by
  simp [readMultiBasic]

-- Only a quote at the front, between three quotes and with fewer than two before it, is written as a
-- quote.
theorem escape_front {multi : Bool} {run : Nat} {c : Char}
    (broken : c ≠ '\x22' ∨ multi = false ∨ 2 ≤ run) (s : List Char) :
    ∃ d front, escape multi run (c :: s) = d :: front ∧ d ≠ '\x22' := by
  unfold escape escapeControl
  split_ifs <;> simp_all
  all_goals omega

theorem escape_single {run : Nat} {s : List Char} (filled : s ≠ []) (short : ¬ (run = 0 ∧ s = ['\x22']))
    (rest more : List Char) : escape true (run + 1) s ++ rest ≠ '\x22' :: '\x22' :: more := by
  cases s with
  | nil => exact absurd rfl filled
  | cons c s =>
    by_cases broken : c ≠ '\x22' ∨ true = false ∨ 2 ≤ run + 1
    · obtain ⟨d, front, shape, other⟩ := escape_front broken s
      simp [shape, other]
    · obtain ⟨rfl, first⟩ : c = '\x22' ∧ run = 0 := by
        constructor
        · by_contra other
          exact broken (.inl other)
        · omega
      subst first
      have kept : escape true 1 ('\x22' :: s) = '\x22' :: escape true 2 s := rfl
      cases s with
      | nil => exact absurd ⟨rfl, rfl⟩ short
      | cons d s =>
        have third : d ≠ '\x22' ∨ true = false ∨ 2 ≤ 2 := .inr (.inr (Nat.le_refl 2))
        obtain ⟨e, front, shape, other⟩ := escape_front third s
        rw [Nat.zero_add, kept, shape]
        simp [other]

theorem readMultiBasic_escape {rest : List Char} (closed : rest.head? ≠ some '\x22') (s : List Char)
    (run : Nat) :
    readMultiBasic false (escape true run s ++ '\x22' :: '\x22' :: '\x22' :: rest) = some (s, rest) := by
  obtain ⟨three, four, five⟩ := readMultiBasic_close closed
  induction s generalizing run with
  | nil => exact three
  | cons c s ih =>
    by_cases quote : c = '\x22'
    · subst quote
      by_cases early : run < 2
      · have kept : escape true run ('\x22' :: s) = '\x22' :: escape true (run + 1) s := by
          simp [escape, early]
        rw [kept, List.cons_append]
        by_cases last : s = []
        · subst last
          exact four
        by_cases lastTwo : run = 0 ∧ s = ['\x22']
        · obtain ⟨rfl, rfl⟩ := lastTwo
          exact five
        rw [readMultiBasic_quote (escape_single last lastTwo _), ih]
        rfl
      · have escaped : escape true run ('\x22' :: s) = '\\' :: '\x22' :: escape true 0 s := by
          simp [escape, early]
        rw [escaped, List.cons_append, List.cons_append, readMultiBasic_unescapes.short rfl, ih]
        rfl
    by_cases line : c = '\n'
    · subst line
      have kept : escape true run ('\n' :: s) = '\n' :: escape true 0 s := rfl
      rw [kept, List.cons_append, readMultiBasic_line, ih]
      rfl
    · rw [readMultiBasic_unescapes.escape_cons quote (by simpa using line), ih]
      rfl

theorem readLiteral_append {s : List Char} (plain : ∀ c ∈ s, isPlain c = true ∧ c ≠ '\x27')
    (rest : List Char) : readLiteral (s ++ '\x27' :: rest) = some (s, rest) := by
  induction s with
  | nil => rfl
  | cons c s ih =>
    obtain ⟨visible, other⟩ := plain c List.mem_cons_self
    have rest := ih fun d member => plain d (List.mem_cons_of_mem _ member)
    rw [List.cons_append, readLiteral, if_pos visible, rest]
    · rfl
    · exact other

theorem readMultiLiteral_close {rest : List Char} (closed : rest.head? ≠ some '\x27') :
    readMultiLiteral ('\x27' :: '\x27' :: '\x27' :: rest) = some ([], rest) ∧
      readMultiLiteral ('\x27' :: '\x27' :: '\x27' :: '\x27' :: rest) = some (['\x27'], rest) ∧
      readMultiLiteral ('\x27' :: '\x27' :: '\x27' :: '\x27' :: '\x27' :: rest) =
        some (['\x27', '\x27'], rest) := by
  cases rest with
  | nil => exact ⟨rfl, rfl, rfl⟩
  | cons c rest =>
    have other : c ≠ '\x27' := by simpa using closed
    simp [readMultiLiteral, other]

theorem readMultiLiteral_cons {c : Char} {rest : List Char} (visible : c = '\n' ∨ isPlain c = true)
    (single : c = '\x27' → ∀ more, rest ≠ '\x27' :: '\x27' :: more) :
    readMultiLiteral (c :: rest) = prepend c (readMultiLiteral rest) := by
  have notReturn : c ≠ '\r' := by
    rintro rfl
    revert visible
    decide
  rw [readMultiLiteral]
  · simp [visible]
  · exact fun more quote => single quote _
  · exact fun more quote => single quote _
  · exact fun more quote => single quote _
  · exact fun more carriage => absurd carriage notReturn

theorem le_longestRun (q : Char) (run : Nat) (s : List Char) : run ≤ longestRun q run s := by
  induction s generalizing run with
  | nil => exact Nat.le_refl run
  | cons c s ih =>
    rw [longestRun]
    split
    · exact Nat.le_trans (Nat.le_succ run) (ih (run + 1))
    · exact Nat.le_max_left _ _

theorem longestRun_tail {q c : Char} {run bound : Nat} {s : List Char}
    (short : longestRun q run (c :: s) ≤ bound) : longestRun q (if c = q then run + 1 else 0) s ≤ bound := by
  rw [longestRun] at short
  by_cases same : c = q
  · simpa [same] using short
  · simp only [beq_iff_eq, same, if_false] at short ⊢
    exact (Nat.max_le.mp short).2

-- Three quotes in a row would make a run of three.
theorem append_single {run : Nat} {s : List Char} (short : longestRun '\x27' (run + 1) s ≤ 2)
    (filled : s ≠ []) (notLast : s ≠ ['\x27']) (rest more : List Char) :
    s ++ rest ≠ '\x27' :: '\x27' :: more := by
  match s with
  | [] => exact absurd rfl filled
  | [c] =>
    have other : c ≠ '\x27' := by simpa using notLast
    simp [other]
  | c :: d :: s =>
    intro quotes
    obtain ⟨rfl, rfl, -⟩ : c = '\x27' ∧ d = '\x27' ∧ s ++ rest = more := by simpa using quotes
    have long := le_longestRun '\x27' (run + 1 + 1 + 1) s
    have bounded : longestRun '\x27' (run + 1 + 1 + 1) s ≤ 2 := longestRun_tail (longestRun_tail short)
    omega

theorem readMultiLiteral_append {rest : List Char} (closed : rest.head? ≠ some '\x27') {s : List Char}
    (visible : ∀ c ∈ s, c = '\n' ∨ isPlain c = true) {run : Nat} (short : longestRun '\x27' run s ≤ 2) :
    readMultiLiteral (s ++ '\x27' :: '\x27' :: '\x27' :: rest) = some (s, rest) := by
  obtain ⟨three, four, five⟩ := readMultiLiteral_close closed
  induction s generalizing run with
  | nil => exact three
  | cons c s ih =>
    have rest := ih (fun d member => visible d (List.mem_cons_of_mem _ member)) (longestRun_tail short)
    have shown := visible c List.mem_cons_self
    by_cases quote : c = '\x27'
    · subst quote
      by_cases last : s = []
      · subst last
        exact four
      by_cases lastTwo : s = ['\x27']
      · subst lastTwo
        exact five
      rw [List.cons_append, readMultiLiteral_cons shown, rest]
      · rfl
      · intro _
        exact append_single (longestRun_tail short) last lastTwo _
    · rw [List.cons_append, readMultiLiteral_cons shown, rest]
      · rfl
      · exact fun same => absurd same quote

-- What the choice of a form without escapes rests on.
theorem formOf_cases (s : List Char) :
    formOf s = .basic ∨ formOf s = .multiBasic ∨
      (formOf s = .literal ∧ s ≠ [] ∧ s.any needsCode = false ∧ s.contains '\n' = false ∧
        longestRun '\x27' 0 s = 0) ∨
      formOf s = .multiLiteral ∧ s.any needsCode = false ∧ longestRun '\x27' 0 s ≤ 2 := by
  by_cases empty : s = []
  · subst empty
    exact .inl rfl
  · unfold formOf
    simp only
    split_ifs with plain literal fewDoubles fewSingles
    · exact .inl rfl
    · simp only [Bool.and_eq_true, Bool.not_eq_true', beq_iff_eq] at literal
      exact .inr (.inr (.inl ⟨rfl, empty, literal.1.1, literal.2, literal.1.2⟩))
    · exact .inr (.inl rfl)
    · simp only [Bool.and_eq_true, Bool.not_eq_true', decide_eq_true_eq] at fewSingles
      exact .inr (.inr (.inr ⟨rfl, fewSingles⟩))
    · exact .inr (.inl rfl)
    · exact .inl rfl

theorem visible_of_needsCode {c : Char} (uncoded : needsCode c = false) : c = '\n' ∨ isPlain c = true := by
  simp only [needsCode, Bool.or_eq_false_iff, Bool.and_eq_false_iff, decide_eq_false_iff_not, bne_eq_false_iff_eq,
    beq_eq_false_iff_ne] at uncoded
  simp only [isPlain, Bool.or_eq_true, beq_iff_eq, Bool.and_eq_true, decide_eq_true_eq, bne_iff_ne]
  rcases uncoded with ⟨(large | tab) | line, visible⟩
  · exact .inr (.inr ⟨by omega, visible⟩)
  · exact .inr (.inl tab)
  · exact .inl line

theorem visible_of_any {s : List Char} (uncoded : s.any needsCode = false) :
    ∀ c ∈ s, c = '\n' ∨ isPlain c = true := by
  rw [List.any_eq_false] at uncoded
  exact fun c member => visible_of_needsCode (Bool.eq_false_iff.mpr (uncoded c member))

theorem not_mem_of_longestRun {q : Char} {s : List Char} {run : Nat} (none : longestRun q run s = 0) :
    q ∉ s := by
  induction s generalizing run with
  | nil => simp
  | cons c s ih =>
    have shorter := longestRun_tail (Nat.le_of_eq none)
    by_cases same : c = q
    · have positive := le_longestRun q (run + 1) s
      rw [if_pos same] at shorter
      omega
    · rw [if_neg same] at shorter
      exact List.not_mem_cons_of_ne_of_not_mem (Ne.symm same) (ih (Nat.le_zero.mp shorter))

-- A line end directly behind the opening quotes is dropped, and only one that was put there.
theorem dropLineEnd_tripled {s body : List Char} (same : s.contains '\n' = false → body.head? ≠ some '\n' ∧
    body.head? ≠ some '\r') :
    dropLineEnd ((if s.contains '\n' then ['\n'] else []) ++ body) = body := by
  split
  next => rfl
  next bare =>
    obtain ⟨noLine, noReturn⟩ := same (by simpa using bare)
    rw [List.nil_append]
    unfold dropLineEnd
    split <;> simp_all

-- Line ends are written as escapes, or as they are if they are line feeds of the text.
theorem escape_starts {s : List Char} (oneLine : s.contains '\n' = false) (tail : List Char)
    (tailStarts : tail.head? ≠ some '\n' ∧ tail.head? ≠ some '\r') (run : Nat) :
    (escape true run s ++ tail).head? ≠ some '\n' ∧ (escape true run s ++ tail).head? ≠ some '\r' := by
  cases s with
  | nil => exact tailStarts
  | cons c s =>
    have notLine : c ≠ '\n' := by
      rintro rfl
      simp at oneLine
    by_cases carriage : c = '\r'
    · subst carriage
      simp [escape, escapeControl]
    · unfold escape escapeControl
      split_ifs <;> simp_all

theorem readString_double {body : List Char} (single : ∀ more, body ≠ '\x22' :: '\x22' :: more) :
    readString ('\x22' :: body) = readBasic body := by
  rw [readString]
  exact single

theorem readString_single {body : List Char} (single : ∀ more, body ≠ '\x27' :: '\x27' :: more) :
    readString ('\x27' :: body) = readLiteral body := by
  rw [readString]
  exact single

theorem readString_writeString (s : List Char) {rest : List Char} (double : rest.head? ≠ some '\x22')
    (single : rest.head? ≠ some '\x27') : readString (writeString s ++ rest) = some (s, rest) := by
  unfold writeString
  rcases formOf_cases s with basic | multiBasic | ⟨literal, filled, uncoded, oneLine, unquoted⟩ |
    ⟨multiLiteral, uncoded, short⟩
  · have body : ∀ more, escape false 0 s ++ '\x22' :: rest ≠ '\x22' :: '\x22' :: more := by
      intro more same
      cases s with
      | nil =>
        obtain ⟨-, rfl⟩ := List.cons.inj same
        exact double rfl
      | cons c s =>
        obtain ⟨d, front, shape, other⟩ := escape_front (.inr (.inl rfl) : c ≠ '\x22' ∨ false = false ∨ 2 ≤ 0) s
        rw [shape] at same
        exact other (List.cons.inj same).1
    simp only [basic, List.cons_append, List.append_assoc, List.nil_append]
    rw [readString_double body, readBasic_escape]
  · simp only [multiBasic, tripled, List.cons_append, List.append_assoc, List.nil_append, readString]
    rw [dropLineEnd_tripled, readMultiBasic_escape double]
    exact fun oneLine => escape_starts oneLine _ (by simp) 0
  · have notQuote := not_mem_of_longestRun unquoted
    have notLine : '\n' ∉ s := by simpa using oneLine
    have body : ∀ more, s ++ '\x27' :: rest ≠ '\x27' :: '\x27' :: more := by
      intro more same
      cases s with
      | nil => exact filled rfl
      | cons c s => exact notQuote (by simp [(List.cons.inj same).1])
    simp only [literal, List.cons_append, List.append_assoc, List.nil_append]
    rw [readString_single body, readLiteral_append]
    intro c member
    refine ⟨(visible_of_any uncoded c member).resolve_left ?_, ?_⟩
    · exact fun same => notLine (same ▸ member)
    · exact fun same => notQuote (same ▸ member)
  · have visible := visible_of_any uncoded
    simp only [multiLiteral, tripled, List.cons_append, List.append_assoc, List.nil_append, readString]
    rw [dropLineEnd_tripled, readMultiLiteral_append single visible short]
    intro oneLine
    cases s with
    | nil => simp
    | cons c s =>
      have notReturn : c ≠ '\r' := by
        rintro rfl
        exact absurd (visible '\r' List.mem_cons_self) (by decide)
      have notLine : c ≠ '\n' := by
        rintro rfl
        simp at oneLine
      simp [notReturn, notLine]

end InterfaceDraft.Toml
