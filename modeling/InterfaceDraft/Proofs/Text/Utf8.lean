import InterfaceDraft.Text.Utf8
import Mathlib.Data.Char
import Mathlib.Data.List.Basic

set_option autoImplicit false

namespace InterfaceDraft.Text

theorem char_range (c : Char) : c.toNat < 0xd800 ∨ 0xdfff < c.toNat ∧ c.toNat < 0x110000 :=
  c.valid

theorem toNat_ofNat_of_range {n : Nat} (range : n < 0xd800 ∨ 0xdfff < n ∧ n < 0x110000) :
    (Char.ofNat n).toNat = n := by
  have valid : n.isValidChar := range
  rw [Char.ofNat, dif_pos valid]
  rfl

theorem toNat_byte {n : Nat} (small : n < 256) : (UInt8.ofNat n).toNat = n := by
  simp only [UInt8.toNat_ofNat', Nat.reducePow, Nat.mod_eq_of_lt small]

theorem continued_byte {k : Nat} (small : k < 64) (count code extra : Nat) (rest : Bytes) :
    continued (count + 1) code extra (.ofNat (0x80 + k) :: rest) =
      continued count (code * 64 + k) (extra + 1) rest := by
  have value : (UInt8.ofNat (0x80 + k)).toNat = 0x80 + k := toNat_byte (by omega)
  have continuation : isContinuation (.ofNat (0x80 + k)) = true := by
    simp only [isContinuation, value, Bool.and_eq_true, decide_eq_true_eq]
    omega
  rw [continued, if_pos continuation, value, Nat.add_sub_cancel_left]

theorem next_announced {lead k count low high : Nat} (rest : Bytes) (large : 0x80 ≤ lead)
    (small : lead < 256) (form : announced lead = some (count, low, high))
    (inside : low ≤ 0x80 + k ∧ 0x80 + k ≤ high) (byte : k < 64) :
    next (.ofNat lead) (.ofNat (0x80 + k) :: rest) =
      continued (count - 1) (leadBits count lead * 64 + k) 1 rest := by
  have value : (UInt8.ofNat (0x80 + k)).toNat = 0x80 + k := toNat_byte (by omega)
  simp only [next, toNat_byte small, form, value, Nat.not_lt.mpr large, if_false, inside.1, inside.2,
    decide_true, Bool.and_self, if_true, Nat.add_sub_cancel_left]

theorem leadBits_add (k : Nat) :
    leadBits 1 (0xc0 + k) = k ∧ leadBits 2 (0xe0 + k) = k ∧ leadBits 3 (0xf0 + k) = k :=
  ⟨Nat.add_sub_cancel_left _ _, Nat.add_sub_cancel_left _ _, Nat.add_sub_cancel_left _ _⟩

theorem announced_two {n : Nat} (large : 0x80 ≤ n) (small : n < 0x800) :
    announced (0xc0 + n / 64) = some (1, 0x80, 0xbf) := by
  rw [announced, if_pos]
  simp only [Bool.and_eq_true, decide_eq_true_eq]
  omega

-- Three bytes: the second is bounded below after 0xe0 and above after 0xed.
theorem announced_three {n : Nat} (large : 0x800 ≤ n) (small : n < 0x10000)
    (range : n < 0xd800 ∨ 0xdfff < n) :
    ∃ low high, announced (0xe0 + n / 4096) = some (2, low, high) ∧
      low ≤ 0x80 + n / 64 % 64 ∧ 0x80 + n / 64 % 64 ≤ high := by
  unfold announced
  simp only [Bool.and_eq_true, decide_eq_true_eq, beq_iff_eq]
  split_ifs
  all_goals first | omega | exact ⟨_, _, rfl, by omega, by omega⟩

theorem announced_four {n : Nat} (large : 0x10000 ≤ n) (small : n < 0x110000) :
    ∃ low high, announced (0xf0 + n / 262144) = some (3, low, high) ∧
      low ≤ 0x80 + n / 4096 % 64 ∧ 0x80 + n / 4096 % 64 ≤ high := by
  unfold announced
  simp only [Bool.and_eq_true, decide_eq_true_eq, beq_iff_eq]
  split_ifs
  all_goals first | omega | exact ⟨_, _, rfl, by omega, by omega⟩

theorem next_encodeChar (c : Char) :
    ∃ lead tail, encodeChar c = lead :: tail ∧
      ∀ rest, next lead (tail ++ rest) = .char c tail.length := by
  have range := char_range c
  have code : Char.ofNat c.toNat = c := Char.ofNat_toNat c
  simp only [encodeChar]
  generalize c.toNat = n at range code
  have last : n % 64 < 64 := Nat.mod_lt _ (by decide)
  have third : n / 64 % 64 < 64 := Nat.mod_lt _ (by decide)
  have second : n / 4096 % 64 < 64 := Nat.mod_lt _ (by decide)
  split_ifs with one two three
  next =>
    refine ⟨_, _, rfl, fun rest => ?_⟩
    simp only [next, toNat_byte (show n < 256 by omega), one, if_true, code, List.length_nil]
  next =>
    refine ⟨_, _, rfl, fun rest => ?_⟩
    have form := announced_two (show 0x80 ≤ n by omega) two
    have bits : leadBits 1 (0xc0 + n / 64) * 64 + n % 64 = n := by
      rw [(leadBits_add _).1]
      omega
    have read := next_announced ([] ++ rest) (by omega) (by omega) form (by omega) last
    rw [bits, continued, code] at read
    exact read
  next =>
    refine ⟨_, _, rfl, fun rest => ?_⟩
    obtain ⟨low, high, form, inside⟩ := announced_three (show 0x800 ≤ n by omega) three (by omega)
    have bits : (leadBits 2 (0xe0 + n / 4096) * 64 + n / 64 % 64) * 64 + n % 64 = n := by
      rw [(leadBits_add _).2.1]
      omega
    have read := next_announced (.ofNat (0x80 + n % 64) :: ([] ++ rest)) (by omega) (by omega) form
      inside third
    rw [continued_byte last, bits, continued, code] at read
    exact read
  next =>
    refine ⟨_, _, rfl, fun rest => ?_⟩
    obtain ⟨low, high, form, inside⟩ := announced_four (show 0x10000 ≤ n by omega) (by omega)
    have bits : ((leadBits 3 (0xf0 + n / 262144) * 64 + n / 4096 % 64) * 64 + n / 64 % 64) * 64 +
        n % 64 = n := by
      rw [(leadBits_add _).2.2]
      omega
    have read := next_announced (.ofNat (0x80 + n / 64 % 64) :: .ofNat (0x80 + n % 64) :: ([] ++ rest))
      (by omega) (by omega) form inside second
    rw [continued_byte third, continued_byte last, bits, continued, code] at read
    exact read

theorem length_le_length_encode (s : List Char) : s.length ≤ (encode s).length := by
  induction s with
  | nil => simp
  | cons c s ih =>
    obtain ⟨lead, tail, bytes, -⟩ := next_encodeChar c
    simp only [encode_cons, bytes, List.length_append, List.length_cons]
    omega

theorem decode?_encode (s : List Char) : decode? (encode s) = some s := by
  induction s with
  | nil => rfl
  | cons c s ih =>
    obtain ⟨lead, tail, bytes, read⟩ := next_encodeChar c
    rw [encode_cons, bytes, List.cons_append, decode?, decodeFrom, read]
    simp only
    rw [decodeFrom_eq_drop, List.drop_left, ← decode?, ih, Option.map_some]

theorem byte_eq {b : UInt8} {n : Nat} (value : b.toNat = n) : b = .ofNat n := by
  rw [← value, UInt8.ofNat_toNat]

theorem continuation_bits {b : UInt8} (low : 0x80 ≤ b.toNat) (high : b.toNat ≤ 0xbf) :
    ∃ k, k < 64 ∧ b.toNat = 0x80 + k ∧ b = .ofNat (0x80 + k) :=
  ⟨b.toNat - 0x80, by omega, by omega, byte_eq (by omega)⟩

theorem announced_cases {lead count low high : Nat} (form : announced lead = some (count, low, high)) :
    0x80 ≤ low ∧ high ≤ 0xbf ∧
      (count = 1 ∧ 0xc2 ≤ lead ∧ lead ≤ 0xdf ∨
        count = 2 ∧ 0xe0 ≤ lead ∧ lead ≤ 0xef ∧ (lead = 0xe0 → 0xa0 ≤ low) ∧
          (lead = 0xed → high ≤ 0x9f) ∨
        count = 3 ∧ 0xf0 ≤ lead ∧ lead ≤ 0xf4 ∧ (lead = 0xf0 → 0x90 ≤ low) ∧
          (lead = 0xf4 → high ≤ 0x8f)) := by
  unfold announced at form
  simp only [Bool.and_eq_true, decide_eq_true_eq, beq_iff_eq] at form
  split_ifs at form
  all_goals
    simp only [Option.some.injEq, Prod.mk.injEq] at form
    obtain ⟨rfl, rfl, rfl⟩ := form
    omega

theorem continued_succ_char {count code extra total : Nat} {rest : Bytes} {c : Char}
    (read : continued (count + 1) code extra rest = .char c total) :
    ∃ k tail, k < 64 ∧ rest = .ofNat (0x80 + k) :: tail ∧
      continued count (code * 64 + k) (extra + 1) tail = .char c total := by
  cases rest with
  | nil => simp [continued] at read
  | cons b tail =>
    rw [continued] at read
    split at read
    next continuation =>
      simp only [isContinuation, Bool.and_eq_true, decide_eq_true_eq] at continuation
      obtain ⟨k, small, value, rfl⟩ := continuation_bits continuation.1 continuation.2
      rw [value, Nat.add_sub_cancel_left] at read
      exact ⟨k, tail, small, rfl, read⟩
    next => cases read

theorem next_char {lead : UInt8} {rest : Bytes} {c : Char} {total : Nat}
    (read : next lead rest = .char c total) :
    (lead.toNat < 0x80 ∧ c = .ofNat lead.toNat ∧ total = 0) ∨
      ∃ count low high k tail, announced lead.toNat = some (count, low, high) ∧ k < 64 ∧
        rest = .ofNat (0x80 + k) :: tail ∧ low ≤ 0x80 + k ∧ 0x80 + k ≤ high ∧
        continued (count - 1) (leadBits count lead.toNat * 64 + k) 1 tail = .char c total := by
  unfold next at read
  split at read
  next ascii =>
    cases read
    exact .inl ⟨ascii, rfl, rfl⟩
  next =>
    split at read
    next => cases read
    next => cases read
    next count low high b tail form =>
      split at read
      next inside =>
        simp only [Bool.and_eq_true, decide_eq_true_eq] at inside
        obtain ⟨lowBound, highBound, -⟩ := announced_cases form
        obtain ⟨k, small, value, rfl⟩ :=
          continuation_bits (Nat.le_trans lowBound inside.1) (Nat.le_trans inside.2 highBound)
        rw [value] at inside read
        rw [Nat.add_sub_cancel_left] at read
        exact .inr ⟨count, low, high, k, tail, form, small, rfl, inside.1, inside.2, read⟩
      next => cases read

theorem encodeChar_two {j k : Nat} (low : 2 ≤ j) (high : j < 32) (last : k < 64) :
    encodeChar (.ofNat (j * 64 + k)) = [.ofNat (0xc0 + j), .ofNat (0x80 + k)] := by
  have code : (Char.ofNat (j * 64 + k)).toNat = j * 64 + k := toNat_ofNat_of_range (by omega)
  have quotient : (j * 64 + k) / 64 = j := by omega
  have rest : (j * 64 + k) % 64 = k := by omega
  simp only [encodeChar, code]
  rw [if_neg (by omega), if_pos (by omega), quotient, rest]

theorem encodeChar_three {j k l : Nat} (third : k < 64) (last : l < 64)
    (large : 0x800 ≤ (j * 64 + k) * 64 + l) (small : (j * 64 + k) * 64 + l < 0x10000)
    (range : (j * 64 + k) * 64 + l < 0xd800 ∨ 0xdfff < (j * 64 + k) * 64 + l) :
    encodeChar (.ofNat ((j * 64 + k) * 64 + l)) =
      [.ofNat (0xe0 + j), .ofNat (0x80 + k), .ofNat (0x80 + l)] := by
  have code : (Char.ofNat ((j * 64 + k) * 64 + l)).toNat = (j * 64 + k) * 64 + l :=
    toNat_ofNat_of_range (by omega)
  have first : ((j * 64 + k) * 64 + l) / 4096 = j := by omega
  have middle : ((j * 64 + k) * 64 + l) / 64 % 64 = k := by omega
  have rest : ((j * 64 + k) * 64 + l) % 64 = l := by omega
  simp only [encodeChar, code]
  rw [if_neg (by omega), if_neg (by omega), if_pos small, first, middle, rest]

theorem encodeChar_four {j k l m : Nat} (second : k < 64) (third : l < 64) (last : m < 64)
    (large : 0x10000 ≤ ((j * 64 + k) * 64 + l) * 64 + m)
    (small : ((j * 64 + k) * 64 + l) * 64 + m < 0x110000) :
    encodeChar (.ofNat (((j * 64 + k) * 64 + l) * 64 + m)) =
      [.ofNat (0xf0 + j), .ofNat (0x80 + k), .ofNat (0x80 + l), .ofNat (0x80 + m)] := by
  have code : (Char.ofNat (((j * 64 + k) * 64 + l) * 64 + m)).toNat =
      ((j * 64 + k) * 64 + l) * 64 + m := toNat_ofNat_of_range (by omega)
  have first : (((j * 64 + k) * 64 + l) * 64 + m) / 262144 = j := by omega
  have before : (((j * 64 + k) * 64 + l) * 64 + m) / 4096 % 64 = k := by omega
  have middle : (((j * 64 + k) * 64 + l) * 64 + m) / 64 % 64 = l := by omega
  have rest : (((j * 64 + k) * 64 + l) * 64 + m) % 64 = m := by omega
  simp only [encodeChar, code]
  rw [if_neg (by omega), if_neg (by omega), if_neg (by omega), first, before, middle, rest]

theorem cons_eq_encodeChar_append {lead : UInt8} {rest : Bytes} {c : Char} {total : Nat}
    (read : next lead rest = .char c total) : lead :: rest = encodeChar c ++ rest.drop total := by
  rcases next_char read with ⟨ascii, rfl, rfl⟩ | ⟨count, low, high, k, tail, form, small, rfl,
    above, below, more⟩
  · have code : (Char.ofNat lead.toNat).toNat = lead.toNat := toNat_ofNat_of_range (by omega)
    simp only [encodeChar, code, if_pos ascii, UInt8.ofNat_toNat]
    rfl
  · obtain ⟨-, -, ⟨rfl, least, most⟩ | ⟨rfl, least, most, overlong, surrogate⟩ |
      ⟨rfl, least, most, overlong, excess⟩⟩ := announced_cases form
    next =>
      obtain ⟨j, value⟩ := Nat.exists_eq_add_of_le (show 0xc0 ≤ lead.toNat by omega)
      rw [value, (leadBits_add j).1, continued] at more
      cases more
      rw [encodeChar_two (by omega) (by omega) small, byte_eq value]
      rfl
    next =>
      obtain ⟨j, value⟩ := Nat.exists_eq_add_of_le least
      rw [value, (leadBits_add j).2.1] at more
      obtain ⟨l, behind, last, rfl, done⟩ := continued_succ_char more
      rw [continued] at done
      cases done
      rw [encodeChar_three small last (by omega) (by omega) (by omega), byte_eq value]
      rfl
    next =>
      obtain ⟨j, value⟩ := Nat.exists_eq_add_of_le least
      rw [value, (leadBits_add j).2.2] at more
      obtain ⟨l, behind, third, rfl, again⟩ := continued_succ_char more
      obtain ⟨m, last, final, rfl, done⟩ := continued_succ_char again
      rw [continued] at done
      cases done
      rw [encodeChar_four small third final (by omega) (by omega), byte_eq value]
      rfl

theorem drop_eq_encode {skip : Nat} {s : Bytes} {t : List Char}
    (read : decodeFrom skip s = some t) : s.drop skip = encode t := by
  fun_induction decodeFrom skip s generalizing t with
  | case1 => simp_all
  | case2 skip _ tail ih => exact ih read
  | case3 lead tail c extra front ih =>
    obtain ⟨rest, decoded, rfl⟩ := Option.map_eq_some_iff.mp read
    rw [encode_cons, ← ih decoded]
    exact cons_eq_encodeChar_append front
  | case4 => cases read

theorem decode?_eq_some_iff {s : Bytes} {t : List Char} : decode? s = some t ↔ s = encode t := by
  constructor
  · intro read
    exact drop_eq_encode read
  · rintro rfl
    exact decode?_encode t

-- The lead bytes grow with the length of the form, and within one form the digits decide.
theorem encodeChar_append_lt {c d : Char} (less : c < d) (s t : Bytes) :
    encodeChar c ++ s < encodeChar d ++ t := by
  have codes : c.toNat < d.toNat := less
  have rangeC := char_range c
  have rangeD := char_range d
  simp only [encodeChar]
  generalize c.toNat = m at *
  generalize d.toNat = n at *
  split_ifs
  all_goals
    simp (disch := omega) only [List.cons_append, List.cons_lt_cons_iff, UInt8.lt_iff_toNat_lt,
      ← UInt8.toNat_inj, toNat_byte]
    omega

theorem append_lt_append_iff (front s t : Bytes) : front ++ s < front ++ t ↔ s < t := by
  induction front with
  | nil => rfl
  | cons b front ih => rw [List.cons_append, List.cons_append, List.cons_lt_cons_self, ih]

theorem encode_lt_iff {a b : List Char} : encode a < encode b ↔ a < b := by
  induction a generalizing b with
  | nil =>
    cases b with
    | nil => simp
    | cons d b =>
      obtain ⟨lead, tail, bytes, -⟩ := next_encodeChar d
      simp [bytes]
  | cons c a ih =>
    cases b with
    | nil => simp
    | cons d b =>
      rw [encode_cons, encode_cons, List.cons_lt_cons_iff]
      rcases lt_trichotomy c d with less | rfl | greater
      · simp [less, encodeChar_append_lt less]
      · simp [append_lt_append_iff, ih]
      · have reversed := encodeChar_append_lt greater (encode b) (encode a)
        have notLess : ¬ c < d := lt_asymm greater
        have different : c ≠ d := ne_of_gt greater
        simp only [List.lt_asymm reversed, notLess, different, false_and, or_self]

end InterfaceDraft.Text
