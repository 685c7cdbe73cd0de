import InterfaceDraft.Interface.Draft
import Mathlib.Data.List.Infix

set_option autoImplicit false

namespace InterfaceDraft.Interface

open Text

-- One pass from the left. Two characters that stand for a third one are read together, all else is copied.
def readPairs (pair? : Char → Char → Option Char) : List Char → List Char
  | [] => []
  | [c] => [c]
  | c :: d :: rest =>
    match pair? c d with
    | some put => put :: readPairs pair? rest
    | none => c :: readPairs pair? (d :: rest)

def escape? : Char → Char → Option Char
  | '\\', 'n' => some '\n'
  | '\\', 't' => some '\t'
  | _, _ => none

def onlyPair (a b put : Char) : Char → Char → Option Char :=
  fun c d => if c = a ∧ d = b then some put else none

-- The second character of a pair begins none, and what is put for a pair belongs to none.
structure Separate (pair? : Char → Char → Option Char) : Prop where
  apart : ∀ {c d put}, pair? c d = some put → ∀ e, pair? d e = none
  put : ∀ {c d put}, pair? c d = some put → ∀ e, pair? put e = none ∧ pair? e put = none

def IsPart (part whole : Char → Char → Option Char) : Prop :=
  ∀ {c d put}, part c d = some put → whole c d = some put

section

variable {pair? whole first second : Char → Char → Option Char}

theorem IsPart.refl (pair? : Char → Char → Option Char) : IsPart pair? pair? := id

theorem IsPart.missing (isPart : IsPart first whole) {c d : Char} (missing : whole c d = none) :
    first c d = none := by
  cases found : first c d with
  | none => rfl
  | some put => simp [isPart found] at missing

theorem IsPart.or_comm (isFirst : IsPart first whole) (isSecond : IsPart second whole) (c d : Char) :
    (first c d).or (second c d) = (second c d).or (first c d) := by
  cases early : first c d with
  | none => simp
  | some put =>
    cases late : second c d with
    | none => rfl
    | some other =>
      have same : some put = some other := (isFirst early).symm.trans (isSecond late)
      simp [same]

theorem readPairs_cons_some {c d put : Char} (found : pair? c d = some put) (rest : List Char) :
    readPairs pair? (c :: d :: rest) = put :: readPairs pair? rest := by
  simp [readPairs, found]

theorem readPairs_cons_none {c : Char} {text : List Char} (missing : ∀ d ∈ text.head?, pair? c d = none) :
    readPairs pair? (c :: text) = c :: readPairs pair? text := by
  cases text with
  | nil => rfl
  | cons d rest => simp [readPairs, missing d rfl]

theorem head?_readPairs {d h : Char} {rest : List Char} (isHead : h ∈ (readPairs pair? (d :: rest)).head?) :
    h = d ∨ ∃ a b, pair? a b = some h := by
  cases rest with
  | nil => simp_all [readPairs]
  | cons e rest =>
    cases found : pair? d e with
    | none => simp_all [readPairs]
    | some put =>
      have same : put = h := by simpa [readPairs, found] using isHead
      exact .inr ⟨d, e, same ▸ found⟩

theorem readPairs_readPairs (separate : Separate whole) (isFirst : IsPart first whole)
    (isSecond : IsPart second whole) (text : List Char) :
    readPairs second (readPairs first text) = readPairs (fun c d => (first c d).or (second c d)) text := by
  fun_induction readPairs (fun c d => (first c d).or (second c d)) text with
  | case1 => rfl
  | case2 c => rfl
  | case3 c d rest put either ih =>
    cases early : first c d with
    | some replaced =>
      have same : replaced = put := by simpa [early] using either
      have left (e : Char) : second replaced e = none := isSecond.missing (separate.put (isFirst early) e).1
      rw [readPairs_cons_some early, readPairs_cons_none fun e _ => left e, ih, same]
    | none =>
      -- The first pass leaves the pair alone, also its second character.
      have late : second c d = some put := by simpa [early] using either
      have kept (e : Char) : first d e = none := isFirst.missing (separate.apart (isSecond late) e)
      rw [readPairs_cons_none (by simpa using early), readPairs_cons_none fun e _ => kept e,
        readPairs_cons_some late, ih]
  | case4 c d rest neither ih =>
    have missing : first c d = none ∧ second c d = none := by simpa using neither
    -- What the first pass may have put behind `c` makes no pair with it.
    have stillMissing : ∀ h ∈ (readPairs first (d :: rest)).head?, second c h = none := by
      intro h isHead
      rcases head?_readPairs isHead with rfl | ⟨a, b, found⟩
      · exact missing.2
      · exact isSecond.missing (separate.put (isFirst found) c).2
    rw [readPairs_cons_none (by simpa using missing.1), readPairs_cons_none stillMissing, ih]

theorem readPairs_comm (separate : Separate whole) (isFirst : IsPart first whole)
    (isSecond : IsPart second whole) (text : List Char) :
    readPairs second (readPairs first text) = readPairs first (readPairs second text) := by
  rw [readPairs_readPairs separate isFirst isSecond, readPairs_readPairs separate isSecond isFirst]
  simp only [isFirst.or_comm isSecond]

theorem readPairs_idem (separate : Separate pair?) (text : List Char) :
    readPairs pair? (readPairs pair? text) = readPairs pair? text := by
  rw [readPairs_readPairs separate (IsPart.refl pair?) (IsPart.refl pair?)]
  simp only [Option.or_self]

-- A pair that is left would be replaced.
theorem not_infix_of_readPairs_eq_self (separate : Separate pair?) {text : List Char}
    (same : readPairs pair? text = text) {a b put : Char} (pair : pair? a b = some put) :
    ¬ [a, b] <:+: text := by
  fun_induction readPairs pair? text with
  | case1 => simp
  | case2 c => simp [List.infix_cons_iff]
  | case3 c d rest replaced found ih =>
    have first : replaced = c := (List.cons.inj same).1
    have missing := (separate.put found d).1
    rw [first, found] at missing
    cases missing
  | case4 c d rest missing ih =>
    have later := ih (List.cons.inj same).2
    have notHere : ¬ (a = c ∧ b = d) := by
      rintro ⟨rfl, rfl⟩
      simp [missing] at pair
    simpa [List.infix_cons_iff (a := c), notHere] using later

theorem replaceAll_eq_readPairs (a b put : Char) (text : List Char) :
    replaceAll [a, b] [put] text = readPairs (onlyPair a b put) text := by
  change replaceFrom [a, b] [put] 0 text = _
  fun_induction readPairs (onlyPair a b put) text with
  | case1 => rfl
  | case2 c => simp [replaceFrom, startsWith, dropLead?]
  | case3 c d rest replaced found ih =>
    obtain ⟨⟨rfl, rfl⟩, rfl⟩ : (c = a ∧ d = b) ∧ put = replaced := by simpa [onlyPair] using found
    simp [replaceFrom, startsWith, dropLead?, ih]
  | case4 c d rest missing ih =>
    have other : c = a → d ≠ b := by simpa [onlyPair] using missing
    rw [← ih]
    by_cases same : a = c
    · simp [replaceFrom, startsWith, dropLead?, same, (other same.symm).symm]
    · simp [replaceFrom, startsWith, dropLead?, same]

end

theorem escape?_cases {c d put : Char} (found : escape? c d = some put) :
    c = '\\' ∧ (d = 'n' ∧ put = '\n' ∨ d = 't' ∧ put = '\t') := by
  unfold escape? at found
  split at found
  next => exact ⟨rfl, .inl ⟨rfl, (Option.some.inj found).symm⟩⟩
  next => exact ⟨rfl, .inr ⟨rfl, (Option.some.inj found).symm⟩⟩
  next => cases found

theorem separate_escape : Separate escape? where
  apart found e := by
    rcases escape?_cases found with ⟨-, ⟨rfl, -⟩ | ⟨rfl, -⟩⟩ <;> simp [escape?]
  put found e := by
    rcases escape?_cases found with ⟨-, ⟨-, rfl⟩ | ⟨-, rfl⟩⟩ <;> simp [escape?]

theorem part_of_eq {a b put : Char} (found : escape? a b = some put) : IsPart (onlyPair a b put) escape? := by
  intro c d other isOnly
  obtain ⟨⟨rfl, rfl⟩, rfl⟩ : (c = a ∧ d = b) ∧ put = other := by simpa [onlyPair] using isOnly
  exact found

theorem part_lineFeed : IsPart (onlyPair '\\' 'n' '\n') escape? := part_of_eq rfl

theorem part_tab : IsPart (onlyPair '\\' 't' '\t') escape? := part_of_eq rfl

theorem escape?_eq_or :
    (fun c d => (onlyPair '\\' 'n' '\n' c d).or (onlyPair '\\' 't' '\t' c d)) = escape? := by
  funext c d
  cases found : escape? c d with
  | some put =>
    rcases escape?_cases found with ⟨rfl, ⟨rfl, rfl⟩ | ⟨rfl, rfl⟩⟩
    · rfl
    · rfl
  | none =>
    simp [part_lineFeed.missing found, part_tab.missing found]

theorem expandEscapes_eq_readPairs (text : List Char) : expandEscapes text = readPairs escape? text := by
  change replaceAll ['\\', 't'] ['\t'] (replaceAll ['\\', 'n'] ['\n'] text) = _
  rw [replaceAll_eq_readPairs, replaceAll_eq_readPairs, readPairs_readPairs separate_escape part_lineFeed part_tab,
    escape?_eq_or]

theorem expandEscapes_reads_once (text : List Char) :
    expandEscapes text = readPairs escape? text ∧
      ¬ "\\n".toList <:+: expandEscapes text ∧ ¬ "\\t".toList <:+: expandEscapes text ∧
      expandEscapes (expandEscapes text) = expandEscapes text ∧
      replaceAll "\\n".toList "\n".toList (replaceAll "\\t".toList "\t".toList text) = expandEscapes text := by
  have once := expandEscapes_eq_readPairs text
  have fixed : readPairs escape? (expandEscapes text) = expandEscapes text := by
    rw [once, readPairs_idem separate_escape]
  refine ⟨once, ?_, ?_, ?_, ?_⟩
  · exact not_infix_of_readPairs_eq_self separate_escape fixed (rfl : escape? '\\' 'n' = some '\n')
  · exact not_infix_of_readPairs_eq_self separate_escape fixed (rfl : escape? '\\' 't' = some '\t')
  · rw [expandEscapes_eq_readPairs (expandEscapes text), fixed]
  · change replaceAll ['\\', 'n'] ['\n'] (replaceAll ['\\', 't'] ['\t'] text) =
      replaceAll ['\\', 't'] ['\t'] (replaceAll ['\\', 'n'] ['\n'] text)
    simp only [replaceAll_eq_readPairs]
    exact readPairs_comm separate_escape part_tab part_lineFeed text

-- A run of marks: only the last one makes an escape.
example : expandEscapes "\\\\n\\\\\\t".toList = "\\\n\\\\\t".toList := by decide

end InterfaceDraft.Interface
