import InterfaceDraft.Signature.Scan
import InterfaceDraft.Proofs.Text.Blank
import InterfaceDraft.Proofs.Text.Lines
import InterfaceDraft.Proofs.Text.Search

set_option autoImplicit false

namespace InterfaceDraft.Signature

open Text

theorem suffix_of_declared? {receiver line head : List Char}
    (declared : declared? receiver line = some head) : head <:+ line := by
  unfold declared? at declared
  split at declared
  next => cases declared
  next rest opened =>
    obtain rfl := dropLead?_eq_some_iff.mp opened
    split at declared
    next => cases declared
    next clause after closed =>
      simp only [Option.ite_none_right_eq_some, Option.some.injEq] at declared
      obtain ⟨-, rfl⟩ := declared
      have inRest : after <:+ rest := ⟨clause ++ [')'], by simp [eq_of_splitFirst? closed]⟩
      exact ((List.dropWhile_suffix isBlank).trans inRest).trans (List.suffix_append _ _)

theorem mem_of_declared? {receiver line head : List Char} (declared : declared? receiver line = some head)
    {c : Char} (member : c ∈ head) : c ∈ line :=
  (suffix_of_declared? declared).subset member

theorem mem_of_completed? {fragment head : List Char} (completed : completed? fragment = some head)
    {c : Char} (member : c ∈ head) : c ∈ fragment := by
  unfold completed? at completed
  split at completed
  next opened cut =>
    cases completed
    rw [dropTail?_eq_some_iff.mp cut]
    exact List.mem_append_left _ member
  next =>
    split at completed
    next =>
      obtain ⟨⟨front, rest⟩, cut, rfl⟩ := Option.map_eq_some_iff.mp completed
      rw [eq_of_splitLast? cut]
      exact List.mem_append_left _ member
    next => cases completed

theorem mem_joined {fragment : List Char} {c : Char} (member : c ∈ joined fragment) :
    c ∈ fragment ∨ c = ' ' := by
  unfold joined at member
  split at member
  · exact .inl member
  · simpa using member

theorem mem_finished {pending head : List Char} {c : Char} (member : c ∈ finished pending head) :
    c ∈ pending ∨ c ∈ head ∨ c = ')' := by
  rw [finished, normalise] at member
  rcases mem_replaceAll member with kept | put
  · rcases List.mem_append.mp kept with before | last
    · exact .inl before
    · exact .inr (.inl (mem_of_mem_trimEnd last))
  · exact .inr (.inr (by simpa using put))

-- All that a scan holds is made of characters with a property.
structure Scan.MadeOf (allowed : Char → Prop) (scan : Scan) : Prop where
  pending : ∀ text ∈ scan.pending, ∀ c ∈ text, allowed c
  found : ∀ signature ∈ scan.found, ∀ c ∈ signature, allowed c

section

variable {allowed : Char → Prop} (space : allowed ' ') (paren : allowed ')')

theorem Scan.start_madeOf : Scan.start.MadeOf allowed where
  pending := by simp [Scan.start]
  found := by simp [Scan.start]

include space paren in
theorem Scan.MadeOf.advance {scan : Scan} (made : scan.MadeOf allowed) {text fragment : List Char}
    (before : ∀ c ∈ text, allowed c) (inFragment : ∀ c ∈ fragment, allowed c) :
    (scan.advance text fragment).MadeOf allowed := by
  unfold Scan.advance
  split
  next head completed =>
    refine ⟨by simp, ?_⟩
    intro signature member c inside
    rcases List.mem_append.mp member with earlier | last
    · exact made.found signature earlier c inside
    · rw [List.mem_singleton.mp last] at inside
      rcases mem_finished inside with fromText | fromHead | rfl
      · exact before c fromText
      · exact inFragment c (mem_of_completed? completed fromHead)
      · exact paren
  next =>
    refine ⟨?_, made.found⟩
    intro joinedText member c inside
    simp only [Option.mem_def, Option.some.injEq] at member
    rw [← member, List.mem_append] at inside
    rcases inside with fromText | fromFragment
    · exact before c fromText
    · rcases mem_joined fromFragment with inside | rfl
      · exact inFragment c inside
      · exact space

include space paren in
theorem Scan.MadeOf.read {scan : Scan} (made : scan.MadeOf allowed) {line : List Char}
    (inLine : ∀ c ∈ line, allowed c) (receiver : List Char) :
    (scan.read receiver line).MadeOf allowed := by
  unfold Scan.read
  split
  next =>
    split
    next head declared =>
      apply made.advance space paren
      · simp
      · intro c member
        exact inLine c (mem_of_declared? declared member)
    next => exact made
  next text pending =>
    split
    next => exact made
    next => exact made.advance space paren (made.pending text pending) inLine

include space paren in
theorem Scan.MadeOf.feed {scan : Scan} (made : scan.MadeOf allowed) {raw : List Char}
    (inRaw : ∀ c ∈ raw, allowed c) (receiver : List Char) :
    (scan.feed receiver raw).MadeOf allowed := by
  unfold Scan.feed
  simp only
  split
  next => exact ⟨made.pending, made.found⟩
  next =>
    split
    next => exact made
    next =>
      split
      next => exact ⟨made.pending, made.found⟩
      next => exact made.read space paren (fun c member => inRaw c (mem_of_mem_trim member)) receiver

include space paren in
theorem Scan.MadeOf.feedAll {scan : Scan} (made : scan.MadeOf allowed) {raws : List (List Char)}
    (inRaws : ∀ raw ∈ raws, ∀ c ∈ raw, allowed c) (receiver : List Char) :
    (scan.feedAll receiver raws).MadeOf allowed := by
  induction raws generalizing scan with
  | nil => exact made
  | cons raw raws ih =>
    rw [Scan.feedAll_cons]
    apply ih
    · exact made.feed space paren (inRaws raw List.mem_cons_self) receiver
    · exact fun raw member => inRaws raw (List.mem_cons_of_mem _ member)

end

theorem flat_of_mem_ofText {receiver source signature : List Char}
    (member : signature ∈ ofText receiver source) : '\n' ∉ signature := by
  have scanned : (Scan.start.feedAll receiver (lines source)).MadeOf (· ≠ '\n') := by
    apply Scan.start_madeOf.feedAll (by decide) (by decide)
    intro line inLines c inside same
    exact flat_of_mem_lines inLines (same ▸ inside)
  intro fed
  exact scanned.found signature member '\n' fed rfl

end InterfaceDraft.Signature
