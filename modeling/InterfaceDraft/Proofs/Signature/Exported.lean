import InterfaceDraft.Proofs.Signature.Layout

set_option autoImplicit false

namespace InterfaceDraft.Signature

open Text

theorem mem_of_inRanges {ranges : List (Nat × Nat)} {n : Nat} (inside : inRanges ranges n = true) :
    n ∈ ranges.flatMap fun range => List.range' range.1 (range.2 + 1 - range.1) := by
  simp only [inRanges, List.any_eq_true, Bool.and_eq_true, decide_eq_true_eq] at inside
  obtain ⟨range, member, low, high⟩ := inside
  refine List.mem_flatMap.mpr ⟨range, member, ?_⟩
  rw [List.mem_range'_1]
  omega

theorem isBlank_of_isUppercase {c : Char} (upper : isUppercase c = true) : isBlank c = false := by
  have lower : ∀ n ∈ blankRanges.flatMap fun range => List.range' range.1 (range.2 + 1 - range.1),
      uppercaseRuns.any (inRun n) = false := by decide
  rw [Bool.eq_false_iff]
  intro blank
  rw [isUppercase, lower c.toNat (mem_of_inRanges blank)] at upper
  cases upper

theorem isExported_iff {s : List Char} :
    isExported s = true ↔ ∃ c rest, s = c :: rest ∧ isUppercase c = true := by
  cases s with
  | nil => simp [isExported]
  | cons c rest => simp [isExported]

theorem isExported_of_declared? {receiver line head : List Char}
    (declared : declared? receiver line = some head) : isExported head = true := by
  unfold declared? at declared
  split at declared
  next => cases declared
  next =>
    split at declared
    next => cases declared
    next =>
      simp only [Option.ite_none_right_eq_some, Option.some.injEq, Bool.and_eq_true] at declared
      obtain ⟨⟨-, exported⟩, rfl⟩ := declared
      exact exported

theorem eq_of_completed? {fragment head : List Char} (completed : completed? fragment = some head) :
    ∃ body, fragment = head ++ bodyOpen :: body := by
  unfold completed? at completed
  split at completed
  next opened cut =>
    cases completed
    exact ⟨[], dropTail?_eq_some_iff.mp cut⟩
  next =>
    split at completed
    next =>
      obtain ⟨⟨front, body⟩, cut, rfl⟩ := Option.map_eq_some_iff.mp completed
      exact ⟨body, eq_of_splitLast? cut⟩
    next => cases completed

theorem isExported_normalise {text : List Char} (exported : isExported text = true) :
    isExported (normalise text) = true := by
  obtain ⟨c, rest, rfl, upper⟩ := isExported_iff.mp exported
  have other : c ≠ ',' := by
    rintro rfl
    revert upper
    decide
  rw [normalise_cons_of_ne other]
  exact isExported_iff.mpr ⟨c, _, rfl, upper⟩

theorem isExported_finished {text fragment head : List Char}
    (exported : isExported (text ++ fragment) = true)
    (completed : completed? fragment = some head) : isExported (finished text head) = true := by
  apply isExported_normalise
  cases text with
  | cons c text => exact exported
  | nil =>
    obtain ⟨c, rest, shape, upper⟩ := isExported_iff.mp exported
    obtain ⟨body, cut⟩ := eq_of_completed? completed
    cases head with
    | nil =>
      -- The fragment would begin with the brace.
      rw [List.nil_append] at shape cut
      rw [shape] at cut
      obtain ⟨rfl, -⟩ := List.cons.inj cut
      revert upper
      decide
    | cons d head =>
      rw [List.nil_append] at shape
      rw [shape, List.cons_append] at cut
      obtain ⟨rfl, -⟩ := List.cons.inj cut
      rw [List.nil_append, trimEnd_cons (isBlank_of_isUppercase upper)]
      exact isExported_iff.mpr ⟨c, _, rfl, upper⟩

theorem isExported_joined {text fragment : List Char} (exported : isExported (text ++ fragment) = true) :
    isExported (text ++ joined fragment) = true := by
  obtain ⟨c, rest, shape, upper⟩ := isExported_iff.mp exported
  unfold joined
  split
  next => exact exported
  next =>
    rw [← List.append_assoc, shape]
    exact isExported_iff.mpr ⟨c, _, rfl, upper⟩

-- All that a scan holds begins with the name of an exported method.
structure Scan.Exported (scan : Scan) : Prop where
  pending : ∀ text ∈ scan.pending, isExported text = true
  found : ∀ signature ∈ scan.found, isExported signature = true

theorem Scan.start_exported : Scan.start.Exported where
  pending := by simp [Scan.start]
  found := by simp [Scan.start]

theorem Scan.Exported.advance {scan : Scan} (held : scan.Exported) {text fragment : List Char}
    (exported : isExported (text ++ fragment) = true) : (scan.advance text fragment).Exported := by
  unfold Scan.advance
  split
  next head completed =>
    refine ⟨by simp, ?_⟩
    intro signature member
    rcases List.mem_append.mp member with earlier | last
    · exact held.found signature earlier
    · rw [List.mem_singleton.mp last]
      exact isExported_finished exported completed
  next =>
    refine ⟨?_, held.found⟩
    intro joinedText member
    simp only [Option.mem_def, Option.some.injEq] at member
    rw [← member]
    exact isExported_joined exported

theorem Scan.Exported.read {scan : Scan} (held : scan.Exported) (receiver line : List Char) :
    (scan.read receiver line).Exported := by
  unfold Scan.read
  split
  next =>
    split
    next head declared => exact held.advance (isExported_of_declared? declared)
    next => exact held
  next text pending =>
    split
    next => exact held
    next =>
      obtain ⟨c, rest, rfl, upper⟩ := isExported_iff.mp (held.pending text pending)
      exact held.advance (isExported_iff.mpr ⟨c, rest ++ line, rfl, upper⟩)

theorem Scan.Exported.feed {scan : Scan} (held : scan.Exported) (receiver raw : List Char) :
    (scan.feed receiver raw).Exported := by
  unfold Scan.feed
  simp only
  split
  next => exact ⟨held.pending, held.found⟩
  next =>
    split
    next => exact held
    next =>
      split
      next => exact ⟨held.pending, held.found⟩
      next => exact held.read receiver _

theorem Scan.Exported.feedAll {scan : Scan} (held : scan.Exported) (receiver : List Char)
    (raws : List (List Char)) : (scan.feedAll receiver raws).Exported := by
  induction raws generalizing scan with
  | nil => exact held
  | cons raw raws ih =>
    rw [Scan.feedAll_cons]
    exact ih (held.feed receiver raw)

theorem isExported_of_mem_ofText {receiver source signature : List Char}
    (member : signature ∈ ofText receiver source) : isExported signature = true :=
  (Scan.start_exported.feedAll receiver (lines source)).found signature member

end InterfaceDraft.Signature
