import InterfaceDraft.Proofs.Interface.ReadBack
import InterfaceDraft.Proofs.Signature.Edits
import InterfaceDraft.Proofs.Signature.Exported

set_option autoImplicit false

namespace InterfaceDraft.Signature

open Text

-- Only at such a line the scan opens a declaration.
def Declares (raw : List Char) : Prop := startsWith keyword (trim raw) = true

instance (raw : List Char) : Decidable (Declares raw) := inferInstanceAs (Decidable (_ = true))

-- Nothing found and nothing open, be it inside a comment or not.
structure Scan.Idle (scan : Scan) : Prop where
  pending : scan.pending = none
  found : scan.found = []

theorem Scan.start_idle : Scan.start.Idle := ⟨rfl, rfl⟩

theorem declared?_of_startsWith {line : List Char} (plain : startsWith keyword line = false)
    (receiver : List Char) : declared? receiver line = none := by
  rw [startsWith, Option.isSome_eq_false_iff, Option.isNone_iff_eq_none] at plain
  simp [declared?, plain]

theorem Scan.Idle.feed {scan : Scan} (idle : scan.Idle) {raw : List Char} (plain : ¬ Declares raw)
    (receiver : List Char) : (scan.feed receiver raw).Idle := by
  have undeclared := declared?_of_startsWith (Bool.eq_false_iff.mpr plain) receiver
  unfold Scan.feed
  simp only
  split
  next => exact ⟨idle.pending, idle.found⟩
  next =>
    split
    next => exact idle
    next =>
      split
      next => exact ⟨idle.pending, idle.found⟩
      next =>
        have same : scan.read receiver (trim raw) = scan := by
          simp [Scan.read, idle.pending, undeclared]
        rw [same]
        exact idle

theorem Scan.Idle.feedAll {scan : Scan} (idle : scan.Idle) {raws : List (List Char)}
    (plain : ∀ raw ∈ raws, ¬ Declares raw) (receiver : List Char) :
    (scan.feedAll receiver raws).Idle := by
  induction raws generalizing scan with
  | nil => exact idle
  | cons raw raws ih =>
    rw [Scan.feedAll_cons]
    apply ih (idle.feed (plain raw List.mem_cons_self) receiver)
    exact fun raw member => plain raw (List.mem_cons_of_mem _ member)

theorem ofText_of_plain {source : List Char}
    (plain : ∀ piece ∈ splitAll '\n' source, ¬ Declares piece) (receiver : List Char) :
    ofText receiver source = [] := by
  rw [ofText, ofLines, lines, linesWith, feedAll_linesOfPieces]
  exact (Scan.start_idle.feedAll plain receiver).found

theorem not_declares_nil : ¬ Declares [] := by decide

-- The first character that is not blank decides.
theorem not_declares_of_first (lead : List Char) (blank : ∀ c ∈ lead, isBlank c = true) {c : Char}
    (filled : isBlank c = false) (other : c ≠ 'f') (rest : List Char) :
    ¬ Declares (lead ++ c :: rest) := by
  have trimmed : trim (lead ++ c :: rest) = c :: trimEnd rest := by
    rw [trim_blank_append blank, trim, trimStart_eq_self_iff.mpr (by simpa using filled),
      trimEnd_cons filled]
  rw [Declares, trimmed]
  exact Bool.eq_false_iff.mp (startsWith_of_head other _ _)

end InterfaceDraft.Signature

namespace InterfaceDraft.Interface

open Text Signature

theorem Extracted.exported {signatures : List (List Char)} (extracted : Extracted signatures) :
    ∀ signature ∈ signatures, isExported signature = true := by
  intro signature member
  obtain ⟨receiver, source, found⟩ := extracted signature member
  exact isExported_of_mem_ofText found

theorem not_declares_signature {signature : List Char} (exported : isExported signature = true) :
    ¬ Declares ('\t' :: signature) := by
  obtain ⟨c, rest, rfl, upper⟩ := isExported_iff.mp exported
  have other : c ≠ 'f' := by
    rintro rfl
    revert upper
    decide
  have tab : ∀ c ∈ ['\t'], isBlank c = true := List.all_eq_true.mp rfl
  exact not_declares_of_first ['\t'] tab (isBlank_of_isUppercase upper) other rest

theorem Style.not_declares_header (style : Style) (name : List Char) :
    ¬ Declares (style.header name) := by
  cases style with
  | bare => exact not_declares_of_first [] (by simp) (by decide : isBlank 'i' = false) (by decide) _
  | go => exact not_declares_of_first [] (by simp) (by decide : isBlank 't' = false) (by decide) _

theorem Draft.not_declares_ownLines (draft : Draft) {signatures : List (List Char)}
    (exported : ∀ signature ∈ signatures, isExported signature = true) :
    ∀ line ∈ draft.ownLines signatures, ¬ Declares line := by
  simp only [ownLines, List.mem_cons, List.mem_append, List.mem_map, List.not_mem_nil, or_false]
  rintro line (rfl | ⟨signature, member, rfl⟩ | rfl)
  · exact draft.style.not_declares_header draft.name
  · exact not_declares_signature (exported signature member)
  · decide

-- No line of the injected text begins a method declaration.
def Draft.InjectsNoMethod (draft : Draft) : Prop :=
  ∀ text ∈ draft.inject, ∀ line ∈ lines (expandEscapes text), ¬ Declares line

instance (draft : Draft) : Decidable draft.InjectsNoMethod :=
  inferInstanceAs (Decidable (∀ text ∈ draft.inject, ∀ line ∈ _, ¬ Declares line))

theorem not_declares_of_lines {text : List Char} (plain : ∀ line ∈ lines text, ¬ Declares line) :
    ∀ piece ∈ splitAll '\n' text, ¬ Declares piece := by
  unfold lines linesWith at plain
  generalize splitAll '\n' text = pieces at plain
  fun_induction linesOfPieces '\r' pieces with
  | case1 => simp
  | case2 last empty =>
    rw [List.isEmpty_iff] at empty
    simpa [empty] using not_declares_nil
  | case3 last full => exact plain
  | case4 piece more _ ih =>
    intro other member
    rcases List.mem_cons.mp member with rfl | later
    · have chomped := plain _ List.mem_cons_self
      rwa [Declares, trim_chompReturn] at chomped
    · exact ih (fun line inside => plain line (List.mem_cons_of_mem _ inside)) other later

-- Lines that are written one after the other, each ended by a line feed.
theorem not_declares_endedTexts {texts : List (List Char)}
    (plain : ∀ text ∈ texts, ∀ piece ∈ splitAll '\n' text, ¬ Declares piece) {behind : List Char}
    (alsoPlain : ∀ piece ∈ splitAll '\n' behind, ¬ Declares piece) :
    ∀ piece ∈ splitAll '\n' (texts.flatMap (· ++ ['\n']) ++ behind), ¬ Declares piece := by
  induction texts with
  | nil => simpa using alsoPlain
  | cons text texts ih =>
    have rest := ih fun text member => plain text (List.mem_cons_of_mem _ member)
    rw [List.flatMap_cons, List.append_assoc, List.append_assoc, List.singleton_append,
      splitAll_append_cons]
    intro piece member
    rcases List.mem_append.mp member with first | later
    · exact plain text List.mem_cons_self piece first
    · exact rest piece later

theorem Draft.preface_texts (draft : Draft) :
    ∃ texts : List (List Char), draft.preface = texts.flatMap (· ++ ['\n']) ∧
      ∀ text ∈ texts, text = [] ∨ (∃ package ∈ draft.package, text = "package ".toList ++ package) ∨
        ∃ line ∈ draft.inject, text = expandEscapes line := by
  have packaged : ∃ texts : List (List Char), draft.packagePieces.flatten = texts.flatMap (· ++ ['\n']) ∧
      ∀ text ∈ texts, text = [] ∨ ∃ package ∈ draft.package, text = "package ".toList ++ package := by
    unfold packagePieces
    split
    next => exact ⟨[], rfl, by simp⟩
    next package given =>
      split
      next => exact ⟨[], rfl, by simp⟩
      next =>
        refine ⟨["package ".toList ++ package, []], by simp, ?_⟩
        simp [given]
  have injected : ∃ texts : List (List Char), draft.injectPieces.flatten = texts.flatMap (· ++ ['\n']) ∧
      ∀ text ∈ texts, text = [] ∨ ∃ line ∈ draft.inject, text = expandEscapes line := by
    unfold injectPieces
    split
    next => exact ⟨[], rfl, by simp⟩
    next =>
      refine ⟨draft.inject.map expandEscapes ++ [[]], ?_, ?_⟩
      · simp [List.flatMap_def, Function.comp_def]
      · intro text member
        rcases List.mem_append.mp member with inside | last
        · obtain ⟨line, among, rfl⟩ := List.mem_map.mp inside
          exact .inr ⟨line, among, rfl⟩
        · exact .inl (List.mem_singleton.mp last)
  obtain ⟨first, packageText, firstCases⟩ := packaged
  obtain ⟨second, injectText, secondCases⟩ := injected
  refine ⟨first ++ second, ?_, ?_⟩
  · rw [preface, List.flatten_append, packageText, injectText, List.flatMap_append]
  · intro text member
    rcases List.mem_append.mp member with inFirst | inSecond
    · exact (firstCases text inFirst).imp_right .inl
    · exact (secondCases text inSecond).imp_right .inr

theorem Draft.ofText_render {draft : Draft} (nameFlat : '\n' ∉ draft.name)
    (packageFlat : ∀ package ∈ draft.package, '\n' ∉ package) (noMethod : draft.InjectsNoMethod)
    {signatures : List (List Char)} (extracted : Extracted signatures) (receiver : List Char) :
    ofText receiver (draft.render signatures) = [] := by
  apply ofText_of_plain
  have own : ∀ piece ∈ splitAll '\n' ((draft.ownLines signatures).flatMap (· ++ ['\n'])), ¬ Declares piece := by
    rw [← List.append_nil (List.flatMap _ _), splitAll_endedLines (Draft.ownLines_flat nameFlat extracted.flat)]
    intro piece member
    rcases List.mem_append.mp member with inside | last
    · exact draft.not_declares_ownLines extracted.exported piece inside
    · rw [List.mem_singleton.mp last]
      exact not_declares_nil
  obtain ⟨texts, prefaced, cases⟩ := draft.preface_texts
  rw [draft.render_eq, prefaced]
  refine not_declares_endedTexts ?_ own
  intro text member piece among
  rcases cases text member with rfl | ⟨package, given, rfl⟩ | ⟨line, given, rfl⟩
  · rw [List.mem_singleton.mp among]
    exact not_declares_nil
  · have flat : '\n' ∉ "package ".toList ++ package := by
      simpa using packageFlat package given
    rw [splitAll_of_not_mem flat, List.mem_singleton] at among
    rw [among]
    exact not_declares_of_first [] (by simp) (by decide : isBlank 'p' = false) (by decide) _
  · exact not_declares_of_lines (noMethod line given) piece among

end InterfaceDraft.Interface
