import InterfaceDraft.Interface.Draft
import InterfaceDraft.Proofs.Signature.Characters

set_option autoImplicit false

namespace InterfaceDraft.Interface

open Text Signature

-- The lines of a text from the last one that is not empty upwards.
def linesUpwards (text : List Char) : List (List Char) :=
  (splitAll '\n' text).reverse.dropWhile List.isEmpty

-- The longest run of lines directly above the last one that begin with a tab, from above.
def tabbedAboveLast (text : List Char) : List (List Char) :=
  ((linesUpwards text).tail.takeWhile (startsWith ['\t'])).reverse

-- What stands before the header.
def Draft.preface (draft : Draft) : List Char :=
  (draft.packagePieces ++ draft.injectPieces).flatten

def Draft.ownLines (draft : Draft) (signatures : List (List Char)) : List (List Char) :=
  draft.style.header draft.name :: (signatures.map ('\t' :: ·) ++ [['\x7d']])

theorem Draft.render_eq (draft : Draft) (signatures : List (List Char)) :
    draft.render signatures =
      draft.preface ++ (draft.ownLines signatures).flatMap (· ++ ['\n']) := by
  have own : signatures.map signatureLine = (signatures.map ('\t' :: ·)).map (· ++ ['\n']) := by
    rw [List.map_map]
    rfl
  simp [render, pieces, preface, ownLines, own, List.flatMap_def]

theorem Draft.preface_ended (draft : Draft) :
    draft.preface = [] ∨ ∃ front, draft.preface = front ++ ['\n'] := by
  unfold preface
  by_cases injected : draft.inject = []
  · have none : draft.injectPieces = [] := by simp [injectPieces, injected]
    rw [none, List.append_nil, packagePieces]
    split
    · exact .inl rfl
    next package _ =>
      split
      · exact .inl rfl
      · exact .inr ⟨"package ".toList ++ package ++ ['\n'], by simp⟩
  · refine .inr ⟨(draft.packagePieces ++ draft.inject.map (expandEscapes · ++ ['\n'])).flatten, ?_⟩
    simp [injectPieces, injected]

theorem Style.header_bare (name : List Char) :
    Style.bare.header name = "interface ".toList ++ name ++ " \x7b".toList := rfl

theorem Style.header_go (name : List Char) :
    Style.go.header name = "type ".toList ++ name ++ " interface \x7b".toList := rfl

theorem Style.header_flat {name : List Char} (flat : '\n' ∉ name) (style : Style) :
    '\n' ∉ style.header name := by
  cases style with
  | bare =>
    rw [header_bare]
    simp [flat]
  | go =>
    rw [header_go]
    simp [flat]

theorem Style.header_untabbed (style : Style) (name : List Char) :
    startsWith ['\t'] (style.header name) = false := by
  cases style with
  | bare =>
    rw [header_bare]
    simp [startsWith, dropLead?]
  | go =>
    rw [header_go]
    simp [startsWith, dropLead?]

theorem Draft.ownLines_flat {draft : Draft} (nameFlat : '\n' ∉ draft.name)
    {signatures : List (List Char)} (flat : ∀ signature ∈ signatures, '\n' ∉ signature) :
    ∀ line ∈ draft.ownLines signatures, '\n' ∉ line := by
  simp only [ownLines, List.mem_cons, List.mem_append, List.mem_map, List.not_mem_nil, or_false]
  rintro line (rfl | ⟨signature, member, rfl⟩ | rfl)
  · exact Style.header_flat nameFlat draft.style
  · simpa using flat signature member
  · decide

theorem Draft.splitAll_render {draft : Draft} (nameFlat : '\n' ∉ draft.name)
    {signatures : List (List Char)} (flat : ∀ signature ∈ signatures, '\n' ∉ signature) :
    ∃ above, splitAll '\n' (draft.render signatures) = above ++ (draft.ownLines signatures ++ [[]]) := by
  have own := splitAll_endedLines (ownLines_flat nameFlat flat) []
  rw [List.append_nil] at own
  rw [render_eq]
  rcases draft.preface_ended with empty | ⟨front, ended⟩
  · refine ⟨[], ?_⟩
    rw [empty, List.nil_append, own]
    rfl
  · refine ⟨splitAll '\n' front, ?_⟩
    rw [ended, List.append_assoc, List.singleton_append, splitAll_append_cons, own]
    rfl

theorem Draft.linesUpwards_render {draft : Draft} (nameFlat : '\n' ∉ draft.name)
    {signatures : List (List Char)} (flat : ∀ signature ∈ signatures, '\n' ∉ signature) :
    ∃ above, linesUpwards (draft.render signatures) =
      ['\x7d'] :: ((signatures.map ('\t' :: ·)).reverse ++ draft.style.header draft.name :: above) := by
  obtain ⟨above, split⟩ := splitAll_render nameFlat flat
  refine ⟨above.reverse, ?_⟩
  rw [linesUpwards, split]
  simp [ownLines]

theorem Draft.tabbedAboveLast_render {draft : Draft} (nameFlat : '\n' ∉ draft.name)
    {signatures : List (List Char)} (flat : ∀ signature ∈ signatures, '\n' ∉ signature) :
    tabbedAboveLast (draft.render signatures) = signatures.map ('\t' :: ·) := by
  obtain ⟨above, upwards⟩ := linesUpwards_render nameFlat flat
  have tabbed : ∀ line ∈ (signatures.map ('\t' :: ·)).reverse, startsWith ['\t'] line = true := by
    intro line member
    obtain ⟨signature, -, rfl⟩ := List.mem_map.mp (List.mem_reverse.mp member)
    exact startsWith_iff.mpr ⟨signature, rfl⟩
  rw [tabbedAboveLast, upwards, List.tail_cons, List.takeWhile_append_of_pos tabbed,
    List.takeWhile_cons_of_neg (by simp [Style.header_untabbed]), List.append_nil, List.reverse_reverse]

-- Every signature was found in some source, so the list may join, sort and repeat such findings.
def Extracted (signatures : List (List Char)) : Prop :=
  ∀ signature ∈ signatures, ∃ receiver source, signature ∈ ofText receiver source

theorem Extracted.flat {signatures : List (List Char)} (extracted : Extracted signatures) :
    ∀ signature ∈ signatures, '\n' ∉ signature := by
  intro signature member
  obtain ⟨receiver, source, found⟩ := extracted signature member
  exact flat_of_mem_ofText found

theorem signatures_read_back {draft : Draft} (nameFlat : '\n' ∉ draft.name)
    {signatures : List (List Char)} (extracted : Extracted signatures) :
    (linesUpwards (draft.render signatures)).head? = some ['\x7d'] ∧
    tabbedAboveLast (draft.render signatures) = signatures.map ('\t' :: ·) ∧
    ∀ (other : Draft) (others : List (List Char)), '\n' ∉ other.name → Extracted others →
      other.render others = draft.render signatures → others = signatures := by
  have readBack := Draft.tabbedAboveLast_render nameFlat extracted.flat
  refine ⟨?_, readBack, ?_⟩
  · obtain ⟨above, upwards⟩ := Draft.linesUpwards_render nameFlat extracted.flat
    rw [upwards, List.head?_cons]
  · intro other others otherFlat alsoExtracted same
    have alsoReadBack := Draft.tabbedAboveLast_render otherFlat alsoExtracted.flat
    rw [same, readBack] at alsoReadBack
    exact (List.map_injective_iff.mpr (List.cons_injective) alsoReadBack).symm

-- The injected text looks like an interface with a method of its own.
theorem signatures_read_back_injected :
    let draft : Draft :=
      ⟨"Store".toList, some "p".toList, ["interface X \x7b\\n\\tFake()".toList], .go⟩
    let signatures := ["Put(a string)".toList, "Get()".toList]
    Extracted signatures ∧
      (linesUpwards (draft.render signatures)).head? = some ['\x7d'] ∧
      tabbedAboveLast (draft.render signatures) = signatures.map ('\t' :: ·) := by
  intro draft signatures
  have extracted : Extracted signatures := by
    intro signature member
    simp only [signatures, List.mem_cons, List.not_mem_nil, or_false] at member
    rcases member with rfl | rfl
    · exact ⟨"T".toList, "func (t *T) Put(\n\ta string,\n) \x7b\n".toList, by decide⟩
    · exact ⟨"S".toList, "func (S) Get() \x7b\x7d".toList, by decide⟩
  have nameFlat : '\n' ∉ draft.name := by decide
  obtain ⟨last, tabbed, -⟩ := signatures_read_back nameFlat extracted
  exact ⟨extracted, last, tabbed⟩

end InterfaceDraft.Interface
