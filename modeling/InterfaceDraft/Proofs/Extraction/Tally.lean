import InterfaceDraft.Extraction.Tally
import InterfaceDraft.Proofs.Text.Utf8

set_option autoImplicit false

namespace InterfaceDraft.Extraction.Tally

open Text

def signaturesOf? : Outcome Scanned → Option (List (List Char))
  | .ok (.ok signatures) => some signatures
  | _ => none

def failureOf? : Outcome Scanned → Option Error
  | .ok (.ok _) => none
  | .ok (.error error) => some error
  | .error error => some (errorOf error)

theorem absorb_eq (tally : Tally) (outcome : Outcome Scanned) :
    tally.absorb outcome =
      ⟨tally.perFile ++ (signaturesOf? outcome).toList, tally.errors ++ (failureOf? outcome).toList⟩ := by
  rcases outcome with error | error | signatures <;> simp [absorb, signaturesOf?, failureOf?]

theorem absorbAll_eq (tally : Tally) (outcomes : List (Outcome Scanned)) :
    tally.absorbAll outcomes =
      ⟨tally.perFile ++ outcomes.filterMap signaturesOf?,
        tally.errors ++ outcomes.filterMap failureOf?⟩ := by
  induction outcomes generalizing tally with
  | nil => simp [absorbAll]
  | cons outcome outcomes ih =>
    have next := ih (tally.absorb outcome)
    rw [absorb_eq] at next
    simp only [absorbAll, List.foldl_cons, absorb_eq] at next ⊢
    rw [next, List.filterMap_eq_flatMap_toList, List.filterMap_eq_flatMap_toList,
      List.filterMap_eq_flatMap_toList, List.filterMap_eq_flatMap_toList]
    simp only [List.flatMap_cons, List.append_assoc]

theorem absorbAll_append_singleton (tally : Tally) (outcomes : List (Outcome Scanned))
    (outcome : Outcome Scanned) :
    tally.absorbAll (outcomes ++ [outcome]) = (tally.absorbAll outcomes).absorb outcome := by
  simp [absorbAll]

theorem scanned_add_failed_absorbAll (tally : Tally) (outcomes : List (Outcome Scanned)) :
    (tally.absorbAll outcomes).scanned + (tally.absorbAll outcomes).failed =
      tally.scanned + tally.failed + outcomes.length := by
  induction outcomes generalizing tally with
  | nil => rfl
  | cons outcome outcomes ih =>
    have step := scanned_add_failed_absorb tally outcome
    have rest := ih (tally.absorb outcome)
    rw [List.length_cons]
    simp only [absorbAll, List.foldl_cons] at rest ⊢
    omega

theorem signatures_perm (tally : Tally) : tally.signatures.Perm tally.perFile.flatten :=
  List.mergeSort_perm _ _

theorem precedes_iff {a b : List Char} : precedes a b = true ↔ ¬ b < a := by
  simp [precedes]

def InByteOrder (texts : List (List Char)) : Prop :=
  texts.Pairwise fun a b => ¬ encode b < encode a

theorem signatures_inByteOrder (tally : Tally) : InByteOrder tally.signatures := by
  have sorted : tally.signatures.Pairwise fun a b => precedes a b = true := by
    apply List.pairwise_mergeSort
    · intro a b c first second
      rw [precedes_iff] at first second ⊢
      exact List.le_trans first second
    · intro a b
      rw [Bool.or_eq_true, precedes_iff, precedes_iff]
      exact List.le_total a b
  refine sorted.imp ?_
  intro a b ordered
  rw [encode_lt_iff]
  exact precedes_iff.mp ordered

-- No two texts have the same bytes, so a list in byte order is determined by its members.
theorem InByteOrder.eq_of_perm {first second : List (List Char)} (ordered : InByteOrder first)
    (alsoOrdered : InByteOrder second) (same : first.Perm second) : first = second := by
  refine same.eq_of_pairwise ?_ ordered alsoOrdered
  intro a b _ _ less greater
  rw [encode_lt_iff] at less greater
  exact List.le_antisymm less greater

end InterfaceDraft.Extraction.Tally
