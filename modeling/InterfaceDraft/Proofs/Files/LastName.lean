import InterfaceDraft.Proofs.Files.Components

set_option autoImplicit false

namespace InterfaceDraft.Files.Path

open Text

-- Slashes, and dots that stand alone behind a slash.
inductive IsTrail : Bytes → Prop
  | none : IsTrail []
  | slashed {rest : Bytes} (trail : IsTrail rest) : IsTrail (slash :: rest)
  | dotted {rest : Bytes} (trail : IsTrail rest) : IsTrail (slash :: dot :: rest)

-- The name is all that stands between a slash, or the beginning, and the trail of the path.
structure IsNamed (p : Path) (name : Name) : Prop where
  whole : slash ∉ name
  filled : name ≠ []
  notHere : name ≠ here
  notAbove : name ≠ above
  stands : ∃ front trail, p.bytes = front ++ (name ++ trail) ∧ IsTrail trail ∧
    (front = [] ∨ front.getLast? = some slash)

theorem joinPieces_cons {piece : Bytes} {more : List Bytes} (some : more ≠ []) :
    joinPieces (piece :: more) = piece ++ slash :: joinPieces more := by
  cases more with
  | nil => exact absurd rfl some
  | cons => rfl

theorem joinPieces_splitAll (bytes : Bytes) : joinPieces (splitAll slash bytes) = bytes := by
  induction bytes with
  | nil => rfl
  | cons b bytes ih =>
    obtain ⟨piece, more, split⟩ := List.exists_cons_of_ne_nil (splitAll_ne_nil slash bytes)
    rw [split] at ih
    by_cases cut : b = slash
    · rw [splitAll, if_pos (by simp [cut]), split, joinPieces_cons (List.cons_ne_nil _ _), ih, cut]
      rfl
    · rw [splitAll, if_neg (by simp [cut]), split]
      cases more with
      | nil => rw [← ih]; rfl
      | cons => rw [← ih]; rfl

theorem joinPieces_front (front : List Bytes) {rest : List Bytes} (some : rest ≠ []) :
    joinPieces (front ++ rest) = front.flatMap (· ++ [slash]) ++ joinPieces rest := by
  induction front with
  | nil => rfl
  | cons piece front ih =>
    rw [List.cons_append, joinPieces_cons (by simp [some]), ih]
    simp

theorem joinPieces_trail (name : Name) (idle : List Bytes) :
    joinPieces (name :: idle) = name ++ idle.flatMap (slash :: ·) := by
  induction idle generalizing name with
  | nil => simp [joinPieces]
  | cons piece idle ih => rw [joinPieces_cons (List.cons_ne_nil _ _), ih, List.flatMap_cons]; rfl

theorem isTrail_of_idle {idle : List Bytes} (nothing : ∀ piece ∈ idle, isIdle piece = true) :
    IsTrail (idle.flatMap (slash :: ·)) := by
  induction idle with
  | nil => exact .none
  | cons piece idle ih =>
    obtain ⟨first, rest⟩ := List.forall_mem_cons.mp nothing
    rw [isIdle, Bool.or_eq_true, List.isEmpty_iff, beq_iff_eq] at first
    rcases first with rfl | rfl
    · exact .slashed (ih rest)
    · exact .dotted (ih rest)

theorem IsTrail.exists_idle {trail : Bytes} (shape : IsTrail trail) :
    ∃ idle : List Bytes, trail = idle.flatMap (slash :: ·) ∧ ∀ piece ∈ idle, isIdle piece = true := by
  induction shape with
  | none => exact ⟨[], rfl, by simp⟩
  | slashed _ ih =>
    obtain ⟨idle, rfl, nothing⟩ := ih
    exact ⟨[] :: idle, rfl, List.forall_mem_cons.mpr ⟨rfl, nothing⟩⟩
  | dotted _ ih =>
    obtain ⟨idle, rfl, nothing⟩ := ih
    exact ⟨here :: idle, rfl, List.forall_mem_cons.mpr ⟨rfl, nothing⟩⟩

theorem splitAll_trail {name : Name} (whole : slash ∉ name) {idle : List Bytes}
    (nothing : ∀ piece ∈ idle, isIdle piece = true) :
    splitAll slash (name ++ idle.flatMap (slash :: ·)) = name :: idle := by
  rw [← joinPieces_trail]
  apply splitAll_joinPieces (List.cons_ne_nil _ _)
  rw [List.forall_mem_cons]
  refine ⟨whole, fun piece member => ?_⟩
  have idle := nothing piece member
  rw [isIdle, Bool.or_eq_true, List.isEmpty_iff, beq_iff_eq] at idle
  rcases idle with rfl | rfl
  · exact List.not_mem_nil
  · decide

theorem dropIdleEnd_append {idle : List Bytes} (nothing : ∀ piece ∈ idle, isIdle piece = true)
    (body : List Bytes) : dropIdleEnd (body ++ idle) = dropIdleEnd body := by
  induction idle using List.reverseRecOn with
  | nil => rw [List.append_nil]
  | append_singleton idle piece ih =>
    rw [← List.append_assoc, dropIdleEnd_concat, if_pos (nothing piece (by simp))]
    exact ih fun piece member => nothing piece (List.mem_append_left _ member)

theorem leadAndBody_behind {p : Path} {front rest : List Bytes} {name : Name}
    (pieces : p.pieces = front ++ name :: rest) (named : isIdle name = false) :
    ∃ body, p.leadAndBody.2 = body ++ name :: rest := by
  have behind {first : Name} {more : List Bytes} (idle : isIdle first = true)
      (split : p.pieces = first :: more) : ∃ body, more = body ++ name :: rest := by
    rw [pieces] at split
    cases front with
    | nil =>
      cases split
      rw [named] at idle
      cases idle
    | cons _ body =>
      cases split
      exact ⟨body, rfl⟩
  rcases p.leadAndBody_cases with ⟨-, body, split, cut⟩ | ⟨-, body, split, cut⟩ |
    ⟨-, first, more, -, split, cut⟩ | rfl
  · rw [cut]
    exact behind rfl split
  · rw [cut]
    exact behind rfl split
  · rw [cut]
    exact ⟨front, split.symm.trans pieces⟩
  · obtain ⟨_, impossible⟩ := behind rfl (rfl : Path.pieces ⟨[]⟩ = [] :: [])
    simp at impossible

theorem fileName?_of_pieces {p : Path} {front idle : List Bytes} {name : Name}
    (pieces : p.pieces = front ++ name :: idle) (named : isIdle name = false) (proper : name ≠ above)
    (nothing : ∀ piece ∈ idle, isIdle piece = true) : p.fileName? = some name := by
  obtain ⟨body, last⟩ := leadAndBody_behind pieces named
  rw [fileName?, last, List.append_cons, dropIdleEnd_append nothing, dropIdleEnd_concat, named]
  simp [proper]

theorem exists_idleEnd (body : List Bytes) :
    ∃ idle, body = dropIdleEnd body ++ idle ∧ ∀ piece ∈ idle, isIdle piece = true :=
  ⟨body.rtakeWhile isIdle, List.rdropWhile_append_rtakeWhile.symm, fun _ => List.mem_rtakeWhile_imp⟩

theorem exists_lead (p : Path) : ∃ lead, p.pieces = lead ++ p.leadAndBody.2 := by
  rcases p.leadAndBody_cases with ⟨-, body, pieces, cut⟩ | ⟨-, body, pieces, cut⟩ |
    ⟨-, first, more, -, pieces, cut⟩ | rfl
  · exact ⟨[[]], by rw [pieces, cut]; rfl⟩
  · exact ⟨[here], by rw [pieces, cut]; rfl⟩
  · exact ⟨[], by rw [pieces, cut]; rfl⟩
  · exact ⟨[[]], rfl⟩

theorem last_of_fileName? {p : Path} {name : Name} (found : p.fileName? = some name) :
    name ≠ above ∧ ∃ named, dropIdleEnd p.leadAndBody.2 = named ++ [name] := by
  unfold fileName? at found
  split at found
  next => cases found
  next last shape =>
    split at found
    next => cases found
    next proper =>
      cases found
      exact ⟨by simpa using proper, List.getLast?_eq_some_iff.mp shape⟩

theorem pieces_of_fileName? {p : Path} {name : Name} (found : p.fileName? = some name) :
    isIdle name = false ∧ name ≠ above ∧
      ∃ front idle, p.pieces = front ++ name :: idle ∧ ∀ piece ∈ idle, isIdle piece = true := by
  obtain ⟨proper, named, last⟩ := last_of_fileName? found
  obtain ⟨idle, body, nothing⟩ := exists_idleEnd p.leadAndBody.2
  obtain ⟨lead, pieces⟩ := p.exists_lead
  refine ⟨dropIdleEnd_last last, proper, lead ++ named, idle, ?_, nothing⟩
  rw [pieces, body, last]
  simp

theorem isNamed_of_pieces {p : Path} {front idle : List Bytes} {name : Name}
    (pieces : p.pieces = front ++ name :: idle) (named : isIdle name = false) (proper : name ≠ above)
    (nothing : ∀ piece ∈ idle, isIdle piece = true) : p.IsNamed name := by
  have bytes : p.bytes = front.flatMap (· ++ [slash]) ++ (name ++ idle.flatMap (slash :: ·)) := by
    rw [← joinPieces_trail, ← joinPieces_front front (List.cons_ne_nil _ _), ← pieces]
    exact (joinPieces_splitAll p.bytes).symm
  rw [isIdle, Bool.or_eq_false_iff, List.isEmpty_eq_false_iff, beq_eq_false_iff_ne] at named
  refine ⟨?_, named.1, named.2, proper, _, _, bytes, isTrail_of_idle nothing, ?_⟩
  · apply not_mem_of_mem_splitAll (t := p.bytes)
    change name ∈ p.pieces
    simp [pieces]
  · rcases List.eq_nil_or_concat front with rfl | ⟨front, last, rfl⟩
    · exact .inl rfl
    · exact .inr (by simp)

theorem IsNamed.pieces {p : Path} {name : Name} (named : p.IsNamed name) :
    ∃ front idle, p.pieces = front ++ name :: idle ∧ ∀ piece ∈ idle, isIdle piece = true := by
  obtain ⟨front, trail, bytes, shape, start⟩ := named.stands
  obtain ⟨idle, rfl, nothing⟩ := shape.exists_idle
  have behind := splitAll_trail named.whole nothing
  rcases start with rfl | start
  · exact ⟨[], idle, by rw [Path.pieces, bytes]; exact behind, nothing⟩
  · obtain ⟨front, rfl⟩ := List.getLast?_eq_some_iff.mp start
    refine ⟨splitAll slash front, idle, ?_, nothing⟩
    rw [Path.pieces, bytes, List.append_assoc, List.singleton_append, splitAll_append_cons, behind]

theorem fileName?_eq_some_iff {p : Path} {name : Name} : p.fileName? = some name ↔ p.IsNamed name := by
  constructor
  · intro found
    obtain ⟨named, proper, front, idle, pieces, nothing⟩ := pieces_of_fileName? found
    exact isNamed_of_pieces pieces named proper nothing
  · intro named
    obtain ⟨front, idle, pieces, nothing⟩ := named.pieces
    apply fileName?_of_pieces pieces _ named.notAbove nothing
    simp [isIdle, named.filled, named.notHere]

theorem IsNamed.unique {p : Path} {first second : Name} (named : p.IsNamed first)
    (also : p.IsNamed second) : first = second := by
  rw [← fileName?_eq_some_iff] at named also
  exact Option.some.inj (named.symm.trans also)

end InterfaceDraft.Files.Path
