import InterfaceDraft.Files.Workspace
import InterfaceDraft.Proofs.Text.Lines
import Mathlib.Data.List.DropRight

set_option autoImplicit false

namespace InterfaceDraft.Files

open Text

namespace Path

theorem splitAll_joinPieces {pieces : List Bytes} (some : pieces ≠ [])
    (whole : ∀ piece ∈ pieces, slash ∉ piece) : splitAll slash (joinPieces pieces) = pieces := by
  induction pieces with
  | nil => exact absurd rfl some
  | cons piece more ih =>
    obtain ⟨first, rest⟩ := List.forall_mem_cons.mp whole
    cases more with
    | nil => exact splitAll_of_not_mem first
    | cons next more =>
      rw [joinPieces, splitAll_append_cons, splitAll_of_not_mem first, ih (List.cons_ne_nil _ _) rest]
      · rfl
      · exact List.cons_ne_nil _ _

theorem dropIdleEnd_begins (body : List Bytes) : dropIdleEnd body <+: body :=
  List.rdropWhile_prefix isIdle body

theorem dropIdleEnd_eq_nil_iff {body : List Bytes} :
    dropIdleEnd body = [] ↔ ∀ piece ∈ body, isIdle piece = true :=
  List.rdropWhile_eq_nil_iff

theorem dropIdleEnd_last {body front : List Bytes} {name : Bytes}
    (shape : dropIdleEnd body = front ++ [name]) : isIdle name = false := by
  have some : dropIdleEnd body ≠ [] := by simp [shape]
  have last : ¬ isIdle ((dropIdleEnd body).getLast some) := List.rdropWhile_last_not isIdle body some
  simpa [shape] using last

-- What a path begins with decides how it is cut.
theorem leadAndBody_cases (p : Path) :
    (p.isAbsolute = true ∧ ∃ body, p.pieces = [] :: body ∧ p.leadAndBody = (.top, body)) ∨
    (p.isAbsolute = false ∧ ∃ body, p.pieces = here :: body ∧ p.leadAndBody = (.dot, body)) ∨
    (p.isAbsolute = false ∧ ∃ first more, isIdle first = false ∧ p.pieces = first :: more ∧
      p.leadAndBody = (.plain, first :: more)) ∨
    p = ⟨[]⟩ := by
  obtain ⟨bytes⟩ := p
  cases bytes with
  | nil => simp
  | cons b rest =>
    obtain ⟨piece, more, split⟩ := List.exists_cons_of_ne_nil (splitAll_ne_nil slash rest)
    by_cases top : b = slash
    · have pieces : pieces ⟨b :: rest⟩ = [] :: piece :: more := by simp [Path.pieces, splitAll, top, split]
      refine .inl ⟨by simp [isAbsolute, top], piece :: more, pieces, ?_⟩
      rw [leadAndBody, pieces]
      rfl
    · have pieces : pieces ⟨b :: rest⟩ = (b :: piece) :: more := by simp [Path.pieces, splitAll, top, split]
      have relative : isAbsolute ⟨b :: rest⟩ = false := by simp [isAbsolute, top]
      by_cases dotted : b :: piece = here
      · refine .inr (.inl ⟨relative, more, dotted ▸ pieces, ?_⟩)
        rw [leadAndBody, pieces, dotted]
        rfl
      · refine .inr (.inr (.inl ⟨relative, b :: piece, more, ?_, pieces, ?_⟩))
        · simp [isIdle, dotted]
        · rw [leadAndBody, pieces]
          simp [dotted]

-- A lead and pieces as they are cut from a path.
structure IsCut (lead : Lead) (body : List Bytes) : Prop where
  whole : ∀ piece ∈ body, slash ∉ piece
  plain : lead = .plain → ∀ first ∈ body.head?, isIdle first = false

theorem IsCut.begins {lead : Lead} {front body : List Bytes} (cut : IsCut lead body)
    (begins : front <+: body) : IsCut lead front := by
  refine ⟨fun piece member => cut.whole piece (begins.mem member), fun plain first member => ?_⟩
  obtain ⟨back, rfl⟩ := begins
  exact cut.plain plain first (List.mem_head?_append_of_mem_head? member)

theorem isCut_of_leadAndBody {p : Path} {lead : Lead} {body : List Bytes}
    (split : p.leadAndBody = (lead, body)) : IsCut lead body := by
  have whole : ∀ piece ∈ p.pieces, slash ∉ piece := fun _ => not_mem_of_mem_splitAll
  rcases p.leadAndBody_cases with ⟨-, more, pieces, cut⟩ | ⟨-, more, pieces, cut⟩ |
    ⟨-, first, more, named, pieces, cut⟩ | rfl
  · cases cut.symm.trans split
    exact ⟨fun piece member => whole piece (by simp [pieces, member]), by simp⟩
  · cases cut.symm.trans split
    exact ⟨fun piece member => whole piece (by simp [pieces, member]), by simp⟩
  · cases cut.symm.trans split
    exact ⟨pieces ▸ whole, by simp [named]⟩
  · cases split
    exact ⟨by simp, by simp⟩

def Lead.components : Lead → List Component
  | .top => [.top]
  | .dot => [.here]
  | .plain => []

-- The components of the pieces behind a lead.
def namesIn (body : List Bytes) : List Component :=
  (body.filter (!isIdle ·)).map Component.ofPiece

theorem components_of_leadAndBody {p : Path} {lead : Lead} {body : List Bytes}
    (split : p.leadAndBody = (lead, body)) : p.components = lead.components ++ namesIn body := by
  rw [components, split]
  cases lead <;> rfl

-- Pieces that are joined behind a lead are cut there again.
theorem leadAndBody_ofLeadAndBody {lead : Lead} {body : List Bytes} (cut : IsCut lead body)
    (some : body ≠ []) : (ofLeadAndBody lead body).leadAndBody = (lead, body) := by
  obtain ⟨first, more, rfl⟩ := List.exists_cons_of_ne_nil some
  have joined := splitAll_joinPieces (List.cons_ne_nil first more) cut.whole
  cases lead with
  | top =>
    have pieces : (ofLeadAndBody .top (first :: more)).pieces = [] :: first :: more := by
      simp [pieces, ofLeadAndBody, splitAll, joined]
    rw [leadAndBody, pieces]
    rfl
  | dot =>
    have pieces : (ofLeadAndBody .dot (first :: more)).pieces = here :: first :: more := by
      rw [pieces, ofLeadAndBody, splitAll_append_cons, joined]
      · rfl
      · simp
    rw [leadAndBody, pieces]
    rfl
  | plain =>
    have named := cut.plain rfl first rfl
    simp only [isIdle, Bool.or_eq_false_iff] at named
    have several : first ≠ [] := List.isEmpty_eq_false_iff.mp named.1
    have pieces : (ofLeadAndBody .plain (first :: more)).pieces = first :: more := joined
    rw [leadAndBody, pieces]
    simp [several, named.2]

theorem components_ofLeadAndBody {lead : Lead} {body : List Bytes} (cut : IsCut lead body) :
    (ofLeadAndBody lead body).components = lead.components ++ namesIn body := by
  cases body with
  | nil => cases lead <;> rfl
  | cons first more =>
    exact components_of_leadAndBody (leadAndBody_ofLeadAndBody cut (List.cons_ne_nil first more))

theorem dropIdleEnd_concat (body : List Bytes) (piece : Bytes) :
    dropIdleEnd (body ++ [piece]) = if isIdle piece then dropIdleEnd body else body ++ [piece] :=
  List.rdropWhile_concat isIdle body piece

theorem namesIn_dropIdleEnd (body : List Bytes) : namesIn (dropIdleEnd body) = namesIn body := by
  induction body using List.reverseRecOn with
  | nil => rfl
  | append_singleton body piece ih =>
    rw [dropIdleEnd_concat]
    split
    next idle =>
      rw [ih]
      simp [namesIn, idle]
    next => rfl

-- A parent lacks the last component.
theorem parent?_components {p q : Path} (above : p.parent? = some q) :
    ∃ last, p.components = q.components ++ [last] := by
  rcases split : p.leadAndBody with ⟨lead, body⟩
  have cut := isCut_of_leadAndBody split
  rw [components_of_leadAndBody split, ← namesIn_dropIdleEnd]
  rw [parent?, split] at above
  simp only at above
  rcases List.eq_nil_or_concat (dropIdleEnd body) with idle | ⟨front, name, named⟩
  · rw [idle] at above ⊢
    cases lead with
    | top | plain => cases above
    | dot =>
      cases above
      exact ⟨.here, rfl⟩
  · rw [List.concat_eq_append] at named
    rw [named] at above ⊢
    have higher : q = ofLeadAndBody lead (dropIdleEnd front) := by
      have dropped : (front ++ [name]).dropLast = front := List.dropLast_concat
      rw [← dropped]
      cases front <;> exact (Option.some.inj above).symm
    have begins : dropIdleEnd front <+: body :=
      (dropIdleEnd_begins front).trans ((List.prefix_append front [name]).trans
        (named ▸ dropIdleEnd_begins body))
    refine ⟨Component.ofPiece name, ?_⟩
    rw [higher, components_ofLeadAndBody (cut.begins begins), namesIn_dropIdleEnd]
    simp [namesIn, dropIdleEnd_last named]

theorem parent?_eq_none {p : Path} (alone : p.parent? = none) :
    p = ⟨[]⟩ ∨ p.isAbsolute = true ∧ ∀ piece ∈ p.pieces, isIdle piece = true := by
  have idle : dropIdleEnd p.leadAndBody.2 = [] := by
    rw [parent?] at alone
    cases named : dropIdleEnd p.leadAndBody.2 with
    | nil => rfl
    | cons => simp [named] at alone
  rcases p.leadAndBody_cases with ⟨absolute, body, pieces, cut⟩ | ⟨-, body, -, cut⟩ |
    ⟨-, first, more, named, -, cut⟩ | empty
  · rw [cut] at idle
    refine .inr ⟨absolute, ?_⟩
    rw [pieces, List.forall_mem_cons]
    exact ⟨rfl, dropIdleEnd_eq_nil_iff.mp idle⟩
  · rw [cut] at idle
    simp [parent?, cut, idle] at alone
  · rw [cut] at idle
    have idle := dropIdleEnd_eq_nil_iff.mp idle first List.mem_cons_self
    rw [named] at idle
    cases idle
  · exact .inl empty

theorem isIdle_of_mem_steps {p : Path} (idle : ∀ piece ∈ p.pieces, isIdle piece = true) :
    ∀ name ∈ p.steps, isIdle name = true := by
  intro name member
  unfold steps at member
  split at member
  · rcases List.mem_append.mp member with among | last
    · exact idle name (List.mem_of_mem_filter among)
    · rw [List.mem_singleton.mp last]
      rfl
  · exact idle name (List.mem_of_mem_filter member)

-- A path with the empty one for a parent goes a step from the working directory.
theorem parent?_eq_empty {p : Path} (above : p.parent? = some ⟨[]⟩) :
    p.isAbsolute = false ∧ p.steps ≠ [] := by
  have some {first : Name} (filled : first ≠ []) (member : first ∈ p.pieces) : p.steps ≠ [] := by
    have among : first ∈ p.names := by simp [names, member, filled]
    unfold steps
    split
    · simp
    · exact List.ne_nil_of_mem among
  rcases p.leadAndBody_cases with ⟨-, body, -, cut⟩ | ⟨relative, body, pieces, -⟩ |
    ⟨relative, first, more, named, pieces, -⟩ | rfl
  · rw [parent?, cut] at above
    cases named : dropIdleEnd body with
    | nil => simp [named] at above
    | cons => simp [named, ofLeadAndBody] at above
  · exact ⟨relative, some (List.cons_ne_nil dot []) (by simp [pieces, here])⟩
  · refine ⟨relative, some ?_ (pieces ▸ List.mem_cons_self)⟩
    rintro rfl
    cases named
  · cases above

end Path

end InterfaceDraft.Files
