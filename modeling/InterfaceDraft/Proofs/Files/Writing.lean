import InterfaceDraft.Proofs.Files.Resolution

set_option autoImplicit false

namespace InterfaceDraft.Files

open Text

-- The trees agree but for one location, which has a file afterwards and held no other entry before.
structure Tree.Written (before after : Tree) (location : Location) (content : Bytes) : Prop where
  spot : ∀ entry, before.get? location = some entry → entry.isFile = true
  agree : ∀ other,
    after.get? other = if other = location then some (.file content) else before.get? other

theorem Tree.written_put {tree : Tree} {location : Location}
    (spot : ∀ entry, tree.get? location = some entry → entry.isFile = true) (content : Bytes) :
    tree.Written (tree.put location (.file content)) location content := by
  -- The top and removed directories are always there, so they are no spot for a file.
  have ordinary : (location.isEmpty || isRemoved location) = false := by
    rw [Bool.eq_false_iff]
    intro lasting
    have directory : tree.get? location = some .directory := if_pos lasting
    exact absurd (spot .directory directory) (by decide)
  simp only [Bool.or_eq_false_iff, List.isEmpty_eq_false_iff] at ordinary
  exact ⟨spot, fun other => tree.get?_put location other (.file content) ordinary.1 ordinary.2⟩

namespace Tree.Written

variable {before after : Tree} {location : Location} {content : Bytes}

theorem here (written : before.Written after location content) :
    after.get? location = some (.file content) := by
  rw [written.agree, if_pos rfl]

theorem elsewhere (written : before.Written after location content) {other : Location}
    {entry : Entry} (there : before.get? other = some entry) (noFile : entry.isFile = false) :
    after.get? other = some entry := by
  have different : other ≠ location := by
    rintro rfl
    rw [written.spot entry there] at noFile
    cases noFile
  rw [written.agree, if_neg different, there]

theorem put (written : before.Written after location content) (later : Bytes) :
    before.Written (after.put location (.file later)) location later := by
  have again : after.Written (after.put location (.file later)) location later := by
    apply written_put
    intro entry there
    rw [written.here, Option.some.injEq] at there
    subst there
    rfl
  refine ⟨written.spot, fun other => ?_⟩
  rw [again.agree, written.agree]
  split <;> rfl

end Tree.Written

theorem Leads.of_written {before after : Tree} {location : Location} {content : Bytes}
    (written : before.Written after location content) {aim : Aim} {links : Nat}
    {current : Location} {names : List Name} {place : Place}
    (leads : Leads before aim links current names place) (ends : place.location = location) :
    Leads after aim links current names (.taken location (.file content)) := by
  induction leads with
  | arrive there =>
    obtain rfl := ends
    exact .arrive written.here
  | stay inside idle _ ih => exact .stay (written.elsewhere inside rfl) idle (ih ends)
  | up inside _ ih => exact .up (written.elsewhere inside rfl) (ih ends)
  | @down _ current name _ _ entry inside lookup there real _ ih =>
    have inside' := written.elsewhere inside rfl
    by_cases same : current ++ [name] = location
    · exact .down inside' lookup (same ▸ written.here) (by simp) (ih ends)
    · refine .down inside' lookup ?_ real (ih ends)
      rw [written.agree, if_neg same, there]
  | follow inside lookup there through _ ih =>
    exact .follow (written.elsewhere inside rfl) lookup (written.elsewhere there rfl) through
      (ih ends)
  | halt inside lookup there aimed =>
    obtain rfl := ends
    cases written.spot _ there
  | free inside lookup missing =>
    obtain rfl := ends
    exact .down (written.elsewhere inside rfl) lookup written.here (by simp) (.arrive written.here)

namespace Workspace

theorem stat_of_leads {w : Workspace} {p : Path} {location : Location} {entry : Entry}
    (resolved : w.resolveNames .content p p.steps = .ok (.taken location entry)) :
    w.stat p = .ok (location, entry) := by
  rw [stat, resolve, resolved]

theorem stat_of_written {w after : Workspace} {p : Path} {place : Place} {content : Bytes}
    (resolved : w.resolveNames .output p p.steps = .ok place)
    (written : w.tree.Written after.tree place.location content)
    (same : after.directory = w.directory) :
    after.stat p = .ok (place.location, .file content) := by
  obtain ⟨checked, leads⟩ := resolveNames_eq_ok_iff.mp resolved
  apply stat_of_leads
  rw [resolveNames_eq_ok_iff, same]
  exact ⟨checked, leads.content_of_output.of_written written rfl⟩

-- Opening a file for writing empties or makes it, unless it is a device.
theorem create_cases {w opened : Workspace} {p : Path} {location : Location}
    (created : w.create p = .ok (opened, location)) :
    (∃ place, w.resolveNames .output p p.steps = .ok place ∧ place.location = location ∧
      w.tree.Written opened.tree location [] ∧ opened.directory = w.directory) ∨
    ∃ device, w.stat p = .ok (location, .device device) ∧
      w.tree.get? location = some (.device device) ∧ opened = w := by
  unfold create at created
  split at created
  next => cases created
  next directory name resolved =>
    cases created
    have isIn := (resolveNames_eq_ok_iff.mp resolved).2.isIn
    refine .inl ⟨_, resolved, rfl, Tree.written_put ?_ [], rfl⟩
    intro entry there
    rw [isIn.2] at there
    cases there
  next old resolved =>
    cases created
    have isIn : w.tree.get? location = some (.file old) := (resolveNames_eq_ok_iff.mp resolved).2.isIn
    refine .inl ⟨_, resolved, rfl, Tree.written_put ?_ [], rfl⟩
    intro entry there
    rw [isIn, Option.some.injEq] at there
    subst there
    rfl
  next device resolved =>
    cases created
    obtain ⟨checked, leads⟩ := resolveNames_eq_ok_iff.mp resolved
    refine .inr ⟨device, stat_of_leads ?_, leads.isIn, rfl⟩
    exact resolveNames_eq_ok_iff.mpr ⟨checked, leads.content_of_output⟩
  next => cases created

-- The path leads to a file with just this content, or to the device that takes everything.
def Took (w : Workspace) (p : Path) (content : Bytes) : Prop :=
  ∃ location, w.stat p = .ok (location, .file content) ∨ w.stat p = .ok (location, .device .null)

theorem took_of_fill {w opened after : Workspace} {p : Path} {location : Location} {content : Bytes}
    (created : w.create p = .ok (opened, location)) (filled : opened.fill location content = .ok after)
    (some : content ≠ []) : after.Took p content := by
  refine ⟨location, ?_⟩
  rcases create_cases created with ⟨place, resolved, rfl, written, same⟩ | ⟨device, led, there, rfl⟩
  · rw [fill, written.here] at filled
    cases filled
    exact .inl (stat_of_written resolved (written.put content) same)
  · rw [fill, there] at filled
    cases device with
    | full => simp [some] at filled
    | null =>
      cases filled
      exact .inr led

end Workspace

end InterfaceDraft.Files
