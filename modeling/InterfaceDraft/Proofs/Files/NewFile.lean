import InterfaceDraft.Proofs.Files.Descent
import InterfaceDraft.Proofs.Files.Writing

set_option autoImplicit false

namespace InterfaceDraft.Files

open Text

namespace Tree

theorem put_of_missing {tree : Tree} {location : Location}
    (missing : tree.entries.lookup location = none) (entry : Entry) :
    tree.put location entry = ⟨tree.entries ++ [(location, entry)]⟩ := by
  simp [put, missing]

theorem put_put {tree : Tree} {location : Location} (missing : tree.entries.lookup location = none)
    (first second : Entry) :
    (tree.put location first).put location second = tree.put location second := by
  have kept : (tree.entries.map fun e => if e.1 = location then (location, second) else e) =
      tree.entries := by
    have unchanged : ∀ e ∈ tree.entries, (if e.1 = location then (location, second) else e) = e := by
      intro e member
      have different := List.lookup_eq_none_iff.mp missing e member
      rw [bne_iff_ne] at different
      rw [if_neg different.symm]
    rw [List.map_congr_left unchanged, List.map_id']
  rw [put_of_missing missing, put_of_missing missing, put]
  simp [List.lookup_append, missing, kept]

end Tree

theorem Tree.Proper.put {tree : Tree} (proper : tree.Proper) {directory : Location} {name : Name}
    (inside : tree.get? directory = some .directory) (present : isRemoved directory = false)
    (named : IsName name) (missing : tree.get? (directory ++ [name]) = none) (entry : Entry) :
    (tree.put (directory ++ [name]) entry).Proper := by
  obtain ⟨filled, lasting, absent⟩ := lookup_of_get?_none missing
  have kept {other : Location} (there : tree.get? other = some .directory) :
      (tree.put (directory ++ [name]) entry).get? other = some .directory := by
    rw [tree.get?_put _ _ _ filled lasting, if_neg, there]
    rintro rfl
    rw [missing] at there
    cases there
  have entries : (tree.put (directory ++ [name]) entry).entries =
      tree.entries ++ [(directory ++ [name], entry)] := by
    rw [put_of_missing absent]
  refine ⟨⟨?_, ?_⟩, ?_⟩
  · rw [entries, List.map_append, List.nodup_append]
    refine ⟨proper.formed.1, by simp, ?_⟩
    rintro location among _ last rfl
    obtain ⟨e, member, rfl⟩ := List.mem_map.mp among
    have found := proper.get?_of_mem member
    rw [List.map_singleton, List.mem_singleton] at last
    rw [last, missing] at found
    cases found
  · intro e member
    rw [entries, List.mem_append, List.mem_singleton] at member
    rcases member with old | rfl
    · obtain ⟨some, stays, parent⟩ := proper.formed.2 e old
      exact ⟨some, stays, kept parent⟩
    · refine ⟨filled, lasting, ?_⟩
      rw [List.dropLast_concat]
      exact kept inside
  · intro e member
    rw [entries, List.mem_append, List.mem_singleton] at member
    rcases member with old | rfl
    · exact proper.named e old
    · intro other among
      rcases List.mem_append.mp among with above | last
      · exact proper.isName_of_get? inside present other above
      · rw [List.mem_singleton.mp last]
        exact named

section Leading

variable {before after : Tree} {directory : Location} {name : Name} {content : Bytes}
  (written : before.Written after (directory ++ [name]) content)
  (missing : before.get? (directory ++ [name]) = none)

include written missing

theorem Tree.Written.kept {other : Location} {entry : Entry} (there : before.get? other = some entry) :
    after.get? other = some entry := by
  rw [written.agree, if_neg, there]
  rintro rfl
  rw [missing] at there
  cases there

theorem Leads.after_new {aim : Aim} {links : Nat} {current : Location} {names : List Name}
    {place : Place} (leads : Leads before aim links current names place)
    (other : place ≠ .free directory name) : Leads after aim links current names place := by
  have kept {other : Location} {entry : Entry} (there : before.get? other = some entry) :
      after.get? other = some entry := written.kept missing there
  induction leads with
  | arrive there => exact .arrive (kept there)
  | stay inside idle _ ih => exact .stay (kept inside) idle (ih other)
  | up inside _ ih => exact .up (kept inside) (ih other)
  | down inside lookup there real _ ih => exact .down (kept inside) lookup (kept there) real (ih other)
  | follow inside lookup there through _ ih =>
    exact .follow (kept inside) lookup (kept there) through (ih other)
  | halt inside lookup there aimed => exact .halt (kept inside) lookup (kept there) aimed
  | @free _ current last inside lookup vacant =>
    refine .free (kept inside) lookup ?_
    rw [written.agree, if_neg, vacant]
    intro same
    obtain ⟨rfl, sameName⟩ := List.append_inj' same rfl
    obtain rfl := List.singleton_injective sameName
    exact other rfl

-- Nothing was below the new file, so a path that does not start there meets it at its end or not
-- at all.
theorem Leads.before_new {aim : Aim} {links : Nat} {current : Location} {names : List Name}
    {place : Place} (leads : Leads after aim links current names place)
    (apart : ¬ directory ++ [name] <+: current) :
    Leads before aim links current names place ∨
      place = .taken (directory ++ [name]) (.file content) ∧
        Leads before aim links current names (.free directory name) := by
  have same {other : Location} (different : other ≠ directory ++ [name]) :
      after.get? other = before.get? other := by rw [written.agree, if_neg different]
  have unlike {current : Location} (apart : ¬ directory ++ [name] <+: current) :
      current ≠ directory ++ [name] := by
    rintro rfl
    exact apart (List.prefix_refl _)
  induction leads with
  | arrive there =>
    rw [same (unlike apart)] at there
    exact .inl (.arrive there)
  | stay inside idle _ ih =>
    rw [same (unlike apart)] at inside
    exact (ih apart).imp (.stay inside idle) (And.imp_right (.stay inside idle))
  | @up _ current _ _ inside _ ih =>
    rw [same (unlike apart)] at inside
    have alsoApart : ¬ directory ++ [name] <+: current.dropLast := fun front =>
      apart (front.trans (List.dropLast_prefix current))
    exact (ih alsoApart).imp (.up inside) (And.imp_right (.up inside))
  | @down _ current next rest _ entry inside lookup there real onward ih =>
    rw [same (unlike apart)] at inside
    by_cases met : current ++ [next] = directory ++ [name]
    · right
      obtain ⟨rfl, sameName⟩ := List.append_inj' met rfl
      obtain rfl := List.singleton_injective sameName
      cases onward with
      | arrive there =>
        rw [written.here, Option.some.injEq] at there
        subst there
        exact ⟨rfl, .free inside lookup missing⟩
      | stay beyond | up beyond | down beyond | follow beyond | halt beyond | free beyond =>
        rw [written.here] at beyond
        cases beyond
    · rw [same met] at there
      have alsoApart : ¬ directory ++ [name] <+: current ++ [next] := by
        rw [List.prefix_concat_iff]
        rintro (whole | front)
        · exact met whole.symm
        · exact apart front
      exact (ih alsoApart).imp (.down inside lookup there real)
        (And.imp_right (.down inside lookup there real))
  | @follow _ current next rest _ target inside lookup there through _ ih =>
    rw [same (unlike apart)] at inside
    have different : current ++ [next] ≠ directory ++ [name] := by
      intro met
      rw [met, written.here] at there
      cases there
    rw [same different] at there
    have alsoApart : ¬ directory ++ [name] <+: if target.isAbsolute then [] else current := by
      split
      · simp
      · exact apart
    exact (ih alsoApart).imp (.follow inside lookup there through)
      (And.imp_right (.follow inside lookup there through))
  | @halt _ current next _ inside lookup there aimed =>
    rw [same (unlike apart)] at inside
    have different : current ++ [next] ≠ directory ++ [name] := by
      intro met
      rw [met, written.here] at there
      cases there
    rw [same different] at there
    exact .inl (.halt inside lookup there aimed)
  | @free _ current next inside lookup vacant =>
    rw [same (unlike apart)] at inside
    have different : current ++ [next] ≠ directory ++ [name] := by
      intro met
      rw [met, written.here] at vacant
      cases vacant
    rw [same different] at vacant
    exact .inl (.free inside lookup vacant)

end Leading

namespace Workspace

section Stat

variable {w after : Workspace} {directory : Location} {name : Name} {content : Bytes}
  (written : w.tree.Written after.tree (directory ++ [name]) content)
  (missing : w.tree.get? (directory ++ [name]) = none) (same : after.directory = w.directory)

include written missing same

theorem stat_after_new {p : Path} {location : Location} {entry : Entry}
    (found : w.stat p = .ok (location, entry)) : after.stat p = .ok (location, entry) := by
  obtain ⟨checked, leads⟩ := leads_of_stat found
  apply stat_of_leads
  rw [resolveNames_eq_ok_iff, same]
  exact ⟨checked, leads.after_new written missing (by simp)⟩

theorem stat_before_new (proper : w.Proper) {p : Path} {location : Location} {entry : Entry}
    (found : after.stat p = .ok (location, entry)) :
    w.stat p = .ok (location, entry) ∨ w.resolve p = .ok (.free directory name) := by
  obtain ⟨checked, leads⟩ := leads_of_stat found
  rw [same] at leads
  have apart : ¬ directory ++ [name] <+: if p.isAbsolute then [] else w.directory := by
    split
    · simp
    · intro front
      rw [proper.standing _ front] at missing
      cases missing
  rcases leads.before_new written missing apart with earlier | ⟨-, vacant⟩
  · exact .inl (stat_of_leads (resolveNames_eq_ok_iff.mpr ⟨checked, earlier⟩))
  · exact .inr (resolveNames_eq_ok_iff.mpr ⟨checked, vacant⟩)

end Stat

theorem write_of_free {w : Workspace} {p : Path} {directory : Location} {name : Name}
    (resolved : w.resolveNames .output p p.steps = .ok (.free directory name)) (content : Bytes) :
    w.write p content = .ok (w.put (directory ++ [name]) (.file content)) := by
  have missing : w.tree.get? (directory ++ [name]) = none :=
    (resolveNames_eq_ok_iff.mp resolved).2.isIn.2
  obtain ⟨filled, lasting, absent⟩ := Tree.lookup_of_get?_none missing
  have opened : (w.put (directory ++ [name]) (.file [])).tree.get? (directory ++ [name]) =
      some (.file []) := by
    rw [put, w.tree.get?_put _ _ _ filled lasting, if_pos rfl]
  rw [write, create, resolved]
  simp only [fill, opened]
  rw [put, put, Tree.put_put absent]
  rfl

end Workspace

end InterfaceDraft.Files
