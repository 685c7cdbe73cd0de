import InterfaceDraft.Proofs.Files.LastName
import InterfaceDraft.Proofs.Files.Standing

set_option autoImplicit false

namespace InterfaceDraft.Files

open Text

theorem IsName.notIdle {name : Name} (named : IsName name) : Path.isIdle name = false := by
  simp [Path.isIdle, named.filled, named.notHere]

namespace Path

theorem joinPieces_append {front back : List Bytes} (some : front ≠ []) (more : back ≠ []) :
    joinPieces (front ++ back) = joinPieces front ++ slash :: joinPieces back := by
  induction front with
  | nil => exact absurd rfl some
  | cons piece front ih =>
    rw [List.cons_append, joinPieces_cons (by simp [more])]
    cases front with
    | nil => rfl
    | cons next front =>
      rw [ih (List.cons_ne_nil _ _), joinPieces_cons (List.cons_ne_nil _ _), List.append_assoc]
      rfl

theorem getLast?_ofLocation {location : Location} (filled : location ≠ [])
    (named : ∀ name ∈ location, IsName name) : (ofLocation location).bytes.getLast? ≠ some slash := by
  rcases List.eq_nil_or_concat location with none | ⟨higher, name, rfl⟩
  · exact absurd none filled
  · rw [List.concat_eq_append] at named ⊢
    have last := named name (by simp)
    rw [ofLocation, joinPieces_front higher (List.cons_ne_nil _ _), joinPieces, ← List.cons_append,
      List.getLast?_append_of_ne_nil _ last.filled]
    exact fun cut => last.whole (List.mem_of_getLast? cut)

theorem child_ofLocation {front back : Location} (named : ∀ name ∈ front, IsName name) (more : back ≠ []) :
    (ofLocation front).child (joinPieces back) = ofLocation (front ++ back) := by
  by_cases top : front = []
  · rw [top]
    rfl
  · have ends := getLast?_ofLocation top named
    have filled : (ofLocation front).isEmpty = false := rfl
    rw [child, filled, beq_eq_false_iff_ne.mpr ends, ofLocation, ofLocation, joinPieces_append top more]
    rfl

theorem parent?_ofLocation {front : Location} {name : Name} (named : ∀ n ∈ front ++ [name], IsName n) :
    (ofLocation (front ++ [name])).parent? = some (ofLocation front) := by
  have whole : IsCut .top (front ++ [name]) := ⟨fun n member => (named n member).whole, by simp⟩
  have cut : (ofLocation (front ++ [name])).leadAndBody = (.top, front ++ [name]) :=
    leadAndBody_ofLeadAndBody whole (by simp)
  have last : dropIdleEnd (front ++ [name]) = front ++ [name] := by
    rw [dropIdleEnd_concat, (named name (by simp)).notIdle]
    rfl
  have above : dropIdleEnd front = front := by
    rcases List.eq_nil_or_concat front with rfl | ⟨higher, next, rfl⟩
    · rfl
    · rw [List.concat_eq_append] at named ⊢
      rw [dropIdleEnd_concat, (named next (by simp)).notIdle]
      rfl
  rw [parent?, cut]
  simp only [last]
  split
  next none => simp at none
  next none _ => simp at none
  next =>
    rw [List.dropLast_concat, above]
    rfl

theorem length_le_joinPieces {location : Location} (named : ∀ name ∈ location, IsName name) :
    location.length ≤ (joinPieces location).length := by
  fun_induction joinPieces location with
  | case1 => exact Nat.le_refl _
  | case2 name => exact List.length_pos_iff.mpr (named name (by simp)).filled
  | case3 name more _ ih =>
    have below := ih fun n member => named n (List.mem_cons_of_mem _ member)
    simp only [List.length_cons, List.length_append]
    omega

theorem ancestorsUpTo_ofLocation {location : Location} (named : ∀ name ∈ location, IsName name) {bound : Nat}
    (enough : location.length < bound) :
    ancestorsUpTo bound (ofLocation location) = location.inits.reverse.map ofLocation := by
  induction location using List.reverseRecOn generalizing bound with
  | nil =>
    cases bound with
    | zero => cases enough
    | succ bound => rfl
  | append_singleton front name ih =>
    cases bound with
    | zero => cases enough
    | succ bound =>
      have fewer : front.length < bound := by simpa using enough
      have above := ih (fun n member => named n (List.mem_append_left _ member)) fewer
      rw [ancestorsUpTo, parent?_ofLocation named]
      simp only [above]
      simp [List.inits_append]

theorem ancestors_ofLocation {location : Location} (named : ∀ name ∈ location, IsName name) :
    (ofLocation location).ancestors = location.inits.reverse.map ofLocation := by
  apply ancestorsUpTo_ofLocation named
  have bound := length_le_joinPieces named
  simp only [ofLocation, List.length_cons]
  omega

end Path

-- The last of the beginnings of `whole` with a property.
structure IsNearest {α : Type} (property : List α → Prop) (whole front : List α) : Prop where
  above : front <+: whole
  holds : property front
  nearest : ∀ lower, lower <+: whole → property lower → lower <+: front

instance {α : Type} [DecidableEq α] (property : List α → Prop) [DecidablePred property] (whole front : List α) :
    Decidable (IsNearest property whole front) :=
  decidable_of_iff (front <+: whole ∧ property front ∧ ∀ lower ∈ whole.inits, property lower → lower <+: front)
    ⟨fun ⟨above, holds, nearest⟩ => ⟨above, holds, fun lower higher =>
      nearest lower ((List.mem_inits _ _).mpr higher)⟩,
    fun ⟨above, holds, nearest⟩ => ⟨above, holds, fun lower higher =>
      nearest lower ((List.mem_inits _ _).mp higher)⟩⟩

theorem IsNearest.unique {α : Type} {property : List α → Prop} {whole first second : List α}
    (one : IsNearest property whole first) (other : IsNearest property whole second) : first = second := by
  have below := one.nearest second other.above other.holds
  have above := other.nearest first one.above one.holds
  exact above.eq_of_length_le below.length_le

theorem find?_inits_eq_some_iff {α : Type} {test : List α → Bool} {whole front : List α} :
    whole.inits.reverse.find? test = some front ↔ IsNearest (test · = true) whole front := by
  induction whole using List.reverseRecOn with
  | nil =>
    rw [List.inits, List.reverse_singleton, List.find?_singleton, Option.ite_none_right_eq_some]
    constructor
    · rintro ⟨holds, same⟩
      cases same
      exact ⟨List.prefix_refl _, holds, fun _ above _ => above⟩
    · intro nearest
      obtain rfl := List.prefix_nil.mp nearest.above
      exact ⟨nearest.holds, rfl⟩
  | append_singleton whole last ih =>
    have order : (whole ++ [last]).inits.reverse = (whole ++ [last]) :: whole.inits.reverse := by
      simp [List.inits_append]
    rw [order, List.find?_cons]
    split
    next holds =>
      constructor
      · intro same
        cases same
        exact ⟨List.prefix_refl _, holds, fun _ above _ => above⟩
      · intro nearest
        have below := nearest.nearest _ (List.prefix_refl _) holds
        rw [below.eq_of_length_le nearest.above.length_le]
    next missed =>
      rw [ih]
      constructor
      · intro nearest
        refine ⟨nearest.above.trans (List.prefix_append _ _), nearest.holds, fun lower above holds => ?_⟩
        rcases List.prefix_concat_iff.mp above with rfl | higher
        · simp [holds] at missed
        · exact nearest.nearest lower higher holds
      · intro nearest
        have above : front <+: whole := by
          rcases List.prefix_concat_iff.mp nearest.above with rfl | higher
          · simp [nearest.holds] at missed
          · exact higher
        exact ⟨above, nearest.holds, fun lower higher =>
          nearest.nearest lower (higher.trans (List.prefix_append _ _))⟩

theorem exists_isNearest {α : Type} {property : List α → Prop} {whole front : List α}
    (above : front <+: whole) (holds : property front) : ∃ nearest, IsNearest property whole nearest := by
  classical
  have among : ∃ lower ∈ whole.inits.reverse, decide (property lower) = true :=
    ⟨front, by simpa using above, by simpa using holds⟩
  obtain ⟨nearest, found⟩ := Option.isSome_iff_exists.mp (List.find?_isSome.mpr among)
  have first := find?_inits_eq_some_iff.mp found
  exact ⟨nearest, first.above, by simpa using first.holds, fun lower higher has =>
    first.nearest lower higher (by simpa using has)⟩

-- The way to what stands below a directory leads through the directory.
theorem Leads.directory_of_append {tree : Tree} {links : Nat} {current : Location} {names rest : List Name}
    {place : Place} (leads : Leads tree .content links current (names ++ rest) place) (more : rest ≠ []) :
    ∃ location, Leads tree .content links current names (.taken location .directory) := by
  have relax {current : Location} {next : Name} {names : List Name}
      (lookup : IsLookup .content current next (names ++ rest)) : IsLookup .content current next names :=
    ⟨lookup.named, lookup.notHere, lookup.notAbove, rfl, lookup.present, lookup.short⟩
  generalize all : names ++ rest = path at leads
  induction leads generalizing names with
  | arrive => simp [more] at all
  | stay inside idle _ ih =>
    cases names with
    | nil => exact ⟨_, .arrive inside⟩
    | cons first names =>
      rw [List.cons_append, List.cons.injEq] at all
      obtain ⟨location, onward⟩ := ih all.2
      rw [all.1]
      exact ⟨location, .stay inside idle onward⟩
  | up inside _ ih =>
    cases names with
    | nil => exact ⟨_, .arrive inside⟩
    | cons first names =>
      rw [List.cons_append, List.cons.injEq] at all
      obtain ⟨location, onward⟩ := ih all.2
      rw [all.1]
      exact ⟨location, .up inside onward⟩
  | down inside lookup there real _ ih =>
    cases names with
    | nil => exact ⟨_, .arrive inside⟩
    | cons first names =>
      rw [List.cons_append, List.cons.injEq] at all
      obtain ⟨location, onward⟩ := ih all.2
      rw [← all.2] at lookup
      rw [all.1]
      exact ⟨location, .down inside (relax lookup) there real onward⟩
  | follow inside lookup there _ _ ih =>
    cases names with
    | nil => exact ⟨_, .arrive inside⟩
    | cons first names =>
      rw [List.cons_append, List.cons.injEq] at all
      obtain ⟨location, onward⟩ := ih (by rw [List.append_assoc, all.2])
      rw [← all.2] at lookup
      rw [all.1]
      exact ⟨location, .follow inside (relax lookup) there (by simp) onward⟩
  | halt _ _ _ aimed => cases aimed
  | free inside =>
    cases names with
    | nil => exact ⟨_, .arrive inside⟩
    | cons first names => simp [more] at all

-- An absolute path leads to the entry, through the directory `front` and then by the names `more`.
structure Workspace.Reaches (w : Workspace) (front more : Location) (entry : Entry) : Prop where
  short : (Path.ofLocation (front ++ more)).bytes.length < pathLimit
  leads : ∃ location, Leads w.tree .content linkLimit front more (.taken location entry)

instance (w : Workspace) (front more : Location) (entry : Entry) : Decidable (w.Reaches front more entry) :=
  match led : resolveFrom w.tree .content linkLimit front more with
  | .ok (.taken location found) =>
    decidable_of_iff ((Path.ofLocation (front ++ more)).bytes.length < pathLimit ∧ found = entry) <| by
      constructor
      · rintro ⟨short, rfl⟩
        exact ⟨short, location, resolveFrom_eq_ok_iff.mp led⟩
      · rintro ⟨short, other, leads⟩
        cases led.symm.trans (resolveFrom_eq_ok_iff.mpr leads)
        exact ⟨short, rfl⟩
  | .ok (.free _ _) | .error _ => isFalse fun ⟨_, _, leads⟩ => by
      cases led.symm.trans (resolveFrom_eq_ok_iff.mpr leads)

namespace Workspace

-- What is reached below a directory is reached through it.
theorem Reaches.directory {w : Workspace} {front more rest : Location} {entry : Entry}
    (reaches : w.Reaches front (more ++ rest) entry) (some : more ≠ []) (below : rest ≠ []) :
    w.Reaches front more .directory := by
  obtain ⟨_, leads⟩ := reaches.leads
  refine ⟨?_, leads.directory_of_append below⟩
  have short := reaches.short
  rw [← List.append_assoc, Path.ofLocation, Path.joinPieces_append (by simp [some]) below,
    ← List.cons_append, List.length_append] at short
  exact Nat.lt_of_le_of_lt (Nat.le_add_right _ _) short

variable {w : Workspace} (proper : w.Proper) (present : isRemoved w.directory = false)

include proper present

theorem Proper.named {front : Location} (above : front <+: w.directory) : ∀ name ∈ front, IsName name :=
  fun name among => proper.tree.isName_of_get? (proper.standing _ (List.prefix_refl _)) present name
    (above.mem among)

-- The paths of what may stand in these directories, the nearest first.
theorem Proper.children_upwards {back : Location} (some : back ≠ []) :
    w.directoriesUpwards.map (·.child (Path.joinPieces back)) =
      w.directory.inits.reverse.map fun front => .ofLocation (front ++ back) := by
  have upwards : w.directoriesUpwards = w.directory.inits.reverse.map Path.ofLocation := by
    rw [directoriesUpwards, directoryPath?_eq_some_iff.mpr ⟨present, rfl⟩]
    exact Path.ancestors_ofLocation (proper.named present (List.prefix_refl _))
  rw [upwards, List.map_map]
  apply List.map_congr_left
  intro front among
  have above : front <+: w.directory := by simpa using among
  exact Path.child_ofLocation (proper.named present above) some

section Search

variable {test : Path → Bool} {property : Location → Prop} {back : Location} (some : back ≠ [])
  (agree : ∀ front, front <+: w.directory → (test (.ofLocation (front ++ back)) = true ↔ property front))

include some agree

theorem Proper.find?_upwards_of_nearest {front : Location} (nearest : IsNearest property w.directory front) :
    (w.directoriesUpwards.map (·.child (Path.joinPieces back))).find? test =
      .some (.ofLocation (front ++ back)) := by
  have first : IsNearest (fun front => test (.ofLocation (front ++ back)) = true) w.directory front :=
    ⟨nearest.above, (agree front nearest.above).mpr nearest.holds, fun lower above holds =>
      nearest.nearest lower above ((agree lower above).mp holds)⟩
  rw [proper.children_upwards present some, List.find?_map]
  exact congrArg _ (find?_inits_eq_some_iff.mpr first)

theorem Proper.find?_upwards_of_none (none : ∀ front, front <+: w.directory → ¬ property front) :
    (w.directoriesUpwards.map (·.child (Path.joinPieces back))).find? test = .none := by
  rw [proper.children_upwards present some, List.find?_map, Option.map_eq_none_iff, List.find?_eq_none]
  intro front among holds
  have above : front <+: w.directory := by simpa using among
  exact none front above ((agree front above).mp holds)

end Search

theorem Proper.reaches_iff_stat {front more : Location} (above : front <+: w.directory) (some : more ≠ [])
    (named : ∀ name ∈ more, IsName name) {entry : Entry} :
    w.Reaches front more entry ↔ ∃ location, w.stat (.ofLocation (front ++ more)) = .ok (location, entry) := by
  have higher := proper.named present above
  have allNamed : ∀ name ∈ front ++ more, IsName name :=
    List.forall_mem_append.mpr ⟨higher, named⟩
  have checked : checkPath (.ofLocation (front ++ more)) = .ok () ↔
      (Path.ofLocation (front ++ more)).bytes.length < pathLimit := by
    rw [checkPath_eq_ok_iff]
    exact ⟨fun known => known.2.2, fun short =>
      ⟨Path.spelled_ofLocation allNamed, List.cons_ne_nil _ _, short⟩⟩
  have steps : (Path.ofLocation (front ++ more)).steps = front ++ more := by
    have ends : (Path.ofLocation (front ++ more)).endsInSlash = false :=
      beq_eq_false_iff_ne.mpr (Path.getLast?_ofLocation (by simp [some]) allNamed)
    rw [Path.steps, ends]
    exact Path.names_ofLocation allNamed
  have standing : ∀ other, other <+: front → w.tree.get? other = .some .directory :=
    fun other begins => proper.standing other (begins.trans above)
  have absolute : (Path.ofLocation (front ++ more)).isAbsolute = true := rfl
  constructor
  · rintro ⟨short, location, leads⟩
    refine ⟨location, stat_of_leads ?_⟩
    rw [resolveNames_eq_ok_iff, absolute, steps]
    exact ⟨checked.mpr short, (leads_of_top_iff standing higher).mpr leads⟩
  · rintro ⟨location, found⟩
    obtain ⟨fits, leads⟩ := leads_of_stat found
    rw [absolute, steps] at leads
    exact ⟨checked.mp fits, location, (leads_of_top_iff standing higher).mp leads⟩

end Workspace

end InterfaceDraft.Files
