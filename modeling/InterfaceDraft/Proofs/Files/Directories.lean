import InterfaceDraft.Proofs.Files.Components
import InterfaceDraft.Proofs.Files.Standing
import Mathlib.Data.Set.Insert

set_option autoImplicit false

namespace InterfaceDraft.Files

open Text

namespace Path

-- On the way to the directory that is to hold `p`.
structure IsAbove (q p : Path) : Prop where
  begins : q.components <+: p.components
  proper : q.components ≠ p.components

theorem ancestorsUpTo_begins {bound : Nat} {p q : Path} (member : q ∈ ancestorsUpTo bound p) :
    q.components <+: p.components := by
  induction bound generalizing p with
  | zero => cases member
  | succ bound ih =>
    rw [ancestorsUpTo, List.mem_cons] at member
    rcases member with rfl | higher
    · exact List.prefix_refl _
    · cases above : p.parent? with
      | none => simp [above] at higher
      | some next =>
        rw [above] at higher
        obtain ⟨last, whole⟩ := parent?_components above
        rw [whole]
        exact (ih higher).trans (List.prefix_append _ _)

theorem isAbove_of_mem_ancestors {p parent q : Path} (above : p.parent? = some parent)
    (member : q ∈ parent.ancestors) : q.IsAbove p := by
  obtain ⟨last, whole⟩ := parent?_components above
  have begins := ancestorsUpTo_begins member
  refine ⟨whole ▸ begins.trans (List.prefix_append _ _), fun same => ?_⟩
  have shorter := begins.length_le
  rw [same, whole, List.length_append, List.length_singleton] at shorter
  omega

end Path

theorem Leads.of_idle_only {tree : Tree} {aim : Aim} {links : Nat} {names : List Name} {place : Place}
    (leads : Leads tree aim links [] names place) (idle : ∀ name ∈ names, Path.isIdle name = true) :
    place = .taken [] .directory := by
  have top : tree.get? [] = some .directory := rfl
  generalize start : ([] : Location) = current at leads
  induction leads with
  | arrive there =>
    subst start
    rw [top] at there
    cases there
    rfl
  | stay _ _ _ ih => exact ih (fun name member => idle name (List.mem_cons_of_mem _ member)) start
  | up _ _ ih => exact absurd (idle Path.above List.mem_cons_self) (by decide)
  | down _ lookup | follow _ lookup | halt _ lookup | free _ lookup =>
    have named := idle _ List.mem_cons_self
    simp [Path.isIdle, lookup.named, lookup.notHere] at named

-- A directory that is made at a free name is found there, whatever is asked of it then.
theorem Leads.of_made {w : Workspace} {directory : Location} {name : Name} {links : Nat}
    {current : Location} {names rest : List Name} {place : Place}
    (leads : Leads w.tree .entry links current names (.free directory name))
    (onward : Leads (w.put (directory ++ [name]) .directory).tree .content 0 (directory ++ [name]) rest
      place) :
    Leads (w.put (directory ++ [name]) .directory).tree .content links current (names ++ rest) place := by
  have free := leads.isIn.2
  have kept {location : Location} {entry : Entry} (there : w.tree.get? location = some entry) :
      (w.put (directory ++ [name]) .directory).tree.get? location = some entry :=
    Workspace.kept_of_put free .directory there
  have relax {current : Location} {next : Name} {names : List Name}
      (lookup : IsLookup .entry current next names) : IsLookup .content current next (names ++ rest) :=
    ⟨lookup.named, lookup.notHere, lookup.notAbove, rfl, lookup.present, lookup.short⟩
  generalize ends : Place.free directory name = last at leads
  induction leads with
  | arrive => cases ends
  | stay inside idle _ ih => exact .stay (kept inside) idle (ih ends)
  | up inside _ ih => exact .up (kept inside) (ih ends)
  | down inside lookup there real _ ih => exact .down (kept inside) (relax lookup) (kept there) real (ih ends)
  | follow inside lookup there _ _ ih =>
    have onward := ih ends
    rw [List.append_assoc] at onward
    exact .follow (kept inside) (relax lookup) (kept there) (Bool.and_false _) onward
  | halt => cases ends
  | free inside lookup _ =>
    cases ends
    have made := Workspace.get?_put_self free .directory
    exact .down (kept inside) (relax lookup) made (by simp) (onward.mono (Nat.zero_le _))

namespace Workspace

theorem stat_of_makeDirectory {w made : Workspace} {p : Path} (made? : w.makeDirectory p = .ok made) :
    ∃ location, w.tree.get? location = none ∧ made = w.put location .directory ∧
      made.stat p = .ok (location, .directory) := by
  obtain ⟨directory, name, resolved, rfl⟩ := makeDirectory_cases made?
  obtain ⟨checked, leads⟩ := resolveNames_eq_ok_iff.mp resolved
  have free := leads.isIn.2
  have there := get?_put_self free .directory
  refine ⟨_, free, rfl, stat_of_leads (resolveNames_eq_ok_iff.mpr ⟨checked, ?_⟩)⟩
  cases slash : p.endsInSlash with
  | true =>
    rw [Path.steps, slash]
    exact leads.of_made (.stay there (.inl rfl) (.arrive there))
  | false =>
    have onward := leads.of_made (.arrive there)
    rw [List.append_nil] at onward
    rw [Path.steps, slash]
    exact onward

end Workspace

-- All that was there is there, with the same content unless it is `spared`. What is new, but for the
-- `spared`, are directories on the way to `p`.
structure Workspace.Grown (w after : Workspace) (p : Path) (spared : Set Location) : Prop
    extends w.Keeps after where
  unchanged : ∀ {location entry}, location ∉ spared → w.tree.get? location = some entry →
    after.tree.get? location = some entry
  made : ∀ {location entry}, location ∉ spared → w.tree.get? location = none →
    after.tree.get? location = some entry →
    entry = .directory ∧ ∃ q : Path, q.IsAbove p ∧ after.stat q = .ok (location, .directory)

namespace Workspace.Grown

variable {p : Path} {spared : Set Location}

theorem refl (w : Workspace) : w.Grown w p spared := by
  refine ⟨.refl w, fun _ there => there, fun _ missing there => ?_⟩
  rw [missing] at there
  cases there

theorem trans {first second third : Workspace} (before : first.Grown second p spared)
    (after : second.Grown third p spared) : first.Grown third p spared := by
  refine ⟨before.toKeeps.trans after.toKeeps,
    fun outside there => after.unchanged outside (before.unchanged outside there), ?_⟩
  intro location entry outside missing there
  cases between : second.tree.get? location with
  | none => exact after.made outside between there
  | some middle =>
    obtain ⟨rfl, q, above, led⟩ := before.made outside missing between
    have still := after.unchanged outside between
    obtain ⟨later, leads, found⟩ := after.toKeeps.stat led
    rw [still] at there found
    cases there
    cases found
    exact ⟨rfl, q, above, leads⟩

end Workspace.Grown

namespace Workspace

variable {w : Workspace} {p : Path} {spared : Set Location}

theorem grown_of_makeDirectory {made : Workspace} {q : Path} (above : q.IsAbove p)
    (made? : w.makeDirectory q = .ok made) : w.Grown made p spared := by
  obtain ⟨location, free, rfl, led⟩ := stat_of_makeDirectory made?
  refine ⟨keeps_of_put free _, fun _ => kept_of_put free _, fun _ missing there => ?_⟩
  rw [get?_put_of_free free] at there
  split at there
  next here =>
    cases there
    exact ⟨rfl, q, above, here ▸ led⟩
  next =>
    rw [missing] at there
    cases there

theorem grown_of_makeDirectories {after : Workspace} {parent : Path} {failure : Option IoError}
    (above : p.parent? = some parent) (made : w.makeDirectories parent = (after, failure)) :
    w.Grown after p spared := by
  have step {w made : Workspace} {q : Path} (member : q ∈ parent.ancestors)
      (made? : w.makeDirectory q = .ok made) : w.Grown made p spared :=
    grown_of_makeDirectory (Path.isAbove_of_mem_ancestors above member) made?
  exact related_of_makeFirst (fun w => .refl w) .trans step made

theorem grown_of_written {after : Workspace} {location : Location} {content : Bytes}
    (written : w.tree.Written after.tree location content) (same : after.directory = w.directory) :
    w.Grown after p {location} := by
  have agree {other : Location} (outside : other ∉ ({location} : Set Location)) :
      after.tree.get? other = w.tree.get? other := by
    rw [written.agree, if_neg (mt Set.mem_singleton_iff.mpr outside)]
  refine ⟨keeps_of_written written same, fun outside there => ?_, fun outside missing there => ?_⟩
  · rw [agree outside, there]
  · rw [agree outside, missing] at there
    cases there

-- The directory that is to hold `p` is there. For a single name it is the working directory.
def HasParent (w : Workspace) (p : Path) : Prop :=
  ∃ parent, p.parent? = some parent ∧
    w.existsAt (if parent.isEmpty then ⟨Path.here⟩ else parent) = true

theorem existsAt_here {start : List Name} {place : Place} (some : start ≠ [])
    (leads : Leads w.tree .content linkLimit w.directory start place) :
    w.existsAt ⟨Path.here⟩ = true := by
  have inside : w.tree.get? w.directory = .some .directory := by
    cases leads with
    | arrive => exact absurd rfl some
    | stay inside | up inside | down inside | follow inside | halt inside | free inside => exact inside
  have resolved : w.resolveNames .content ⟨Path.here⟩ (Path.steps ⟨Path.here⟩) =
      .ok (.taken w.directory .directory) :=
    resolveNames_eq_ok_iff.mpr ⟨rfl, .stay inside (.inr rfl) (.arrive inside)⟩
  rw [existsAt, stat_of_leads resolved]
  rfl

theorem leads_of_create {opened : Workspace} {location : Location}
    (created : w.create p = .ok (opened, location)) :
    checkPath p = .ok () ∧ ∃ place, place ≠ .taken [] .directory ∧
      Leads w.tree .content linkLimit (if p.isAbsolute then [] else w.directory) p.steps place := by
  rcases create_cases created with ⟨place, resolved, rfl, written, -⟩ | ⟨device, led, -, -⟩
  · obtain ⟨checked, leads⟩ := resolveNames_eq_ok_iff.mp resolved
    refine ⟨checked, place, ?_, leads.content_of_output⟩
    rintro rfl
    cases written.spot .directory rfl
  · obtain ⟨checked, leads⟩ := leads_of_stat led
    exact ⟨checked, _, by simp, leads⟩

-- Only the top has no parent, and it is no file.
theorem parent?_of_create {opened : Workspace} {location : Location}
    (created : w.create p = .ok (opened, location)) :
    ∃ parent, p.parent? = some parent ∧ (parent.isEmpty = true → w.existsAt ⟨Path.here⟩ = true) := by
  obtain ⟨checked, place, differs, leads⟩ := leads_of_create created
  obtain ⟨-, filled, -⟩ := checkPath_eq_ok_iff.mp checked
  cases above : p.parent? with
  | none =>
    rcases Path.parent?_eq_none above with rfl | ⟨absolute, idle⟩
    · exact absurd rfl filled
    · rw [absolute] at leads
      exact absurd (leads.of_idle_only (Path.isIdle_of_mem_steps idle)) differs
  | some parent =>
    refine ⟨parent, rfl, fun empty => ?_⟩
    obtain rfl : parent = ⟨[]⟩ := congrArg Path.mk (List.isEmpty_iff.mp empty)
    obtain ⟨relative, some⟩ := Path.parent?_eq_empty above
    rw [relative] at leads
    exact existsAt_here some leads

end Workspace

end InterfaceDraft.Files
