import InterfaceDraft.Proofs.Files.Resolution
import InterfaceDraft.Proofs.Text.Lines
import Mathlib.Data.List.Induction
import Mathlib.Data.List.Infix

set_option autoImplicit false

namespace InterfaceDraft.Files

open Text

-- What can be the name of an entry.
structure IsName (name : Name) : Prop where
  filled : name ≠ []
  notHere : name ≠ Path.here
  notAbove : name ≠ Path.above
  whole : Path.slash ∉ name
  spelled : 0 ∉ name
  short : name.length ≤ nameLimit

instance (name : Name) : Decidable (IsName name) :=
  decidable_of_iff (name ≠ [] ∧ name ≠ Path.here ∧ name ≠ Path.above ∧ Path.slash ∉ name ∧ 0 ∉ name ∧
      name.length ≤ nameLimit)
    ⟨fun ⟨a, b, c, d, e, f⟩ => ⟨a, b, c, d, e, f⟩, fun ⟨a, b, c, d, e, f⟩ => ⟨a, b, c, d, e, f⟩⟩

-- A tree as a file system can hold it.
structure Tree.Proper (tree : Tree) : Prop where
  formed : tree.WellFormed
  named : ∀ e ∈ tree.entries, ∀ name ∈ e.1, IsName name

-- A workspace as a process can have it. The directory it works in may be removed, but whatever is
-- above it is there or removed too.
structure Workspace.Proper (w : Workspace) : Prop where
  tree : w.tree.Proper
  standing : ∀ front, front <+: w.directory → w.tree.get? front = some .directory

instance (tree : Tree) : Decidable tree.WellFormed := inferInstanceAs (Decidable (_ ∧ _))

instance (tree : Tree) : Decidable tree.Proper :=
  decidable_of_iff (tree.WellFormed ∧ ∀ e ∈ tree.entries, ∀ name ∈ e.1, IsName name)
    ⟨fun ⟨formed, named⟩ => ⟨formed, named⟩, fun ⟨formed, named⟩ => ⟨formed, named⟩⟩

instance (w : Workspace) : Decidable w.Proper :=
  decidable_of_iff (w.tree.Proper ∧ ∀ front ∈ w.directory.inits, w.tree.get? front = some .directory)
    ⟨fun ⟨tree, standing⟩ => ⟨tree, fun front above => standing front ((List.mem_inits _ _).mpr above)⟩,
      fun ⟨tree, standing⟩ => ⟨tree, fun front among => standing front ((List.mem_inits _ _).mp among)⟩⟩

namespace Path

theorem names_append (front back : Bytes) :
    names ⟨front ++ slash :: back⟩ = names ⟨front⟩ ++ names ⟨back⟩ := by
  simp [names, pieces, splitAll_append_cons]

theorem names_of_name {name : Name} (named : IsName name) : names ⟨name⟩ = [name] := by
  simp [names, pieces, splitAll_of_not_mem named.whole, named.filled]

-- Joining paths joins their names.
theorem names_join (p : Path) (bytes : Bytes) : (p.child bytes).names = p.names ++ names ⟨bytes⟩ := by
  unfold child
  split
  next bare =>
    rw [Bool.or_eq_true, beq_iff_eq, List.getLast?_eq_some_iff] at bare
    rcases bare with empty | ⟨front, ended⟩
    · have nothing : p = ⟨[]⟩ := by rw [← List.isEmpty_iff.mp empty]
      rw [nothing]
      rfl
    · have shape : p = ⟨front ++ [slash]⟩ := by rw [← ended]
      have dropped : names ⟨front ++ [slash]⟩ = names ⟨front⟩ := by
        rw [names_append]
        exact List.append_nil _
      rw [shape, List.append_assoc, List.singleton_append, names_append, dropped]
  next => exact names_append p.bytes bytes

theorem names_child {name : Name} (named : IsName name) (p : Path) :
    (p.child name).names = p.names ++ [name] := by
  rw [names_join, names_of_name named]

theorem child_bytes (p : Path) (name : Name) :
    ∃ lead, (p.child name).bytes = p.bytes ++ (lead ++ name) ∧ ∀ b ∈ lead, b = slash := by
  unfold child
  split
  · exact ⟨[], rfl, by simp⟩
  · exact ⟨[slash], rfl, by simp⟩

theorem endsInSlash_child {name : Name} (named : IsName name) (p : Path) :
    (p.child name).endsInSlash = false := by
  obtain ⟨lead, shape, -⟩ := p.child_bytes name
  rw [endsInSlash, shape, ← List.append_assoc, List.getLast?_append_of_ne_nil _ named.filled,
    beq_eq_false_iff_ne]
  intro last
  exact named.whole (List.mem_of_getLast? last)

theorem steps_child {name : Name} (named : IsName name) (p : Path) :
    (p.child name).steps = p.names ++ [name] := by
  rw [steps, endsInSlash_child named, names_child named]
  rfl

theorem isAbsolute_child {p : Path} (filled : p.bytes ≠ []) (name : Name) :
    (p.child name).isAbsolute = p.isAbsolute := by
  obtain ⟨lead, shape, -⟩ := p.child_bytes name
  rw [isAbsolute, shape, List.head?_append_of_ne_nil _ filled]
  rfl

theorem length_lt_child {name : Name} (named : IsName name) (p : Path) :
    p.bytes.length < (p.child name).bytes.length := by
  obtain ⟨lead, shape, -⟩ := p.child_bytes name
  have positive := List.length_pos_iff.mpr named.filled
  rw [shape, List.length_append, List.length_append]
  omega

theorem spelled_child {p : Path} {name : Name} (named : IsName name) (spelled : 0 ∉ p.bytes) :
    0 ∉ (p.child name).bytes := by
  obtain ⟨lead, shape, slashes⟩ := p.child_bytes name
  rw [shape, List.mem_append, List.mem_append]
  rintro (inside | between | last)
  · exact spelled inside
  · exact absurd (slashes 0 between) (by decide)
  · exact named.spelled last

end Path

theorem checkPath_eq_ok_iff {p : Path} :
    checkPath p = .ok () ↔ 0 ∉ p.bytes ∧ p.bytes ≠ [] ∧ p.bytes.length < pathLimit := by
  unfold checkPath Path.isEmpty
  split_ifs <;> simp_all

theorem lookup_eq_some_iff_mem {α β : Type} [BEq α] [LawfulBEq α] {entries : List (α × β)}
    (distinct : (entries.map Prod.fst).Nodup) {key : α} {value : β} :
    entries.lookup key = some value ↔ (key, value) ∈ entries := by
  induction entries with
  | nil => simp
  | cons e entries ih =>
    obtain ⟨first, held⟩ := e
    rw [List.map_cons, List.nodup_cons] at distinct
    rw [List.lookup_cons, List.mem_cons, Prod.mk.injEq]
    by_cases same : key = first
    · subst same
      have absent : (key, value) ∉ entries := fun member =>
        distinct.1 (List.mem_map.mpr ⟨_, member, rfl⟩)
      simp [absent, eq_comm]
    · have differs : (key == first) = false := beq_eq_false_iff_ne.mpr same
      simp [differs, same, ih distinct.2]

theorem lookup_eq_none_iff_not_mem {α β : Type} [BEq α] [LawfulBEq α] {entries : List (α × β)} {key : α} :
    entries.lookup key = none ↔ key ∉ entries.map Prod.fst := by
  rw [List.lookup_eq_none_iff, List.mem_map]
  constructor
  · rintro missing ⟨e, member, rfl⟩
    exact absurd (missing e member) (by simp)
  · intro absent e member
    rw [bne_iff_ne]
    rintro rfl
    exact absent ⟨e, member, rfl⟩

theorem isRemoved_append_singleton {location : Location} {name : Name} (filled : name ≠ []) :
    isRemoved (location ++ [name]) = false := by
  simp [isRemoved, filled]

theorem Tree.lookup_of_get?_none {tree : Tree} {location : Location} (missing : tree.get? location = none) :
    location ≠ [] ∧ isRemoved location = false ∧ tree.entries.lookup location = none := by
  unfold Tree.get? at missing
  split at missing
  next => cases missing
  next ordinary =>
    simp only [Bool.or_eq_true, List.isEmpty_iff, not_or, Bool.not_eq_true] at ordinary
    exact ⟨ordinary.1, ordinary.2, missing⟩

namespace Tree.Proper

variable {tree : Tree} (proper : tree.Proper)

include proper

theorem mem_of_get? {location : Location} {name : Name} {entry : Entry} (filled : name ≠ [])
    (there : tree.get? (location ++ [name]) = some entry) :
    (location ++ [name], entry) ∈ tree.entries := by
  rw [get?, isRemoved_append_singleton filled] at there
  exact (lookup_eq_some_iff_mem proper.formed.1).mp (by simpa using there)

theorem get?_of_mem {location : Location} {entry : Entry} (member : (location, entry) ∈ tree.entries) :
    tree.get? location = some entry := by
  obtain ⟨filled, present, -⟩ := proper.formed.2 _ member
  rw [get?, present]
  simpa [filled] using (lookup_eq_some_iff_mem proper.formed.1).mpr member

theorem parent_of_mem {location : Location} {name : Name} {entry : Entry}
    (member : (location ++ [name], entry) ∈ tree.entries) :
    tree.get? location = some .directory := by
  obtain ⟨-, -, parent⟩ := proper.formed.2 _ member
  simpa using parent

theorem isName_of_mem {location : Location} {entry : Entry} (member : (location, entry) ∈ tree.entries)
    {name : Name} (among : name ∈ location) : IsName name :=
  proper.named _ member name among

-- All names on the way to an entry are proper.
theorem isName_of_get? {directory : Location} {entry : Entry}
    (inside : tree.get? directory = some entry) (present : isRemoved directory = false) :
    ∀ name ∈ directory, IsName name := by
  rcases List.eq_nil_or_concat directory with rfl | ⟨front, last, rfl⟩
  · simp
  · rw [List.concat_eq_append] at inside present ⊢
    have filled : last ≠ [] := by
      rintro rfl
      simp [isRemoved] at present
    exact fun name => proper.isName_of_mem (proper.mem_of_get? filled inside)

-- Every place on the way down to an entry is a directory.
theorem above_of_mem {top way : Location} {entry : Entry}
    (member : (top ++ way, entry) ∈ tree.entries) (below : way ≠ []) :
    tree.get? top = some .directory := by
  induction way using List.reverseRecOn generalizing entry with
  | nil => exact absurd rfl below
  | append_singleton way name ih =>
    have parent : tree.get? (top ++ way) = some .directory := by
      rw [← List.append_assoc] at member
      exact proper.parent_of_mem member
    rcases List.eq_nil_or_concat way with rfl | ⟨front, last, rfl⟩
    · rwa [List.append_nil] at parent
    · have named : IsName last := by
        apply proper.isName_of_mem member
        simp
      rw [List.concat_eq_append, ← List.append_assoc] at parent
      have held := proper.mem_of_get? named.filled parent
      rw [List.append_assoc, ← List.concat_eq_append] at held
      exact ih held (by simp)

-- Where an entry stands below, nothing is removed.
theorem present_of_mem {top way : Location} {entry : Entry}
    (member : (top ++ way, entry) ∈ tree.entries) : isRemoved top = false := by
  unfold isRemoved
  rw [beq_eq_false_iff_ne]
  intro last
  have among : [] ∈ top ++ way := List.mem_append_left _ (List.mem_of_getLast? last)
  exact (proper.isName_of_mem member among).filled rfl

end Tree.Proper

theorem asksDirectory_append_of_name {names rest : List Name} {name : Name} (filled : name ≠ [])
    (among : name ∈ rest) : asksDirectory (names ++ rest) = false := by
  rw [asksDirectory, Bool.and_eq_false_iff, List.all_eq_false]
  exact .inr ⟨name, List.mem_append_right _ among, by simpa using filled⟩

theorem asksDirectory_of_idle {names rest : List Name}
    (asked : asksDirectory (names ++ [] :: rest) = false) : asksDirectory (names ++ rest) = false := by
  cases names <;> simp_all [asksDirectory]

theorem Leads.mono {tree : Tree} {aim : Aim} {links more : Nat} {current : Location}
    {names : List Name} {place : Place} (leads : Leads tree aim links current names place)
    (enough : links ≤ more) : Leads tree aim more current names place := by
  induction leads generalizing more with
  | arrive there => exact .arrive there
  | stay inside idle _ ih => exact .stay inside idle (ih enough)
  | up inside _ ih => exact .up inside (ih enough)
  | down inside lookup there real _ ih => exact .down inside lookup there real (ih enough)
  | follow inside lookup there through _ ih =>
    obtain ⟨fewer, rfl⟩ := Nat.exists_eq_add_of_le' enough
    exact .follow inside lookup there through (ih (Nat.le_add_left _ fewer))
  | halt inside lookup there aimed => exact .halt inside lookup there aimed
  | free inside lookup missing => exact .free inside lookup missing

-- What leads to a directory can be continued. Behind it no link may be met, as the first part may
-- have used up all links.
theorem Leads.append {tree : Tree} {aim : Aim} {links : Nat} {current directory : Location}
    {names rest : List Name} {place : Place} {name : Name}
    (leads : Leads tree .content links current names (.taken directory .directory))
    (onward : Leads tree aim 0 directory rest place) (goes : aim ≠ .entry) (filled : name ≠ [])
    (among : name ∈ rest) : Leads tree aim links current (names ++ rest) place := by
  have relax {current : Location} {next : Name} {names : List Name}
      (lookup : IsLookup .content current next names) :
      IsLookup aim current next (names ++ rest) :=
    ⟨lookup.named, lookup.notHere, lookup.notAbove,
      by rw [asksDirectory_append_of_name filled among, Bool.and_false], lookup.present, lookup.short⟩
  generalize ends : Place.taken directory .directory = last at leads
  induction leads with
  | arrive there =>
    cases ends
    exact onward.mono (Nat.zero_le _)
  | stay inside idle _ ih => exact .stay inside idle (ih ends)
  | up inside _ ih => exact .up inside (ih ends)
  | down inside lookup there real _ ih => exact .down inside (relax lookup) there real (ih ends)
  | follow inside lookup there _ _ ih =>
    have onward := ih ends
    rw [List.append_assoc] at onward
    exact .follow inside (relax lookup) there (by simp [goes]) onward
  | halt => cases ends
  | free => cases ends

-- A slash that asks for a directory can be left out in the middle.
theorem Leads.of_idle {tree : Tree} {aim : Aim} {links : Nat} {current : Location}
    {names rest : List Name} {place : Place}
    (leads : Leads tree aim links current (names ++ [] :: rest) place) (goes : aim ≠ .entry) :
    Leads tree aim links current (names ++ rest) place := by
  have relax {current : Location} {next : Name} {names : List Name}
      (lookup : IsLookup aim current next (names ++ [] :: rest)) :
      IsLookup aim current next (names ++ rest) := by
    refine ⟨lookup.named, lookup.notHere, lookup.notAbove, ?_, lookup.present, lookup.short⟩
    have allowed := lookup.allowed
    rw [Bool.and_eq_false_iff] at allowed ⊢
    exact allowed.imp id asksDirectory_of_idle
  generalize all : names ++ [] :: rest = path at leads
  induction leads generalizing names with
  | arrive => simp at all
  | stay inside idle onward ih =>
    cases names with
    | nil =>
      rw [List.nil_append, List.cons.injEq] at all
      rw [List.nil_append, all.2]
      exact onward
    | cons first names =>
      rw [List.cons_append, List.cons.injEq] at all
      rw [List.cons_append, all.1]
      exact .stay inside idle (ih all.2)
  | up inside _ ih =>
    cases names with
    | nil => cases all
    | cons first names =>
      rw [List.cons_append, List.cons.injEq] at all
      rw [List.cons_append, all.1]
      exact .up inside (ih all.2)
  | down inside lookup there real _ ih =>
    cases names with
    | nil =>
      rw [List.nil_append, List.cons.injEq] at all
      exact absurd all.1.symm lookup.named
    | cons first names =>
      rw [List.cons_append, List.cons.injEq] at all
      rw [List.cons_append, all.1]
      rw [← all.2] at lookup
      exact .down inside (relax lookup) there real (ih all.2)
  | follow inside lookup there _ _ ih =>
    cases names with
    | nil =>
      rw [List.nil_append, List.cons.injEq] at all
      exact absurd all.1.symm lookup.named
    | cons first names =>
      rw [List.cons_append, List.cons.injEq] at all
      rw [List.cons_append, all.1]
      rw [← all.2] at lookup
      refine .follow inside (relax lookup) there (by simp [goes]) ?_
      rw [← List.append_assoc]
      exact ih (by rw [List.append_assoc, all.2])
  | halt _ _ _ aimed => exact absurd aimed goes
  | free _ lookup _ =>
    cases names with
    | nil =>
      rw [List.nil_append, List.cons.injEq] at all
      exact absurd all.1.symm lookup.named
    | cons first names => simp at all

theorem isLookup_of_name {aim : Aim} {current : Location} {name : Name} {rest : List Name}
    (named : IsName name) (present : isRemoved current = false)
    (allowed : asksDirectory rest = false) : IsLookup aim current name rest :=
  ⟨named.filled, named.notHere, named.notAbove, by rw [allowed, Bool.and_false], present, named.short⟩

-- Down through directories that are there, and on from the last of them.
theorem Leads.descend {tree : Tree} (proper : tree.Proper) {aim : Aim} {links : Nat}
    {top way : Location} {entry : Entry} (member : (top ++ way, entry) ∈ tree.entries)
    (real : ∀ target, entry ≠ .link target) {rest : List Name} {place : Place}
    (allowed : asksDirectory rest = false)
    (onward : Leads tree aim links (top ++ way) rest place) :
    Leads tree aim links top (way ++ rest) place := by
  induction way generalizing top with
  | nil => simpa using onward
  | cons name way ih =>
    have apart : top ++ name :: way = (top ++ [name]) ++ way := by simp
    have named : IsName name := proper.isName_of_mem member (by simp)
    have inside := proper.above_of_mem member (by simp)
    have lookup : IsLookup aim top name (way ++ rest) := by
      refine isLookup_of_name named (proper.present_of_mem member) ?_
      cases way with
      | nil => exact allowed
      | cons second way =>
        have among : second ∈ top ++ name :: second :: way := by simp
        simp [asksDirectory, (proper.isName_of_mem member among).filled]
    rw [apart] at member onward
    by_cases last : way = []
    · subst last
      rw [List.append_nil] at member
      exact .down inside lookup (proper.get?_of_mem member) real (ih (by simpa using member) onward)
    · exact .down inside lookup (proper.above_of_mem member last) (by simp) (ih member onward)

namespace Workspace

theorem leads_of_stat {w : Workspace} {p : Path} {location : Location} {entry : Entry}
    (found : w.stat p = .ok (location, entry)) :
    checkPath p = .ok () ∧ Leads w.tree .content linkLimit
      (if p.isAbsolute then [] else w.directory) p.steps (.taken location entry) := by
  unfold stat resolve at found
  split at found
  next => cases found
  next => cases found
  next resolved =>
    cases found
    exact resolveNames_eq_ok_iff.mp resolved

-- A path that goes on from `root` by names leads to where the names lead from there.
theorem resolveNames_below {w : Workspace} {root p : Path} {top : Location}
    (rooted : w.stat root = .ok (top, .directory)) {aim : Aim} (goes : aim ≠ .entry) {way : List Name}
    {name : Name} (filled : name ≠ []) (among : name ∈ way) (steps : p.steps = root.names ++ way)
    (start : p.isAbsolute = root.isAbsolute) (checked : checkPath p = .ok ()) {place : Place}
    (onward : Leads w.tree aim 0 top way place) : w.resolveNames aim p p.steps = .ok place := by
  rw [resolveNames_eq_ok_iff, steps, start]
  refine ⟨checked, ?_⟩
  have leads := (leads_of_stat rooted).2.append onward goes filled among
  cases slash : root.endsInSlash with
  | true =>
    rw [Path.steps, slash, if_pos rfl, List.append_assoc, List.singleton_append] at leads
    exact leads.of_idle goes
  | false =>
    rw [Path.steps, slash] at leads
    exact leads

end Workspace

end InterfaceDraft.Files
