import InterfaceDraft.Source.Discover
import InterfaceDraft.Proofs.Files.Descent
import InterfaceDraft.Proofs.Files.Writing

set_option autoImplicit false

namespace InterfaceDraft.Source

open Text Files Extraction

-- A walk from `root`, which leads to the directory `top`, meets an entry under a path. It goes on
-- from directories that can be opened, never from links.
inductive Met (tree : Tree) (root : Path) (top : Location) : Path → Location → Entry → Prop
  | root : Met tree root top root top .directory
  | child {p : Path} {directory : Location} {name : Name} {entry : Entry}
      (above : Met tree root top p directory .directory) (opens : p.bytes.length < pathLimit)
      (named : IsName name) (there : tree.get? (directory ++ [name]) = some entry) :
      Met tree root top (p.child name) (directory ++ [name]) entry

-- The walk meets a regular file under this path, or a link through which the path leads to one.
def MeetsText (w : Workspace) (root : Path) (top : Location) (p : Path) : Prop :=
  ∃ location,
    (∃ content, Met w.tree root top p location (.file content)) ∨
      ∃ target place content, Met w.tree root top p location (.link target) ∧
        w.stat p = .ok (place, .file content)

def IsSource (filter : Filter) (w : Workspace) (root : Path) (top : Location) (p : Path) : Prop :=
  MeetsText w root top p ∧ filter.accepts p = true

theorem pathBelow_append (root : Path) (way : Location) (name : Name) :
    pathBelow root (way ++ [name]) = (pathBelow root way).child name := by
  simp [pathBelow]

theorem names_pathBelow {way : Location} (named : ∀ name ∈ way, IsName name) (root : Path) :
    (pathBelow root way).names = root.names ++ way := by
  induction way using List.reverseRecOn with
  | nil => simp [pathBelow]
  | append_singleton way name ih =>
    rw [pathBelow_append, Path.names_child (named name (by simp)),
      ih fun name member => named name (List.mem_append_left _ member), List.append_assoc]

theorem steps_pathBelow {way : Location} {name : Name} (named : ∀ n ∈ way ++ [name], IsName n)
    (root : Path) : (pathBelow root (way ++ [name])).steps = root.names ++ (way ++ [name]) := by
  rw [pathBelow_append, Path.steps_child (named name (by simp)),
    names_pathBelow fun n member => named n (List.mem_append_left _ member), List.append_assoc]

theorem length_le_pathBelow {way : Location} (named : ∀ name ∈ way, IsName name) (root : Path) :
    root.bytes.length ≤ (pathBelow root way).bytes.length := by
  induction way using List.reverseRecOn with
  | nil => exact Nat.le_refl _
  | append_singleton way name ih =>
    have longer := Path.length_lt_child (named name (by simp)) (pathBelow root way)
    rw [pathBelow_append]
    exact Nat.le_of_lt
      (Nat.lt_of_le_of_lt (ih fun n member => named n (List.mem_append_left _ member)) longer)

theorem isAbsolute_pathBelow {root : Path} (filled : root.bytes ≠ []) {way : Location}
    (named : ∀ name ∈ way, IsName name) :
    (pathBelow root way).isAbsolute = root.isAbsolute := by
  induction way using List.reverseRecOn with
  | nil => rfl
  | append_singleton way name ih =>
    have shorter : ∀ n ∈ way, IsName n := fun n member => named n (List.mem_append_left _ member)
    have stillFilled : (pathBelow root way).bytes ≠ [] := by
      have longer := length_le_pathBelow shorter root
      have positive := List.length_pos_iff.mpr filled
      exact List.length_pos_iff.mp (Nat.lt_of_lt_of_le positive longer)
    rw [pathBelow_append, Path.isAbsolute_child stillFilled, ih shorter]

theorem spelled_pathBelow {root : Path} (spelled : 0 ∉ root.bytes) {way : Location}
    (named : ∀ name ∈ way, IsName name) : 0 ∉ (pathBelow root way).bytes := by
  induction way using List.reverseRecOn with
  | nil => exact spelled
  | append_singleton way name ih =>
    rw [pathBelow_append]
    exact Path.spelled_child (named name (by simp))
      (ih fun n member => named n (List.mem_append_left _ member))

theorem resolveNames_pathBelow {w : Workspace} {root : Path} {top way : Location} {name : Name}
    (rooted : w.stat root = .ok (top, .directory)) (named : ∀ n ∈ way ++ [name], IsName n)
    (short : (pathBelow root (way ++ [name])).bytes.length < pathLimit) {aim : Aim}
    (goes : aim ≠ .entry) {place : Place} (onward : Leads w.tree aim 0 top (way ++ [name]) place) :
    w.resolveNames aim (pathBelow root (way ++ [name])) (pathBelow root (way ++ [name])).steps =
      .ok place := by
  obtain ⟨spelled, filled, -⟩ := checkPath_eq_ok_iff.mp (Workspace.leads_of_stat rooted).1
  have stillFilled : (pathBelow root (way ++ [name])).bytes ≠ [] := by
    have longer := length_le_pathBelow named root
    have positive := List.length_pos_iff.mpr filled
    exact List.length_pos_iff.mp (Nat.lt_of_lt_of_le positive longer)
  refine Workspace.resolveNames_below rooted goes (named name (by simp)).filled (by simp)
    (steps_pathBelow named root) (isAbsolute_pathBelow filled named) ?_ onward
  exact checkPath_eq_ok_iff.mpr ⟨spelled_pathBelow spelled named, stillFilled, short⟩

theorem mem_below_iff {tree : Tree} {top way : Location} {entry : Entry} :
    (way, entry) ∈ tree.below top ↔ way ≠ [] ∧ (top ++ way, entry) ∈ tree.entries := by
  simp only [Tree.below, List.mem_filterMap, Prod.exists]
  constructor
  · rintro ⟨location, held, member, split⟩
    split at split
    next name more apart =>
      cases split
      rw [← dropLead?_eq_some_iff.mp apart]
      exact ⟨by simp, member⟩
    next => cases split
  · rintro ⟨below, member⟩
    refine ⟨top ++ way, entry, member, ?_⟩
    rw [dropLead?_eq_some_iff.mpr rfl]
    cases way with
    | nil => exact absurd rfl below
    | cons name more => rfl

section Walk

variable {tree : Tree} (proper : tree.Proper) {root : Path} {top : Location}

include proper

theorem way_of_met {p : Path} {location : Location} {entry : Entry}
    (met : Met tree root top p location entry) :
    (p = root ∧ location = top ∧ entry = .directory) ∨
      ∃ way, way ≠ [] ∧ (top ++ way, entry) ∈ tree.entries ∧ location = top ++ way ∧
        p = pathBelow root way ∧ isWithinReach root way = true := by
  induction met with
  | root => exact .inl ⟨rfl, rfl, rfl⟩
  | @child p directory name _ above opens named there ih =>
    have member := proper.mem_of_get? named.filled there
    right
    rcases ih with ⟨rfl, rfl, -⟩ | ⟨way, -, -, rfl, rfl, -⟩
    · exact ⟨[name], by simp, member, rfl, rfl, by simpa [isWithinReach, pathBelow] using opens⟩
    · refine ⟨way ++ [name], by simp, ?_, by simp, (pathBelow_append root way name).symm, ?_⟩
      · rwa [← List.append_assoc]
      · simpa [isWithinReach] using opens

theorem met_of_mem {way : Location} {entry : Entry} (below : way ≠ [])
    (member : (top ++ way, entry) ∈ tree.entries) (reached : isWithinReach root way = true) :
    Met tree root top (pathBelow root way) (top ++ way) entry := by
  induction way using List.reverseRecOn generalizing entry with
  | nil => exact absurd rfl below
  | append_singleton way name ih =>
    have named : ∀ n ∈ way ++ [name], IsName n := fun n among =>
      proper.isName_of_mem member (List.mem_append_right _ among)
    have opens : (pathBelow root way).bytes.length < pathLimit := by
      simpa [isWithinReach] using reached
    have there := proper.get?_of_mem member
    rw [← List.append_assoc] at member there ⊢
    rw [pathBelow_append]
    refine .child ?_ opens (named name (by simp)) there
    have directory := proper.parent_of_mem member
    rcases List.eq_nil_or_concat way with rfl | ⟨front, last, rfl⟩
    · rw [List.append_nil]
      exact .root
    · -- The parent is met first, by a shorter path.
      have lastNamed : IsName last := named last (by simp)
      rw [List.concat_eq_append, ← List.append_assoc] at directory
      have held := proper.mem_of_get? lastNamed.filled directory
      rw [List.append_assoc, ← List.concat_eq_append] at held
      refine ih (by simp) held ?_
      rw [List.concat_eq_append, pathBelow_append] at opens
      have shorter := Path.length_lt_child lastNamed (pathBelow root front)
      simpa [isWithinReach] using Nat.lt_trans shorter opens

end Walk

theorem holdsText_iff {w : Workspace} {p : Path} {entry : Entry} :
    holdsText w p entry = true ↔
      (∃ content, entry = .file content) ∨
        ∃ target place content, entry = .link target ∧ w.stat p = .ok (place, .file content) := by
  cases entry with
  | file content => simp [holdsText]
  | directory => simp [holdsText]
  | device device => simp [holdsText]
  | link target =>
    simp only [holdsText, Workspace.isFile]
    rcases w.stat p with error | ⟨place, found⟩
    · simp
    · cases found <;> simp [Entry.isFile]

section Search

variable {w : Workspace} (proper : w.tree.Proper) {root : Path} {top : Location}

include proper

theorem meetsText_iff {p : Path} :
    MeetsText w root top p ↔
      ∃ way entry, (way, entry) ∈ w.tree.below top ∧ p = pathBelow root way ∧
        isWithinReach root way = true ∧ holdsText w p entry = true := by
  simp only [mem_below_iff, holdsText_iff]
  constructor
  · rintro ⟨location, ⟨content, met⟩ | ⟨target, place, content, met, leads⟩⟩
    · obtain ⟨-, -, other⟩ | ⟨way, below, member, -, rfl, reached⟩ := way_of_met proper met
      · cases other
      · exact ⟨way, _, ⟨below, member⟩, rfl, reached, .inl ⟨content, rfl⟩⟩
    · obtain ⟨-, -, other⟩ | ⟨way, below, member, -, rfl, reached⟩ := way_of_met proper met
      · cases other
      · exact ⟨way, _, ⟨below, member⟩, rfl, reached, .inr ⟨target, place, content, rfl, leads⟩⟩
  · rintro ⟨way, entry, ⟨below, member⟩, rfl, reached, text⟩
    have met := met_of_mem proper below member reached
    refine ⟨top ++ way, ?_⟩
    rcases text with ⟨content, rfl⟩ | ⟨target, place, content, rfl, leads⟩
    · exact .inl ⟨content, met⟩
    · exact .inr ⟨target, place, content, met, leads⟩

variable (rooted : w.stat root = .ok (top, .directory))

include rooted

theorem mem_sources_iff (filter : Filter) (p : Path) :
    p ∈ filter.sources w root ↔ IsSource filter w root top p := by
  rw [IsSource, meetsText_iff proper, Filter.sources, rooted]
  simp only [List.mem_filterMap, Prod.exists, Option.ite_none_right_eq_some, Bool.and_eq_true,
    Option.some.injEq]
  constructor
  · rintro ⟨way, entry, member, ⟨⟨reached, accepted⟩, text⟩, rfl⟩
    exact ⟨⟨way, entry, member, rfl, reached, text⟩, accepted⟩
  · rintro ⟨⟨way, entry, member, rfl, reached, text⟩, accepted⟩
    exact ⟨way, entry, member, ⟨⟨reached, accepted⟩, text⟩, rfl⟩

omit rooted in
-- No location has two entries, so no way down is taken twice.
theorem below_pairwise : (w.tree.below top).Pairwise fun a b => a.1 ≠ b.1 := by
  have distinct : w.tree.entries.Pairwise fun a b => a.1 ≠ b.1 :=
    List.pairwise_map.mp proper.formed.1
  refine List.pairwise_filterMap.mpr (distinct.imp ?_)
  rintro ⟨first, held⟩ ⟨second, other⟩ apart ⟨way, entry⟩ cut ⟨way', entry'⟩ cut' same
  obtain rfl : way = way' := same
  simp only at cut cut'
  split at cut <;> cases cut
  split at cut' <;> cases cut'
  next head _ tail =>
    apply apart
    exact (dropLead?_eq_some_iff.mp head).trans (dropLead?_eq_some_iff.mp tail).symm

theorem sources_nodup (filter : Filter) : (filter.sources w root).Nodup := by
  rw [Filter.sources, rooted]
  refine List.pairwise_filterMap.mpr ((below_pairwise proper).imp_of_mem ?_)
  rintro ⟨way, entry⟩ ⟨way', entry'⟩ member member' apart p found p' found' same
  simp only [Option.ite_none_right_eq_some, Option.some.injEq] at found found'
  -- Paths spell the names of their way, so different ways have different paths.
  have named : ∀ name ∈ way, IsName name := fun name among =>
    proper.isName_of_mem (mem_below_iff.mp member).2 (List.mem_append_right _ among)
  have named' : ∀ name ∈ way', IsName name := fun name among =>
    proper.isName_of_mem (mem_below_iff.mp member').2 (List.mem_append_right _ among)
  have spelled := names_pathBelow named root
  rw [found.2, same, ← found'.2, names_pathBelow named', List.append_cancel_left_eq] at spelled
  exact apart spelled.symm

theorem stat_of_met {p : Path} {location : Location} {entry : Entry}
    (met : Met w.tree root top p location entry) (real : ∀ target, entry ≠ .link target)
    (short : p.bytes.length < pathLimit) : w.stat p = .ok (location, entry) := by
  obtain ⟨rfl, rfl, rfl⟩ | ⟨way, below, member, rfl, rfl, -⟩ := way_of_met proper met
  · exact rooted
  · obtain ⟨front, name, rfl⟩ := List.eq_nil_or_concat way |>.resolve_left below
    rw [List.concat_eq_append] at member short ⊢
    have named : ∀ n ∈ front ++ [name], IsName n := fun n among =>
      proper.isName_of_mem member (List.mem_append_right _ among)
    have leads : Leads w.tree .content 0 top (front ++ [name]) (.taken (top ++ (front ++ [name])) entry) := by
      rw [← List.append_nil (front ++ [name])]
      refine Leads.descend proper member real rfl ?_
      rw [List.append_nil]
      exact .arrive (proper.get?_of_mem member)
    exact Workspace.stat_of_leads (resolveNames_pathBelow rooted named short (by decide) leads)

theorem isFile_of_meetsText {p : Path} (meets : MeetsText w root top p)
    (short : p.bytes.length < pathLimit) : w.isFile p = true := by
  obtain ⟨location, ⟨content, met⟩ | ⟨target, place, content, -, leads⟩⟩ := meets
  · rw [Workspace.isFile, stat_of_met proper rooted met (by simp) short]
    rfl
  · rw [Workspace.isFile, leads]
    rfl

end Search

section Ending

variable {filter : Filter} {w : Workspace} {root : Path}

theorem discover_of_unresolved {cause : IoError} (unresolved : w.stat root = .error cause) :
    filter.discover w root =
      if cause = .notFound then .error (.pathNotFound root) else .error (.rootAccess root cause) := by
  simp only [Filter.discover, unresolved, beq_iff_eq]

theorem discover_of_other {location : Location} {entry : Entry}
    (resolved : w.stat root = .ok (location, entry)) (other : entry ≠ .directory) :
    filter.discover w root = .error (.pathIsFile root) := by
  rw [Filter.discover, resolved]
  cases entry with
  | directory => exact absurd rfl other
  | file | link | device => rfl

theorem discover_of_directory {top : Location} (rooted : w.stat root = .ok (top, .directory)) :
    filter.discover w root =
      if filter.sources w root = [] then .error (.noSourceFiles root filter.extension)
      else .ok (filter.sources w root) := by
  rw [Filter.discover, rooted]
  simp only [List.isEmpty_iff]

-- One of these three applies to every root.
theorem stat_cases (w : Workspace) (root : Path) :
    (∃ cause, w.stat root = .error cause) ∨
      (∃ location entry, w.stat root = .ok (location, entry) ∧ entry ≠ .directory) ∨
      ∃ top, w.stat root = .ok (top, .directory) := by
  rcases w.stat root with cause | ⟨location, entry⟩
  · exact .inl ⟨cause, rfl⟩
  · by_cases directory : entry = .directory
    · exact .inr (.inr ⟨location, by rw [directory]⟩)
    · exact .inr (.inl ⟨location, entry, rfl, directory⟩)

theorem discover_eq_pathNotFound_iff :
    filter.discover w root = .error (.pathNotFound root) ↔ w.stat root = .error .notFound := by
  rcases stat_cases w root with ⟨cause, unresolved⟩ | ⟨_, _, resolved, other⟩ | ⟨_, rooted⟩
  · rw [discover_of_unresolved unresolved, unresolved, Except.error.injEq]
    split <;> simp_all
  · simp [discover_of_other resolved other, resolved]
  · rw [discover_of_directory rooted, rooted]
    split <;> simp

theorem discover_eq_rootAccess_iff {cause : IoError} :
    filter.discover w root = .error (.rootAccess root cause) ↔
      w.stat root = .error cause ∧ cause ≠ .notFound := by
  rcases stat_cases w root with ⟨found, unresolved⟩ | ⟨_, _, resolved, other⟩ | ⟨_, rooted⟩
  · rw [discover_of_unresolved unresolved, unresolved, Except.error.injEq]
    by_cases missing : found = .notFound
    · rw [if_pos missing]
      simp only [Except.error.injEq, reduceCtorEq, false_iff, not_and, not_not]
      exact fun same => same ▸ missing
    · rw [if_neg missing, Except.error.injEq, Error.rootAccess.injEq]
      exact ⟨fun same => ⟨same.2, same.2 ▸ missing⟩, fun same => ⟨rfl, same.1⟩⟩
  · simp [discover_of_other resolved other, resolved]
  · rw [discover_of_directory rooted, rooted]
    split <;> simp

theorem discover_eq_pathIsFile_iff :
    filter.discover w root = .error (.pathIsFile root) ↔
      ∃ location entry, w.stat root = .ok (location, entry) ∧ entry ≠ .directory := by
  rcases stat_cases w root with ⟨cause, unresolved⟩ | ⟨location, entry, resolved, other⟩ | ⟨_, rooted⟩
  · rw [discover_of_unresolved unresolved, unresolved]
    split <;> simp
  · rw [discover_of_other resolved other]
    exact iff_of_true rfl ⟨location, entry, resolved, other⟩
  · rw [discover_of_directory rooted, rooted]
    split <;> simp

theorem discover_eq_ok_iff {files : List Path} :
    filter.discover w root = .ok files ↔
      ∃ top, w.stat root = .ok (top, .directory) ∧ files = filter.sources w root ∧ files ≠ [] := by
  rcases stat_cases w root with ⟨cause, unresolved⟩ | ⟨_, _, resolved, other⟩ | ⟨top, rooted⟩
  · rw [discover_of_unresolved unresolved, unresolved]
    split <;> simp
  · rw [discover_of_other resolved other, resolved]
    simp [other]
  · rw [discover_of_directory rooted, rooted]
    by_cases empty : filter.sources w root = []
    · rw [if_pos empty]
      simp_all
    · rw [if_neg empty, Except.ok.injEq]
      constructor
      · rintro rfl
        exact ⟨top, rfl, rfl, empty⟩
      · rintro ⟨_, -, same, -⟩
        exact same.symm

theorem sources_eq_nil_iff (proper : w.tree.Proper) {top : Location}
    (rooted : w.stat root = .ok (top, .directory)) :
    filter.sources w root = [] ↔ ∀ p, ¬ IsSource filter w root top p := by
  rw [List.eq_nil_iff_forall_not_mem]
  exact forall_congr' fun p => not_congr (mem_sources_iff proper rooted filter p)

theorem discover_eq_noSourceFiles_iff (proper : w.tree.Proper) :
    filter.discover w root = .error (.noSourceFiles root filter.extension) ↔
      ∃ top, w.stat root = .ok (top, .directory) ∧ ∀ p, ¬ IsSource filter w root top p := by
  rcases stat_cases w root with ⟨cause, unresolved⟩ | ⟨_, _, resolved, other⟩ | ⟨top, rooted⟩
  · rw [discover_of_unresolved unresolved, unresolved]
    split <;> simp
  · rw [discover_of_other resolved other, resolved]
    simp [other]
  · have none : filter.sources w root = [] ↔ ∀ p, ¬ IsSource filter w root top p :=
      sources_eq_nil_iff proper rooted
    rw [discover_of_directory rooted]
    constructor
    · intro failed
      refine ⟨top, rooted, none.mp ?_⟩
      by_contra some
      rw [if_neg some] at failed
      cases failed
    · rintro ⟨other, alsoRooted, empty⟩
      rw [rooted] at alsoRooted
      cases alsoRooted
      rw [if_pos (none.mpr empty)]

end Ending

theorem discover_exact (filter : Filter) {w : Workspace} (proper : w.tree.Proper) (root : Path) :
    let result := filter.discover w root
    (result = .error (.pathNotFound root) ↔ w.stat root = .error .notFound) ∧
    (∀ cause, result = .error (.rootAccess root cause) ↔
      w.stat root = .error cause ∧ cause ≠ .notFound) ∧
    (result = .error (.pathIsFile root) ↔
      ∃ location entry, w.stat root = .ok (location, entry) ∧ entry ≠ .directory) ∧
    (result = .error (.noSourceFiles root filter.extension) ↔
      ∃ top, w.stat root = .ok (top, .directory) ∧ ∀ p, ¬ IsSource filter w root top p) ∧
    ((∃ files, result = .ok files) ↔
      ∃ top p, w.stat root = .ok (top, .directory) ∧ IsSource filter w root top p) ∧
    (∀ files top, result = .ok files → w.stat root = .ok (top, .directory) →
      files.Nodup ∧ (∀ p, p ∈ files ↔ IsSource filter w root top p) ∧
        ∀ p ∈ files, p.bytes.length < pathLimit → w.isFile p = true) ∧
    ∀ top, w.stat root = .ok (top, .directory) →
      (∃ files : List Path, files.Nodup ∧ (∀ p, p ∈ files ↔ IsSource filter w root top p) ∧
        filter.count w root = files.length) ∧
      (filter.count w root = 0 ↔ result = .error (.noSourceFiles root filter.extension)) := by
  intro result
  refine ⟨discover_eq_pathNotFound_iff, fun cause => discover_eq_rootAccess_iff,
    discover_eq_pathIsFile_iff, discover_eq_noSourceFiles_iff proper, ?_, ?_, ?_⟩
  · simp only [result, discover_eq_ok_iff]
    constructor
    · rintro ⟨files, top, rooted, rfl, some⟩
      obtain ⟨p, member⟩ := List.exists_mem_of_ne_nil _ some
      exact ⟨top, p, rooted, (mem_sources_iff proper rooted filter p).mp member⟩
    · rintro ⟨top, p, rooted, source⟩
      refine ⟨_, top, rooted, rfl, ?_⟩
      exact List.ne_nil_of_mem ((mem_sources_iff proper rooted filter p).mpr source)
  · intro files top found rooted
    obtain ⟨-, -, rfl, -⟩ := discover_eq_ok_iff.mp found
    refine ⟨sources_nodup proper rooted filter, mem_sources_iff proper rooted filter, ?_⟩
    intro p member short
    have source := (mem_sources_iff proper rooted filter p).mp member
    exact isFile_of_meetsText proper rooted source.1 short
  · intro top rooted
    refine ⟨⟨_, sources_nodup proper rooted filter, mem_sources_iff proper rooted filter, rfl⟩, ?_⟩
    rw [Filter.count, List.length_eq_zero_iff, sources_eq_nil_iff proper rooted]
    simp only [result]
    rw [discover_eq_noSourceFiles_iff proper, rooted]
    simp

-- Below a root that is a link: files, a directory with a source's name, and links to a file, to a
-- directory, to nothing and to themselves.
theorem discover_exact_links :
    let source := Entry.file (bytesOf "package p\n")
    let w : Workspace := ⟨⟨[([bytesOf "src"], .directory), ([bytesOf "root"], .link (.ofString "src")),
      ([bytesOf "src", bytesOf "a.go"], source), ([bytesOf "src", bytesOf "a_test.go"], source),
      ([bytesOf "src", bytesOf "d.go"], .directory), ([bytesOf "src", bytesOf "d.go", bytesOf "e.go"], source),
      ([bytesOf "src", bytesOf "l.go"], .link (.ofString "d.go/e.go")),
      ([bytesOf "src", bytesOf "k.go"], .link (.ofString "d.go")),
      ([bytesOf "src", bytesOf "m.go"], .link (.ofString "gone.go")),
      ([bytesOf "src", bytesOf "n.go"], .link (.ofString "n.go")),
      ([bytesOf "src", bytesOf "up"], .link (.ofString ".."))]⟩, []⟩
    let root := Path.ofString "root"
    let files := [Path.ofString "root/a.go", .ofString "root/d.go/e.go", .ofString "root/l.go"]
    w.tree.Proper ∧ ({} : Filter).discover w root = .ok files ∧
      w.stat root = .ok ([bytesOf "src"], .directory) ∧
      ∀ p, p ∈ files ↔ IsSource {} w root [bytesOf "src"] p := by
  intro source w root files
  have proper : w.tree.Proper := ⟨⟨by decide +kernel, by decide +kernel⟩, by decide +kernel⟩
  have found : ({} : Filter).discover w root = .ok files := by decide +kernel
  have rooted : w.stat root = .ok ([bytesOf "src"], .directory) := by decide +kernel
  obtain ⟨-, -, -, -, -, exact, -⟩ := discover_exact {} proper root
  exact ⟨proper, found, rooted, (exact files _ found rooted).2.1⟩

end InterfaceDraft.Source
