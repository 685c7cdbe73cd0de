import InterfaceDraft.Proofs.Files.Descent
import InterfaceDraft.Proofs.Files.Writing

set_option autoImplicit false

namespace InterfaceDraft.Files

open Text

-- The working directory is the same, and all entries are still there, but for the content of files.
structure Workspace.Keeps (w after : Workspace) : Prop where
  directory : after.directory = w.directory
  kept : ∀ {location entry}, w.tree.get? location = some entry → entry.isFile = false →
    after.tree.get? location = some entry
  files : ∀ {location content}, w.tree.get? location = some (.file content) →
    ∃ later, after.tree.get? location = some (.file later)

namespace Workspace

theorem Keeps.refl (w : Workspace) : w.Keeps w :=
  ⟨rfl, fun there _ => there, fun there => ⟨_, there⟩⟩

theorem Keeps.trans {first second third : Workspace} (before : first.Keeps second)
    (after : second.Keeps third) : first.Keeps third := by
  refine ⟨after.directory.trans before.directory, fun there noFile => ?_, fun there => ?_⟩
  · exact after.kept (before.kept there noFile) noFile
  · obtain ⟨_, between⟩ := before.files there
    exact after.files between

theorem get?_put_of_free {w : Workspace} {location : Location} (free : w.tree.get? location = none)
    (entry : Entry) (other : Location) :
    (w.put location entry).tree.get? other =
      if other = location then some entry else w.tree.get? other := by
  obtain ⟨filled, lasting, -⟩ := Tree.lookup_of_get?_none free
  exact w.tree.get?_put location other entry filled lasting

theorem get?_put_self {w : Workspace} {location : Location} (free : w.tree.get? location = none)
    (entry : Entry) : (w.put location entry).tree.get? location = some entry := by
  rw [get?_put_of_free free, if_pos rfl]

theorem kept_of_put {w : Workspace} {location : Location} (free : w.tree.get? location = none)
    (entry : Entry) {other : Location} {old : Entry} (there : w.tree.get? other = some old) :
    (w.put location entry).tree.get? other = some old := by
  rw [get?_put_of_free free, if_neg, there]
  rintro rfl
  rw [free] at there
  cases there

theorem keeps_of_put {w : Workspace} {location : Location}
    (free : w.tree.get? location = none) (entry : Entry) : w.Keeps (w.put location entry) :=
  ⟨rfl, fun there _ => kept_of_put free entry there, fun there => ⟨_, kept_of_put free entry there⟩⟩

theorem keeps_of_written {w after : Workspace} {location : Location} {content : Bytes}
    (written : w.tree.Written after.tree location content) (same : after.directory = w.directory) :
    w.Keeps after := by
  refine ⟨same, written.elsewhere, fun {other _} there => ?_⟩
  rw [written.agree]
  split
  · exact ⟨_, rfl⟩
  · exact ⟨_, there⟩

theorem makeDirectory_cases {w made : Workspace} {p : Path} (made? : w.makeDirectory p = .ok made) :
    ∃ directory name, w.resolveLink p = .ok (.free directory name) ∧
      made = w.put (directory ++ [name]) .directory := by
  unfold makeDirectory at made?
  split at made?
  next =>
    split at made?
    next => split at made? <;> cases made?
    next =>
      split at made?
      next => cases made?
      next => cases made?
      next directory name resolved =>
        cases made?
        exact ⟨directory, name, resolved, rfl⟩
  next => split at made? <;> cases made?

theorem keeps_of_makeDirectory {w made : Workspace} {p : Path} (made? : w.makeDirectory p = .ok made) :
    w.Keeps made := by
  obtain ⟨directory, name, resolved, rfl⟩ := makeDirectory_cases made?
  exact keeps_of_put (resolveNames_eq_ok_iff.mp resolved).2.isIn.2 _

-- What holds from before to after each directory that is made holds from before to after all of them,
-- also if not all could be made.
theorem related_of_makeFirst {related : Workspace → Workspace → Prop} (refl : ∀ w, related w w)
    (trans : ∀ {first second third}, related first second → related second third →
      related first third) {paths : List Path}
    (step : ∀ {w made p}, p ∈ paths → w.makeDirectory p = .ok made → related w made)
    {w after : Workspace} {failure : Option IoError} (made : w.makeFirst paths = (after, failure)) :
    related w after := by
  induction paths generalizing after failure with
  | nil =>
    cases made
    exact refl w
  | cons p parents ih =>
    have here {w made : Workspace} (made? : w.makeDirectory p = .ok made) : related w made :=
      step List.mem_cons_self made?
    have above {made : Workspace} {failure : Option IoError}
        (making : w.makeFirst parents = (made, failure)) : related w made :=
      ih (fun member => step (List.mem_cons_of_mem _ member)) making
    rw [makeFirst] at made
    split at made
    next =>
      cases made
      exact refl w
    next =>
      split at made
      next first =>
        cases made
        exact here first
      next =>
        split at made
        next =>
          split at made
          next making =>
            cases made
            exact above making
          next making =>
            split at made
            next second =>
              cases made
              exact trans (above making) (here second)
            next => split at made <;> cases made <;> exact above making
        next => split at made <;> cases made <;> exact refl w

theorem keeps_of_makeFirst {w after : Workspace} {paths : List Path} {failure : Option IoError}
    (made : w.makeFirst paths = (after, failure)) : w.Keeps after :=
  related_of_makeFirst Keeps.refl Keeps.trans (fun _ => keeps_of_makeDirectory) made

theorem keeps_of_write {w after : Workspace} {p : Path} {content : Bytes}
    (written : w.write p content = .ok after) : w.Keeps after := by
  unfold write at written
  split at written
  next => cases written
  next opened location created =>
    rcases create_cases created with ⟨place, -, -, change, same⟩ | ⟨device, -, there, unchanged⟩
    · rw [fill, change.here] at written
      cases written
      exact keeps_of_written (change.put content) same
    · rw [unchanged, fill, there] at written
      cases device with
      | full =>
        simp only at written
        split at written
        next =>
          cases written
          exact .refl w
        next => cases written
      | null =>
        cases written
        exact .refl w

-- The entry at the end of a path may have got another content, but the path leads there.
theorem Keeps.leads {w after : Workspace} (keeps : w.Keeps after) {links : Nat} {current : Location}
    {steps : List Name} {location : Location} {entry : Entry}
    (leads : Leads w.tree .content links current steps (.taken location entry)) :
    ∃ later, Leads after.tree .content links current steps (.taken location later) := by
  have still {location : Location} {entry : Entry} (there : w.tree.get? location = some entry)
      (real : ∀ target, entry ≠ .link target) :
      ∃ later, after.tree.get? location = some later ∧ ∀ target, later ≠ .link target := by
    cases entry with
    | file content =>
      obtain ⟨later, found⟩ := keeps.files there
      exact ⟨_, found, by simp⟩
    | directory | link | device => exact ⟨_, keeps.kept there rfl, real⟩
  generalize ends : Place.taken location entry = place at leads
  induction leads with
  | arrive there =>
    cases ends
    by_cases noFile : entry.isFile = false
    · exact ⟨entry, .arrive (keeps.kept there noFile)⟩
    · obtain ⟨later, found, -⟩ := still there (by rintro target rfl; exact noFile rfl)
      exact ⟨later, .arrive found⟩
  | stay inside idle _ ih =>
    obtain ⟨later, onward⟩ := ih ends
    exact ⟨later, .stay (keeps.kept inside rfl) idle onward⟩
  | up inside _ ih =>
    obtain ⟨later, onward⟩ := ih ends
    exact ⟨later, .up (keeps.kept inside rfl) onward⟩
  | down inside lookup there real _ ih =>
    obtain ⟨later, onward⟩ := ih ends
    obtain ⟨_, found, real⟩ := still there real
    exact ⟨later, .down (keeps.kept inside rfl) lookup found real onward⟩
  | follow inside lookup there through _ ih =>
    obtain ⟨later, onward⟩ := ih ends
    exact ⟨later, .follow (keeps.kept inside rfl) lookup (keeps.kept there rfl) through onward⟩
  | halt _ _ _ aimed => cases aimed
  | free => cases ends

theorem Keeps.stat {w after : Workspace} (keeps : w.Keeps after) {p : Path} {location : Location}
    {entry : Entry} (found : w.stat p = .ok (location, entry)) :
    ∃ later, after.stat p = .ok (location, later) ∧ after.tree.get? location = some later := by
  obtain ⟨checked, leads⟩ := leads_of_stat found
  obtain ⟨later, onward⟩ := keeps.leads leads
  refine ⟨later, stat_of_leads ?_, onward.isIn⟩
  rw [resolveNames_eq_ok_iff, keeps.directory]
  exact ⟨checked, onward⟩

theorem isFile_eq_true_iff {w : Workspace} {p : Path} :
    w.isFile p = true ↔ ∃ location content, w.stat p = .ok (location, .file content) := by
  unfold isFile
  rcases w.stat p with _ | ⟨location, _ | _ | _ | _⟩ <;> simp [Entry.isFile]

theorem isDirectory_eq_true_iff {w : Workspace} {p : Path} :
    w.isDirectory p = true ↔ ∃ location, w.stat p = .ok (location, .directory) := by
  unfold isDirectory
  rcases w.stat p with _ | ⟨location, _ | _ | _ | _⟩ <;> simp [Entry.isDirectory]

-- A path to a regular file still leads to one.
theorem isFile_of_keeps {w after : Workspace} (keeps : w.Keeps after) {p : Path}
    (regular : w.isFile p = true) : after.isFile p = true := by
  obtain ⟨location, content, found⟩ := isFile_eq_true_iff.mp regular
  obtain ⟨later, led, there⟩ := keeps.stat found
  obtain ⟨content, still⟩ := keeps.files (leads_of_stat found).2.isIn
  rw [still] at there
  cases there
  exact isFile_eq_true_iff.mpr ⟨location, content, led⟩

end Workspace

theorem resolveFrom_of_top {tree : Tree} {links : Nat} {directory : Location}
    (standing : ∀ front, front <+: directory → tree.get? front = some .directory)
    (named : ∀ name ∈ directory, IsName name) (steps : List Name) :
    resolveFrom tree .content links [] (directory ++ steps) =
      resolveFrom tree .content links directory steps := by
  induction directory using List.reverseRecOn generalizing steps with
  | nil => rfl
  | append_singleton front name ih =>
    have last := named name (by simp)
    have above : ∀ n ∈ front, IsName n := fun n member => named n (List.mem_append_left _ member)
    have present : isRemoved front = false := by
      rw [isRemoved, beq_eq_false_iff_ne]
      intro empty
      exact (above [] (List.mem_of_getLast? empty)).filled rfl
    have lookup : IsLookup .content front name steps :=
      ⟨last.filled, last.notHere, last.notAbove, rfl, present, last.short⟩
    have inside := standing front (List.prefix_append _ _)
    have higher : ∀ other, other <+: front → tree.get? other = some .directory :=
      fun other prefixed => standing other (prefixed.trans (List.prefix_append _ _))
    rw [List.append_assoc, List.singleton_append, ih higher above, resolveFrom_eq,
      stepThrough_lookup inside lookup, standing _ (List.prefix_refl _)]

theorem leads_of_top_iff {tree : Tree} {links : Nat} {directory : Location} {steps : List Name}
    {place : Place} (standing : ∀ front, front <+: directory → tree.get? front = some .directory)
    (named : ∀ name ∈ directory, IsName name) :
    Leads tree .content links [] (directory ++ steps) place ↔
      Leads tree .content links directory steps place := by
  rw [← resolveFrom_eq_ok_iff, resolveFrom_of_top standing named, resolveFrom_eq_ok_iff]

namespace Path

theorem names_joinPieces {directory : Location} (named : ∀ name ∈ directory, IsName name) :
    names ⟨joinPieces directory⟩ = directory := by
  fun_induction joinPieces directory with
  | case1 => rfl
  | case2 name => exact names_of_name (named name (by simp))
  | case3 name more _ ih =>
    rw [names_append, names_of_name (named name (by simp)),
      ih fun n member => named n (List.mem_cons_of_mem _ member)]
    rfl

theorem spelled_joinPieces {directory : Location} (named : ∀ name ∈ directory, IsName name) :
    0 ∉ joinPieces directory := by
  fun_induction joinPieces directory with
  | case1 => simp
  | case2 name => exact (named name (by simp)).spelled
  | case3 name more _ ih =>
    have first := (named name (by simp)).spelled
    have rest := ih fun n member => named n (List.mem_cons_of_mem _ member)
    have separator : (0 : UInt8) ≠ slash := by decide
    simp [first, rest, separator]

-- The absolute path of a location.
def ofLocation (location : Location) : Path := ⟨slash :: joinPieces location⟩

theorem names_ofLocation {location : Location} (named : ∀ name ∈ location, IsName name) :
    (ofLocation location).names = location :=
  (names_append [] _).trans (names_joinPieces named)

theorem spelled_ofLocation {location : Location} (named : ∀ name ∈ location, IsName name) :
    0 ∉ (ofLocation location).bytes := by
  have separator : (0 : UInt8) ≠ slash := by decide
  simp [ofLocation, separator, spelled_joinPieces named]

theorem steps_join {p : Path} (filled : p.bytes ≠ []) (base : Path) :
    (base.child p.bytes).steps = base.names ++ p.steps := by
  have ends : (base.child p.bytes).endsInSlash = p.endsInSlash := by
    obtain ⟨lead, shape, -⟩ := base.child_bytes p.bytes
    rw [endsInSlash, shape, ← List.append_assoc, List.getLast?_append_of_ne_nil _ filled]
    rfl
  rw [steps, steps, ends, names_join]
  split
  · rw [List.append_assoc]
  · rfl

end Path

namespace Workspace

theorem directoryPath?_eq_some_iff {w : Workspace} {base : Path} :
    w.directoryPath? = some base ↔ isRemoved w.directory = false ∧ base = .ofLocation w.directory := by
  unfold directoryPath?
  cases isRemoved w.directory with
  | true => simp
  | false => simp [Path.ofLocation, eq_comm]

-- A path leads from the working directory to where it leads from the top behind the names of that
-- directory.
theorem stat_of_directoryPath {w : Workspace} {p base : Path} (relative : p.isAbsolute = false)
    (standing : ∀ front, front <+: w.directory → w.tree.get? front = some .directory)
    (named : ∀ name ∈ w.directory, IsName name) (based : w.directoryPath? = some base)
    (short : (base.child p.bytes).bytes.length < pathLimit) {location : Location} {entry : Entry}
    (found : w.stat p = .ok (location, entry)) :
    w.stat (base.child p.bytes) = .ok (location, entry) := by
  obtain ⟨checked, leads⟩ := leads_of_stat found
  obtain ⟨spelled, filled, -⟩ := checkPath_eq_ok_iff.mp checked
  rw [relative] at leads
  obtain ⟨-, rfl⟩ := directoryPath?_eq_some_iff.mp based
  have absolute : ((Path.ofLocation w.directory).child p.bytes).isAbsolute = true :=
    Path.isAbsolute_child (List.cons_ne_nil _ _) p.bytes
  have alsoChecked : checkPath ((Path.ofLocation w.directory).child p.bytes) = .ok () := by
    obtain ⟨lead, shape, slashes⟩ := Path.child_bytes (.ofLocation w.directory) p.bytes
    refine checkPath_eq_ok_iff.mpr ⟨?_, by simp [shape, filled], short⟩
    have separator : (0 : UInt8) ≠ Path.slash := by decide
    have leadSpelled : 0 ∉ lead := fun member => separator (slashes 0 member)
    simp [shape, Path.spelled_ofLocation named, leadSpelled, spelled]
  apply stat_of_leads
  rw [resolveNames_eq_ok_iff, absolute, Path.steps_join filled, Path.names_ofLocation named]
  exact ⟨alsoChecked, (leads_of_top_iff standing named).mpr leads⟩

end Workspace

end InterfaceDraft.Files
