import InterfaceDraft.Proofs.Extraction.Schedule
import InterfaceDraft.Proofs.Files.NewFile
import InterfaceDraft.Proofs.Interface.Inert
import InterfaceDraft.Proofs.Source.Discovery

set_option autoImplicit false

namespace InterfaceDraft.Source

open Text Files

-- A place for a new source: the walk meets the directory, nothing has the name there, and no link
-- that the walk meets leads to it.
structure IsVacant (filter : Filter) (w : Workspace) (root : Path) (top : Location) (above : Path)
    (directory : Location) (name : Name) : Prop where
  met : Met w.tree root top above directory .directory
  named : IsName name
  short : (above.child name).bytes.length < pathLimit
  accepted : filter.accepts (above.child name) = true
  missing : w.tree.get? (directory ++ [name]) = none
  unaimed : ∀ p location target, Met w.tree root top p location (.link target) →
    w.resolve p ≠ .ok (.free directory name)

-- The root itself is met by the empty way.
theorem exists_way {tree : Tree} (proper : tree.Proper) {root : Path} {top : Location} {p : Path}
    {location : Location} {entry : Entry} (met : Met tree root top p location entry) :
    ∃ way, location = top ++ way ∧ p = pathBelow root way ∧ ∀ name ∈ way, IsName name := by
  obtain ⟨rfl, rfl, -⟩ | ⟨way, -, member, rfl, rfl, -⟩ := way_of_met proper met
  · exact ⟨[], by simp, rfl, by simp⟩
  · exact ⟨way, rfl, rfl, fun name among =>
      proper.isName_of_mem member (List.mem_append_right _ among)⟩

theorem path_eq_iff {root : Path} {way way' : Location} (named : ∀ name ∈ way, IsName name)
    (named' : ∀ name ∈ way', IsName name) : pathBelow root way = pathBelow root way' ↔ way = way' := by
  constructor
  · intro same
    have spelled := names_pathBelow named root
    rw [same, names_pathBelow named', List.append_cancel_left_eq] at spelled
    exact spelled.symm
  · rintro rfl
    rfl

theorem get?_of_met {tree : Tree} {root : Path} {top : Location} (inside : tree.get? top = some .directory)
    {p : Path} {location : Location} {entry : Entry} (met : Met tree root top p location entry) :
    tree.get? location = some entry := by
  cases met with
  | root => exact inside
  | child _ _ _ there => exact there

theorem met_location_iff {tree : Tree} (proper : tree.Proper) {root : Path} {top : Location}
    {p p' : Path} {location location' : Location} {entry entry' : Entry}
    (met : Met tree root top p location entry) (met' : Met tree root top p' location' entry') :
    p = p' ↔ location = location' := by
  obtain ⟨way, rfl, rfl, named⟩ := exists_way proper met
  obtain ⟨way', rfl, rfl, named'⟩ := exists_way proper met'
  rw [path_eq_iff named named', List.append_cancel_left_eq]

section Vacant

variable {filter : Filter} {w : Workspace} {root : Path} {top : Location} {above : Path}
  {directory : Location} {name : Name} (proper : w.Proper)
  (rooted : w.stat root = .ok (top, .directory))
  (vacant : IsVacant filter w root top above directory name)

include proper

-- A search that found something did not start in a removed directory.
theorem present_of_met {p : Path} (found : filter.sources w root ≠ [])
    (rooted : w.stat root = .ok (top, .directory)) {location : Location} {entry : Entry}
    (met : Met w.tree root top p location entry) : isRemoved location = false := by
  obtain ⟨q, member⟩ := List.exists_mem_of_ne_nil _ found
  have source := (mem_sources_iff proper.tree rooted filter q).mp member
  obtain ⟨way, _, below, -⟩ := (meetsText_iff proper.tree).mp source.1
  have topPresent := proper.tree.present_of_mem (mem_below_iff.mp below).2
  obtain ⟨-, rfl, -⟩ | ⟨way, -, held, rfl, -, -⟩ := way_of_met proper.tree met
  · exact topPresent
  · have ends : (top ++ way, entry) = ((top ++ way) ++ [], entry) := by simp
    rw [ends] at held
    exact proper.tree.present_of_mem held

include rooted vacant

theorem resolve_vacant (found : filter.sources w root ≠ []) :
    w.resolveNames .output (above.child name) (above.child name).steps = .ok (.free directory name) := by
  have inside := get?_of_met (Workspace.leads_of_stat rooted).2.isIn vacant.met
  have asked : asksDirectory [name] = false := by simp [asksDirectory, vacant.named.filled]
  have onward : Leads w.tree .output 0 directory [name] (.free directory name) :=
    .free inside (isLookup_of_name vacant.named (present_of_met proper found rooted vacant.met) rfl)
      vacant.missing
  have down : ∃ way, above = pathBelow root way ∧ (∀ n ∈ way, IsName n) ∧
      Leads w.tree .output 0 top (way ++ [name]) (.free directory name) := by
    obtain ⟨rfl, rfl, -⟩ | ⟨way, -, member, rfl, rfl, -⟩ := way_of_met proper.tree vacant.met
    · exact ⟨[], rfl, by simp, onward⟩
    · refine ⟨way, rfl, ?_, Leads.descend proper.tree member (by simp) asked onward⟩
      exact fun n among => proper.tree.isName_of_mem member (List.mem_append_right _ among)
  obtain ⟨way, rfl, named, leads⟩ := down
  have short := vacant.short
  rw [← pathBelow_append] at short ⊢
  refine resolveNames_pathBelow rooted ?_ short (by decide) leads
  intro n among
  rcases List.mem_append.mp among with between | last
  · exact named n between
  · rw [List.mem_singleton.mp last]
    exact vacant.named

variable {after : Workspace} {content : Bytes}
  (written : w.tree.Written after.tree (directory ++ [name]) content)
  (same : after.directory = w.directory)

include written

omit rooted in
theorem met_after_iff {p : Path} {location : Location} {entry : Entry} :
    Met after.tree root top p location entry ↔
      Met w.tree root top p location entry ∨
        p = above.child name ∧ location = directory ++ [name] ∧ entry = .file content := by
  have kept {other : Location} {held : Entry} (there : w.tree.get? other = some held) :
      after.tree.get? other = some held := written.kept vacant.missing there
  have stays {p : Path} {location : Location} {entry : Entry} (met : Met w.tree root top p location entry) :
      Met after.tree root top p location entry := by
    induction met with
    | root => exact .root
    | child _ opens named there ih => exact .child ih opens named (kept there)
  constructor
  · intro met
    induction met with
    | root => exact .inl .root
    | @child p holder last entry _ opens named there ih =>
      rcases ih with earlier | ⟨-, -, other⟩
      · by_cases fresh : holder ++ [last] = directory ++ [name]
        · obtain ⟨rfl, sameName⟩ := List.append_inj' fresh rfl
          obtain rfl := List.singleton_injective sameName
          obtain rfl := (met_location_iff proper.tree earlier vacant.met).mpr rfl
          rw [written.here, Option.some.injEq] at there
          exact .inr ⟨rfl, rfl, there.symm⟩
        · rw [written.agree, if_neg fresh] at there
          exact .inl (.child earlier opens named there)
      · cases other
  · rintro (earlier | ⟨rfl, rfl, rfl⟩)
    · exact stays earlier
    · have opens := Nat.lt_trans (Path.length_lt_child vacant.named above) vacant.short
      exact .child (stays vacant.met) opens vacant.named written.here

include same

omit rooted in
theorem isSource_after_iff {p : Path} :
    IsSource filter after root top p ↔ IsSource filter w root top p ∨ p = above.child name := by
  constructor
  · rintro ⟨⟨location, ⟨text, met⟩ | ⟨target, place, text, met, leads⟩⟩, accepted⟩
    · rcases (met_after_iff proper vacant written).mp met with earlier | ⟨fresh, -, -⟩
      · exact .inl ⟨⟨location, .inl ⟨text, earlier⟩⟩, accepted⟩
      · exact .inr fresh
    · rcases (met_after_iff proper vacant written).mp met with earlier | ⟨-, -, other⟩
      · rcases Workspace.stat_before_new written vacant.missing same proper leads with ledThere | aimed
        · exact .inl ⟨⟨location, .inr ⟨target, place, text, earlier, ledThere⟩⟩, accepted⟩
        · exact absurd aimed (vacant.unaimed p location target earlier)
      · cases other
  · rintro (⟨⟨location, ⟨text, met⟩ | ⟨target, place, text, met, leads⟩⟩, accepted⟩ | rfl)
    · have later := (met_after_iff proper vacant written).mpr (.inl met)
      exact ⟨⟨location, .inl ⟨text, later⟩⟩, accepted⟩
    · have later := (met_after_iff proper vacant written).mpr (.inl met)
      have stillLeads := Workspace.stat_after_new written vacant.missing same leads
      exact ⟨⟨location, .inr ⟨target, place, text, later, stillLeads⟩⟩, accepted⟩
    · have fresh := (met_after_iff proper vacant written).mpr (.inr ⟨rfl, rfl, rfl⟩)
      exact ⟨⟨_, .inl ⟨content, fresh⟩⟩, vacant.accepted⟩

omit same written in
theorem not_isSource_vacant : ¬ IsSource filter w root top (above.child name) := by
  have unmet {location : Location} {entry : Entry} :
      ¬ Met w.tree root top (above.child name) location entry := by
    intro met
    have there := get?_of_met (Workspace.leads_of_stat rooted).2.isIn met
    obtain ⟨way, parent, rfl, named⟩ := exists_way proper.tree vacant.met
    obtain ⟨other, rfl, path, alsoNamed⟩ := exists_way proper.tree met
    have allNamed : ∀ n ∈ way ++ [name], IsName n := by
      intro n among
      rcases List.mem_append.mp among with between | last
      · exact named n between
      · rw [List.mem_singleton.mp last]
        exact vacant.named
    rw [← pathBelow_append, path_eq_iff allNamed alsoNamed] at path
    have missing := vacant.missing
    rw [parent, List.append_assoc, path, there] at missing
    cases missing
  rintro ⟨⟨location, ⟨text, met⟩ | ⟨target, place, text, met, -⟩⟩, -⟩
  · exact unmet met
  · exact unmet met

theorem sources_after_perm (properAfter : after.tree.Proper) :
    (filter.sources after root).Perm (above.child name :: filter.sources w root) := by
  have stillRooted := Workspace.stat_after_new written vacant.missing same rooted
  have fresh : above.child name ∉ filter.sources w root := fun member =>
    not_isSource_vacant proper rooted vacant ((mem_sources_iff proper.tree rooted filter _).mp member)
  rw [List.perm_ext_iff_of_nodup (sources_nodup properAfter stillRooted filter)
    (List.nodup_cons.mpr ⟨fresh, sources_nodup proper.tree rooted filter⟩)]
  intro p
  rw [List.mem_cons, mem_sources_iff properAfter stillRooted, mem_sources_iff proper.tree rooted,
    isSource_after_iff proper vacant written same, or_comm]

-- Sources are read as before. Those with a path that is too long still cannot be.
theorem read_after {p : Path} (member : p ∈ filter.sources w root) : after.read p = w.read p := by
  have source := (mem_sources_iff proper.tree rooted filter p).mp member
  suffices sameStat : after.stat p = w.stat p by rw [Workspace.read, Workspace.read, sameStat]
  cases checked : checkPath p with
  | error cause =>
    simp only [Workspace.stat, Workspace.resolve, Workspace.resolveNames, checked]
  | ok =>
    have short := (checkPath_eq_ok_iff.mp checked).2.2
    have isFile := isFile_of_meetsText proper.tree rooted source.1 short
    unfold Workspace.isFile at isFile
    split at isFile
    next location entry led => rw [led, Workspace.stat_after_new written vacant.missing same led]
    next => cases isFile

end Vacant

end InterfaceDraft.Source

namespace InterfaceDraft.Extraction

open Text Files Source Interface

-- A file without signatures that can be read counts as discovered and scanned.
theorem Findings.Describes.stats_of_silent {before after : Findings} {w w' : Workspace}
    {receiver : List Char} {files files' : List Path} {q : Path} {text : List Char}
    (described : before.Describes w receiver files) (alsoDescribed : after.Describes w' receiver files')
    (perm : files'.Perm (q :: files)) (read : ∀ p ∈ files, textOf w' p = textOf w p)
    (fresh : textOf w' q = .ok text) (silent : Signature.ofText receiver text = [])
    (workers : after.stats.workers = before.stats.workers) :
    after.signatures = before.signatures ∧ after.errors.Perm before.errors ∧
      after.stats = { before.stats with
        discovered := before.stats.discovered + 1
        scanned := before.stats.scanned + 1
        elapsed := after.stats.elapsed } := by
  have sameTexts : (files.filterMap fun p => (textOf w' p).toOption) =
      files.filterMap fun p => (textOf w p).toOption := by
    apply List.filterMap_congr
    intro p member
    rw [read p member]
  have sameErrors : files.filterMap (readError? w') = files.filterMap (readError? w) := by
    apply List.filterMap_congr
    intro p member
    rw [readError?, readError?, read p member]
  have noError : readError? w' q = none := by rw [readError?, fresh]
  have text? : (textOf w' q).toOption = some text := by rw [fresh]; rfl
  have errors : after.errors.Perm before.errors := by
    refine alsoDescribed.errors.trans ((perm.filterMap _).trans ?_)
    rw [List.filterMap_cons_none noError, sameErrors]
    exact described.errors.symm
  have signatures : after.signatures = before.signatures := by
    refine alsoDescribed.ordered.eq_of_perm described.ordered ?_
    refine alsoDescribed.signatures.trans (((perm.filterMap _).flatMap_right _).trans ?_)
    simp only [List.filterMap_cons, text?, List.flatMap_cons, silent, List.nil_append, sameTexts]
    exact described.signatures.symm
  refine ⟨signatures, errors, ?_⟩
  have found := alsoDescribed.found.trans (signatures ▸ described.found.symm)
  have discovered : after.stats.discovered = before.stats.discovered + 1 := by
    rw [alsoDescribed.discovered, described.discovered, perm.length_eq, List.length_cons]
  have failed : after.stats.failed = before.stats.failed := by
    have count := errors.length_eq
    rw [alsoDescribed.errors.length_eq, described.errors.length_eq,
      List.length_filterMap_eq_countP, List.length_filterMap_eq_countP] at count
    rw [alsoDescribed.failed, described.failed, count]
  have scanned : after.stats.scanned = before.stats.scanned + 1 := by
    have counted := described.counted
    have alsoCounted := alsoDescribed.counted
    omega
  exact (Stats.mk.injEq ..).mpr ⟨discovered, scanned, failed, found, workers, rfl⟩

section Again

variable {extractor : Extractor} {w : Workspace} (proper : w.Proper) {receiver : List Char}
  {root : Path} {refused : Nat → Option String} {elapsed : Nat} {findings : Findings}
  (finished : extractor.run w receiver root refused elapsed = .ok findings)
  {top : Location} (rooted : w.stat root = .ok (top, .directory)) {above : Path}
  {directory : Location} {name : Name}
  (vacant : IsVacant extractor.filter w root top above directory name) {text : List Char}
  (silent : Signature.ofText receiver text = [])

include proper finished rooted vacant silent

theorem run_after_silent_file (after : Workspace)
    (written : w.tree.Written after.tree (directory ++ [name]) (encode text))
    (same : after.directory = w.directory) (properAfter : after.tree.Proper) (elapsed' : Nat) :
    ∃ again, extractor.run after receiver root refused elapsed' = .ok again ∧
      again.signatures = findings.signatures ∧ again.errors.Perm findings.errors ∧
      again.stats = { findings.stats with
        discovered := findings.stats.discovered + 1
        scanned := findings.stats.scanned + 1
        elapsed := elapsed' } := by
  obtain ⟨pool, started⟩ := started_of_run finished
  obtain ⟨files, discovered, -⟩ := run_described finished
  obtain ⟨-, -, rfl, found⟩ := discover_eq_ok_iff.mp discovered
  obtain ⟨_, run, described, workers, -⟩ := run_of_discover discovered started receiver elapsed
  rw [finished] at run
  cases run
  have perm := sources_after_perm proper rooted vacant written same properAfter
  have some : extractor.filter.sources after root ≠ [] := by
    intro empty
    simp [empty] at perm
  have stillRooted := Workspace.stat_after_new written vacant.missing same rooted
  obtain ⟨again, runAgain, alsoDescribed, alsoWorkers, elapsedAgain⟩ := run_of_discover
    (discover_eq_ok_iff.mpr ⟨top, stillRooted, rfl, some⟩) started receiver elapsed'
  have fresh : textOf after (above.child name) = .ok text := by
    have resolved := resolve_vacant proper rooted vacant found
    simp only [textOf, Workspace.read, Workspace.stat_of_written resolved written same, decode?_encode]
  have read : ∀ p ∈ extractor.filter.sources w root, textOf after p = textOf w p := by
    intro p member
    rw [textOf, textOf, read_after proper rooted vacant written same member]
  obtain ⟨signatures, errors, stats⟩ := described.stats_of_silent alsoDescribed perm read fresh silent
    (alsoWorkers.trans workers.symm)
  rw [elapsedAgain] at stats
  exact ⟨again, runAgain, signatures, errors, stats⟩

theorem run_with_silent_file (elapsed' : Nat) :
    ∃ after again, w.write (above.child name) (encode text) = .ok after ∧
      extractor.run after receiver root refused elapsed' = .ok again ∧
      again.signatures = findings.signatures ∧ again.errors.Perm findings.errors ∧
      again.stats = { findings.stats with
        discovered := findings.stats.discovered + 1
        scanned := findings.stats.scanned + 1
        elapsed := elapsed' } := by
  obtain ⟨files, discovered, -⟩ := run_described finished
  obtain ⟨-, -, rfl, found⟩ := discover_eq_ok_iff.mp discovered
  have resolved := resolve_vacant proper rooted vacant found
  have inside := get?_of_met (Workspace.leads_of_stat rooted).2.isIn vacant.met
  have present := present_of_met proper found rooted vacant.met
  have free : ∀ entry, w.tree.get? (directory ++ [name]) = some entry → entry.isFile = true := by
    simp [vacant.missing]
  obtain ⟨again, run⟩ := run_after_silent_file proper finished rooted vacant silent (w.put _ _)
    (Tree.written_put free (encode text)) rfl
    (proper.tree.put inside present vacant.named vacant.missing _) elapsed'
  exact ⟨_, again, Workspace.write_of_free resolved _, run⟩

end Again

theorem rendering_inert_under_rescan {draft : Draft} (nameFlat : '\n' ∉ draft.name)
    (packageFlat : ∀ package ∈ draft.package, '\n' ∉ package) (noMethod : draft.InjectsNoMethod)
    {signatures : List (List Char)} (extracted : Extracted signatures) :
    (∀ receiver, Signature.ofText receiver (draft.render signatures) = []) ∧
    ∀ (extractor : Extractor) (w : Workspace) (receiver : List Char) (root : Path)
      (refused : Nat → Option String) (elapsed : Nat) (findings : Findings) (top : Location)
      (above : Path) (directory : Location) (name : Name) (elapsed' : Nat), w.Proper →
      extractor.run w receiver root refused elapsed = .ok findings →
      w.stat root = .ok (top, .directory) →
      IsVacant extractor.filter w root top above directory name →
      ∃ after again, w.write (above.child name) (encode (draft.render signatures)) = .ok after ∧
        extractor.run after receiver root refused elapsed' = .ok again ∧
        again.signatures = findings.signatures ∧ again.errors.Perm findings.errors ∧
        again.stats = { findings.stats with
          discovered := findings.stats.discovered + 1
          scanned := findings.stats.scanned + 1
          elapsed := elapsed' } := by
  have silent := Draft.ofText_render nameFlat packageFlat noMethod extracted
  refine ⟨silent, ?_⟩
  intro extractor w receiver root refused elapsed findings top above directory name elapsed' proper
    finished rooted vacant
  exact run_with_silent_file proper finished rooted vacant (silent receiver) elapsed'

-- A method, a file that is not UTF-8 and a link to a source; the declaration goes into a directory
-- below them, with the package line and a comment that is left open.
theorem rendering_inert_under_rescan_nested :
    let draft : Draft := ⟨"Store".toList, some "p".toList, ["// func (t *T) X() \x7b\\n/* open".toList], .go⟩
    let signatures := ["Put(a string)".toList]
    let w : Workspace := ⟨⟨[([bytesOf "src"], .directory), ([bytesOf "src", bytesOf "sub"], .directory),
      ([bytesOf "src", bytesOf "a.go"], .file (bytesOf "func (t *T) Put(\n\ta string,\n) \x7b\n")),
      ([bytesOf "src", bytesOf "b.go"], .file [0xff]),
      ([bytesOf "src", bytesOf "l.go"], .link (.ofString "a.go"))]⟩, []⟩
    let root := Path.ofString "src"
    Extracted signatures ∧ w.Proper ∧
      ∃ findings after again, ({} : Extractor).extract w ['T'] root = .ok findings ∧
        findings.errors.length = 1 ∧
        w.write (.ofString "src/sub/out.go") (encode (draft.render signatures)) = .ok after ∧
        ({} : Extractor).extract after ['T'] root = .ok again ∧
        again.signatures = findings.signatures ∧ again.errors.Perm findings.errors ∧
        again.stats.scanned = findings.stats.scanned + 1 := by
  intro draft signatures w root
  have extracted : Extracted signatures := by
    intro signature member
    rw [List.mem_singleton.mp member]
    exact ⟨"T".toList, "func (t *T) Put(\n\ta string,\n) \x7b\n".toList, by decide⟩
  have proper : w.Proper := by
    refine ⟨⟨⟨by decide +kernel, by decide +kernel⟩, by decide +kernel⟩, ?_⟩
    intro front above
    rw [List.prefix_nil.mp above]
    rfl
  have rooted : w.stat root = .ok ([bytesOf "src"], .directory) := by decide +kernel
  have vacant : IsVacant {} w root [bytesOf "src"] (.ofString "src/sub") [bytesOf "src", bytesOf "sub"]
      (bytesOf "out.go") := by
    refine ⟨?_, by decide +kernel, by decide +kernel, by decide +kernel, by decide +kernel, ?_⟩
    · exact .child .root (by decide +kernel) (by decide +kernel : IsName (bytesOf "sub")) (by decide +kernel)
    · intro p location target met
      obtain ⟨-, -, other⟩ | ⟨way, -, member, rfl, rfl, -⟩ := way_of_met proper.tree met
      · cases other
      · have only : way = [bytesOf "l.go"] ∧ target = .ofString "a.go" := by simpa [w] using member
        rw [only.1]
        decide +kernel
  have discovered : ({} : Extractor).filter.discover w root =
      .ok [.ofString "src/a.go", .ofString "src/b.go", .ofString "src/l.go"] := by decide +kernel
  have started : (Pool.start? (fun _ => none) ({} : Extractor).poolSize : Except PoolError (Pool Scanned)) =
      .ok (.start 10) := rfl
  obtain ⟨findings, finished, described, -⟩ := run_of_discover discovered started ['T'] 0
  obtain ⟨-, again⟩ := rendering_inert_under_rescan (by decide : '\n' ∉ draft.name)
    (by decide : ∀ package ∈ draft.package, '\n' ∉ package) (by decide : draft.InjectsNoMethod) extracted
  obtain ⟨after, again, written, run, signatures, errors, stats⟩ :=
    again {} w ['T'] root _ 0 findings _ _ _ _ 0 proper finished rooted vacant
  refine ⟨extracted, proper, findings, after, again, finished, ?_, written, run, signatures, errors, ?_⟩
  · rw [described.errors.length_eq]
    decide +kernel
  · rw [stats]

end InterfaceDraft.Extraction
