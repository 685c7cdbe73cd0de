import InterfaceDraft.Output.Sink
import InterfaceDraft.Proofs.Files.Directories

set_option autoImplicit false

namespace InterfaceDraft.Output

open Text Files

-- The path leads to a device.
def IsDevice (w : Workspace) (p : Path) : Prop :=
  ∃ location device, w.stat p = .ok (location, .device device)

section

variable {w made : Workspace} {p : Path} {createDirs : Bool} {failure : Option IoError}

theorem prepareParent_cases (prepared : prepareParent w p createDirs = (made, failure)) :
    (made = w ∧ ∀ parent, p.parent? = some parent → failure = none →
      parent.isEmpty = true ∨ w.existsAt parent = true) ∨
    createDirs = true ∧ ∃ parent, p.parent? = some parent ∧
      w.makeDirectories parent = (made, failure) := by
  unfold prepareParent at prepared
  split at prepared
  next alone =>
    cases prepared
    exact .inl ⟨rfl, fun parent above => by simp [alone] at above⟩
  next parent above =>
    split at prepared
    next there =>
      cases prepared
      rw [Bool.or_eq_true] at there
      exact .inl ⟨rfl, fun other same _ => Option.some.inj (above.symm.trans same) ▸ there⟩
    next =>
      split at prepared
      next wanted => exact .inr ⟨wanted, parent, above, prepared⟩
      next =>
        cases prepared
        exact .inl ⟨rfl, fun _ _ none => (nomatch none)⟩

theorem grown_of_prepareParent {spared : Set Location}
    (prepared : prepareParent w p createDirs = (made, failure)) : w.Grown made p spared := by
  rcases prepareParent_cases prepared with ⟨rfl, -⟩ | ⟨-, parent, above, making⟩
  · exact .refl made
  · exact Workspace.grown_of_makeDirectories above making

theorem prepareParent_unmade (prepared : prepareParent w p false = (made, failure)) :
    made = w ∧ ∀ parent, p.parent? = some parent → failure = none →
      parent.isEmpty = true ∨ w.existsAt parent = true :=
  (prepareParent_cases prepared).resolve_right fun wanted => (nomatch wanted.1)

end

section

variable {w opened : Workspace} {out : Path} {extension : String} {createDirs : Bool}

theorem openSink_error {e : Error} (failed : openSink w out extension createDirs = (opened, .error e)) :
    ∃ failure, prepareParent w (pathFor out extension) createDirs = (opened, failure) := by
  unfold openSink at failed
  simp only at failed
  split at failed
  next prepared =>
    cases failed
    exact ⟨_, prepared⟩
  next prepared =>
    split at failed
    next =>
      cases failed
      exact ⟨_, prepared⟩
    next => cases failed

theorem openSink_ok {sink : Sink} (opening : openSink w out extension createDirs = (opened, .ok sink)) :
    ∃ made, prepareParent w (pathFor out extension) createDirs = (made, none) ∧
      made.create (pathFor out extension) = .ok (opened, sink.location) := by
  unfold openSink at opening
  simp only at opening
  split at opening
  next => cases opening
  next made prepared =>
    split at opening
    next => cases opening
    next created =>
      cases opening
      exact ⟨made, prepared, created⟩

theorem hasParent_of_openSink {sink : Sink}
    (opening : openSink w out extension false = (opened, .ok sink)) :
    w.HasParent (pathFor out extension) := by
  obtain ⟨made, prepared, created⟩ := openSink_ok opening
  obtain ⟨rfl, there⟩ := prepareParent_unmade prepared
  obtain ⟨parent, above, bare⟩ := Workspace.parent?_of_create created
  refine ⟨parent, above, ?_⟩
  split
  next empty => exact bare empty
  next filled => exact (there parent above rfl).resolve_left filled

-- Which file an opened sink writes to. A regular file stays one while directories are made.
theorem written_of_openSink {sink : Sink}
    (opening : openSink w out extension createDirs = (opened, .ok sink))
    (regular : w.isFile (pathFor out extension) = true ∨ ¬ IsDevice opened (pathFor out extension)) :
    ∃ made place, w.Grown made (pathFor out extension) {sink.location} ∧
      made.resolveNames .output (pathFor out extension) (pathFor out extension).steps = .ok place ∧
      place.location = sink.location ∧ made.tree.Written opened.tree sink.location [] ∧
      opened.directory = made.directory := by
  obtain ⟨made, prepared, created⟩ := openSink_ok opening
  have grown : w.Grown made (pathFor out extension) {sink.location} := grown_of_prepareParent prepared
  rcases Workspace.create_cases created with ⟨place, resolved, same, change, still⟩ | ⟨device, led, -, rfl⟩
  · exact ⟨made, place, grown, resolved, same, change, still⟩
  · rcases regular with regular | noDevice
    · have kept := Workspace.isFile_of_keeps grown.toKeeps regular
      rw [Workspace.isFile, led] at kept
      cases kept
    · exact absurd ⟨_, device, led⟩ noDevice

end

theorem opening_changes_only_target (w : Workspace) (out : Path) (extension : String)
    (createDirs : Bool) :
    let path := pathFor out extension
    (∀ after e, openSink w out extension createDirs = (after, .error e) →
      w.Grown after path ∅ ∧ (createDirs = false → after = w)) ∧
    ∀ opened sink, openSink w out extension createDirs = (opened, .ok sink) →
      (createDirs = false → w.HasParent path) ∧
      (w.isFile path = true ∨ w.existsAt path = false ∧ ¬ IsDevice opened path →
        opened.stat path = .ok (sink.location, .file []) ∧ w.Grown opened path {sink.location} ∧
        ∀ content, ∃ after, sink.write opened content = .ok after ∧
          after.stat path = .ok (sink.location, .file content) ∧
          w.Grown after path {sink.location}) := by
  intro path
  refine ⟨fun after e failed => ?_, fun opened sink opening => ⟨?_, fun target => ?_⟩⟩
  · obtain ⟨failure, prepared⟩ := openSink_error failed
    refine ⟨grown_of_prepareParent prepared, ?_⟩
    rintro rfl
    exact (prepareParent_unmade prepared).1
  · rintro rfl
    exact hasParent_of_openSink opening
  · obtain ⟨made, place, grown, resolved, same, change, still⟩ :=
      written_of_openSink opening (target.imp id And.right)
    rw [← same] at change grown ⊢
    -- What is written replaces what opening wrote.
    have written {after : Workspace} {content : Bytes}
        (change : made.tree.Written after.tree place.location content)
        (still : after.directory = made.directory) :
        after.stat path = .ok (place.location, .file content) ∧ w.Grown after path {place.location} :=
      ⟨Workspace.stat_of_written resolved change still,
        grown.trans (Workspace.grown_of_written change still)⟩
    obtain ⟨found, only⟩ := written change still
    refine ⟨found, only, fun content => ⟨opened.put place.location (.file content), ?_, ?_⟩⟩
    · rw [Sink.write, ← same, Workspace.fill, change.here]
    · exact written (change.put content) still

-- A directory is made through a link before a file turns out to be in the way, and two are made on the
-- way to a new file.
theorem opening_changes_only_target_through_link :
    let entries : List (Location × Entry) := [([bytesOf "d"], .directory),
      ([bytesOf "d", bytesOf "kept"], .file [7]), ([bytesOf "l"], .link (.ofString "d"))]
    let w : Workspace := ⟨⟨entries⟩, []⟩
    let after : Workspace := ⟨⟨entries ++ [([bytesOf "d", bytesOf "a"], .directory)]⟩, []⟩
    let blocked := Path.ofString "l/a/../kept/x"
    let new := Path.ofString "l/a/../b/x.go"
    let location : Location := [bytesOf "d", bytesOf "b", bytesOf "x.go"]
    let opened := (openSink w (.ofString "l/a/../b/x") "go" true).1
    (openSink w blocked "" true = (after, .error (.prepare blocked .alreadyExists)) ∧
      w.Grown after blocked ∅) ∧
    openSink w (.ofString "l/a/../b/x") "go" true = (opened, .ok ⟨new, location⟩) ∧
    w.existsAt new = false ∧ opened.stat new = .ok (location, .file []) ∧
    w.Grown opened new {location} ∧
    ∀ content, ∃ filled, Sink.write ⟨new, location⟩ opened content = .ok filled ∧
      filled.stat new = .ok (location, .file content) ∧ w.Grown filled new {location} := by
  intro entries w after blocked new location opened
  have failed : openSink w blocked "" true = (after, .error (.prepare blocked .alreadyExists)) := by
    decide +kernel
  have opening : openSink w (.ofString "l/a/../b/x") "go" true = (opened, .ok ⟨new, location⟩) := by
    decide +kernel
  have absent : w.existsAt new = false := by decide +kernel
  have ordinary : ¬ IsDevice opened new := by
    have found : opened.stat new = .ok (location, .file []) := by decide +kernel
    rintro ⟨_, _, device⟩
    rw [found] at device
    cases device
  have named : pathFor (.ofString "l/a/../b/x") "go" = new := by decide +kernel
  have unnamed : pathFor blocked "" = blocked := by decide +kernel
  have failure := (opening_changes_only_target w blocked "" true).1 after _ failed
  have success := (opening_changes_only_target w (.ofString "l/a/../b/x") "go" true).2 opened _ opening
  rw [unnamed] at failure
  rw [named] at success
  obtain ⟨empty, only, written⟩ := success.2 (.inr ⟨absent, ordinary⟩)
  exact ⟨⟨failed, failure.1⟩, opening, absent, empty, only, written⟩

-- What was absent may come to be a device, by the directory that is made.
theorem opened_target_forgets :
    let w : Workspace := ⟨⟨[([bytesOf "dev"], .directory),
      ([bytesOf "dev", bytesOf "null"], .device .null),
      ([bytesOf "n"], .link (.ofString "/dev/null"))]⟩, []⟩
    let path := pathFor (.ofString "a/../n") ""
    w.Proper ∧ w.existsAt path = false ∧
    ∃ opened sink after, openSink w (.ofString "a/../n") "" true = (opened, .ok sink) ∧
      sink.write opened (bytesOf "x") = .ok after ∧ after.read path = .ok [] := by
  intro w path
  have proper : w.Proper := by decide +kernel
  have absent : w.existsAt path = false := by decide +kernel
  let opened := (openSink w (.ofString "a/../n") "" true).1
  refine ⟨proper, absent, opened, ⟨path, [bytesOf "dev", bytesOf "null"]⟩, opened, ?_, ?_, ?_⟩
  · decide +kernel
  · decide +kernel
  · decide +kernel

end InterfaceDraft.Output
