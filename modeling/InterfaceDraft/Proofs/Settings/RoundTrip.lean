import InterfaceDraft.Proofs.Files.Standing
import InterfaceDraft.Proofs.Settings.Document

set_option autoImplicit false

namespace InterfaceDraft

open Text Files Layer

theorem document_ne_nil (settings : Settings) : encode settings.document ≠ [] := by
  have first : settings.document.head? = some 'v' := rfl
  rw [Ne, encode_eq_nil_iff]
  intro empty
  rw [empty] at first
  cases first

theorem readDocument_eq {w : Workspace} {p : Path} {location : Location} {settings : Settings}
    (small : settings.extraction.poolSize.toNat < Number.signedEnd)
    (found : w.stat p = .ok (location, .file (encode settings.document))) :
    ∃ origin, Settings.readDocument w p = .ok (Node.ofEntries origin settings.entries) := by
  have content : w.read p = .ok (encode settings.document) := by rw [Workspace.read, found]
  refine ⟨.document ((w.directoryPath?.map p.relativeTo).getD p), ?_⟩
  rw [Settings.readDocument, content]
  simp only [decode?_encode, Option.bind_some, read?_document small, unwrapDocument?_entries]

-- The first candidate is the path in the working directory itself.
theorem findDocument_relative {w : Workspace} {p base : Path} (relative : p.isAbsolute = false)
    (based : w.directoryPath? = some base) (isFile : w.isFile (base.child p.bytes) = true) :
    Settings.findDocument w p = some (base.child p.bytes) := by
  have upwards : ∃ above, w.directoriesUpwards = base :: above := by
    rw [Workspace.directoriesUpwards, based]
    exact ⟨_, rfl⟩
  obtain ⟨above, upwards⟩ := upwards
  rw [Settings.findDocument, relative, upwards]
  simp [isFile]

-- The document can be found under a path: it is absolute, or the working directory is still there
-- and the two together are not too long.
def Locates (w : Workspace) (p : Path) : Prop :=
  p.isAbsolute = true ∨
    ∃ base, w.directoryPath? = some base ∧ (base.child p.bytes).bytes.length < pathLimit

theorem findDocument_eq {w : Workspace} {p : Path} (located : Locates w p)
    (standing : ∀ front, front <+: w.directory → w.tree.get? front = some .directory)
    (named : isRemoved w.directory = false → ∀ name ∈ w.directory, IsName name)
    {location : Location} {content : Bytes} (found : w.stat p = .ok (location, .file content)) :
    ∃ file, Settings.findDocument w p = some file ∧ w.stat file = .ok (location, .file content) := by
  cases absolute : p.isAbsolute with
  | true =>
    refine ⟨p, ?_, found⟩
    rw [Settings.findDocument, absolute, Workspace.isFile, found]
    rfl
  | false =>
    obtain ⟨base, based, short⟩ := located.resolve_left (by simp [absolute])
    have present := (Workspace.directoryPath?_eq_some_iff.mp based).1
    have led := Workspace.stat_of_directoryPath absolute standing (named present) based short found
    have isFile : w.isFile (base.child p.bytes) = true := by
      rw [Workspace.isFile, led]
      rfl
    exact ⟨_, findDocument_relative absolute based isFile, led⟩

def Unset (environment : List Environment.Variable) : Prop :=
  ∀ setting ∈ environment, Environment.unmarked? (trim setting.1.toList) = none

instance (environment : List Environment.Variable) : Decidable (Unset environment) :=
  inferInstanceAs (Decidable (∀ setting ∈ environment, _))

theorem layer?_of_unset {environment : List Environment.Variable} (unset : Unset environment) :
    Environment.layer? environment = some [] := by
  unfold Environment.layer?
  induction environment with
  | nil => rfl
  | cons setting environment ih =>
    have nothing : Environment.entriesOf? setting = some [] := by
      simp [Environment.entriesOf?, Environment.keysOf?, unset setting List.mem_cons_self]
    rw [Environment.layerOn?, nothing]
    simp only [mergeEntries]
    exact ih fun other member => unset other (List.mem_cons_of_mem _ member)

theorem save_cases {settings : Settings} {w after : Workspace} {p : Path}
    (saved : settings.save w p = (after, none)) :
    w.Keeps after ∧ after.Took p (encode settings.document) := by
  unfold Settings.save at saved
  split at saved
  next => cases saved
  next parent _ =>
    split at saved
    next => cases saved
    next made making =>
      split at saved
      next written writing =>
        cases saved
        refine ⟨(Workspace.keeps_of_makeFirst making).trans (Workspace.keeps_of_write writing), ?_⟩
        unfold Workspace.write at writing
        split at writing
        next => cases writing
        next created => exact Workspace.took_of_fill created writing (document_ne_nil settings)
      next => cases saved

-- Settings that were saved to a path are loaded from it. It leads to a regular file: either it did so
-- before, or nothing was there and it does so now, not to a device.
theorem saved_settings_load {settings : Settings} {w after : Workspace} {p : Path}
    {environment : List Environment.Variable}
    (small : settings.extraction.poolSize.toNat < Number.signedEnd) (proper : w.Proper)
    (saved : settings.save w p = (after, none))
    (regular : w.isFile p = true ∨ after.isFile p = true) (located : Locates after p)
    (unset : Unset environment) :
    Settings.loadFrom after environment p = .ok settings := by
  obtain ⟨keeps, location, took⟩ := save_cases saved
  have isFile : after.isFile p = true := regular.elim (Workspace.isFile_of_keeps keeps) id
  obtain ⟨place, content, led⟩ := Workspace.isFile_eq_true_iff.mp isFile
  have found : after.stat p = .ok (location, .file (encode settings.document)) := by
    rcases took with found | device
    · exact found
    · rw [led] at device
      cases device
  have standing : ∀ front, front <+: after.directory → after.tree.get? front = some .directory := by
    intro front prefixed
    rw [keeps.directory] at prefixed
    exact keeps.kept (proper.standing front prefixed) rfl
  have named : isRemoved after.directory = false → ∀ name ∈ after.directory, IsName name := by
    rw [keeps.directory]
    exact proper.tree.isName_of_get? (proper.standing _ (List.prefix_refl _))
  obtain ⟨file, chosen, leads⟩ := findDocument_eq located standing named found
  obtain ⟨origin, entries⟩ := readDocument_eq small leads
  rw [Settings.loadFrom, layer?_of_unset unset, Settings.documentLayer, chosen]
  simp only [entries]
  exact ofLayers_entries settings origin

-- In a directory below the top, with strings that must be quoted.
theorem saved_settings_load_quoted :
    let scanning : ScanSettings := ⟨9223372036854775807, "a\\\"\x27\n\u0000", "\r\n"⟩
    let settings : Settings := ⟨7, true, scanning, ⟨"", .go, false⟩⟩
    let w : Workspace := ⟨⟨[([bytesOf "d"], .directory)]⟩, [bytesOf "d"]⟩
    let p := Path.ofString "e/s.toml"
    w.stat p = .error .notFound ∧ ∃ after, settings.save w p = (after, none) ∧
      Settings.loadFrom after [("HOME", "/")] p = .ok settings := by
  intro scanning settings w p
  have absent : w.stat p = .error .notFound := by decide +kernel
  have proper : w.Proper := by decide +kernel
  have saved : (settings.save w p).2 = none := by decide +kernel
  have regular : (settings.save w p).1.isFile p = true := by decide +kernel
  have located : Locates (settings.save w p).1 p :=
    .inr ⟨⟨bytesOf "/d"⟩, by decide +kernel, by decide +kernel⟩
  have unset : Unset [("HOME", "/")] := by decide +kernel
  generalize done : settings.save w p = result at saved regular located
  obtain ⟨after, failure⟩ := result
  obtain rfl : failure = none := saved
  exact ⟨absent, after, rfl, saved_settings_load (by decide) proper done (.inr regular) located unset⟩

-- Settings are written where nothing was, and others are loaded in their place.
def LosesSettings (w : Workspace) (p : Path) : Prop :=
  ∃ (settings : Settings) (after : Workspace), settings.extraction.poolSize.toNat < Number.signedEnd ∧
    w.Proper ∧ w.stat p = .error .notFound ∧ settings.save w p = (after, none) ∧
    Settings.loadFrom after [] p = .ok {} ∧ settings ≠ {}

theorem losesSettings_of_load {w : Workspace} {p : Path} (proper : w.Proper)
    (absent : w.stat p = .error .notFound) (saved : (({ version := 6 } : Settings).save w p).2 = none)
    (loaded : Settings.loadFrom (({ version := 6 } : Settings).save w p).1 [] p = .ok {}) :
    LosesSettings w p := by
  generalize done : ({ version := 6 } : Settings).save w p = result at saved loaded
  obtain ⟨after, failure⟩ := result
  obtain rfl : failure = none := saved
  exact ⟨{ version := 6 }, after, by decide, proper, absent, done, loaded, by decide⟩

-- A relative path is looked for by its absolute one: the working directory may be removed, or that path
-- too long. And what was absent may come to be a device, by the directories that are made.
theorem saved_settings_lost :
    LosesSettings ⟨⟨[]⟩, [[]]⟩ (.ofString "../s.toml") ∧
      LosesSettings ⟨⟨[]⟩, []⟩ ⟨bytesOf "." ++ List.replicate 4087 Path.slash ++ bytesOf "as.toml"⟩ ∧
      LosesSettings ⟨⟨[([bytesOf "n"], .device .null)]⟩, []⟩ (.ofString "a/../n") := by
  refine ⟨?_, ?_, ?_⟩
  · exact losesSettings_of_load (by decide) (by decide +kernel) (by decide +kernel) (by decide +kernel)
  · exact losesSettings_of_load (by decide) (by decide +kernel) (by decide +kernel) (by decide +kernel)
  · exact losesSettings_of_load (by decide +kernel) (by decide +kernel) (by decide +kernel) (by decide +kernel)

end InterfaceDraft
