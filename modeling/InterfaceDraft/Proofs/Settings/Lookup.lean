import InterfaceDraft.Proofs.Files.Upwards
import InterfaceDraft.Settings.Store

set_option autoImplicit false

namespace InterfaceDraft.Settings

open Text Files Layer

theorem isName_directoryName : IsName directoryName := by decide

theorem isName_fileName : IsName fileName := by decide

-- The directory holds a settings directory, or a link to one.
def HasSettings (w : Workspace) (front : Location) : Prop :=
  w.Reaches front [directoryName] .directory

-- The settings directory in this directory holds a document with this content, or a link to one.
def HasDocument (w : Workspace) (front : Location) (content : Bytes) : Prop :=
  w.Reaches front [directoryName, fileName] (.file content)

instance (w : Workspace) : DecidablePred (HasSettings w) :=
  fun _ => inferInstanceAs (Decidable (w.Reaches _ _ _))

instance (w : Workspace) (front : Location) (content : Bytes) : Decidable (HasDocument w front content) :=
  inferInstanceAs (Decidable (w.Reaches _ _ _))

-- The layer of a document by its content and the path to show for it.
def contentLayer (shown : Path) (content : Bytes) : Except SettingsError (List (String × Node)) :=
  match ((decode? content).bind Toml.read?).bind Value.unwrapDocument? with
  | none => .error (.notADocument shown)
  | some entries => .ok (Node.ofEntries (.document shown) entries)

-- The settings in the defaults with the layer of a document and the environment on top.
def resolved (document : Except SettingsError (List (String × Node)))
    (environment : List Environment.Variable) : Except SettingsError Settings :=
  match Environment.layer? environment, document with
  | none, _ => .error .cutVariable
  | some _, .error e => .error e
  | some above, .ok document => ofLayers document above

theorem load_eq_resolved (w : Workspace) (environment : List Environment.Variable) :
    load w environment = resolved (documentLayer w (documentPath w)) environment := rfl

theorem HasDocument.hasSettings {w : Workspace} {front : Location} {content : Bytes}
    (document : HasDocument w front content) : HasSettings w front := by
  have reached : w.Reaches front ([directoryName] ++ [fileName]) (.file content) := document
  exact reached.directory (List.cons_ne_nil _ _) (List.cons_ne_nil _ _)

section Present

variable {w : Workspace} (proper : w.Proper) (present : isRemoved w.directory = false)

include proper present

theorem isDirectory_iff_hasSettings {front : Location} (above : front <+: w.directory) :
    w.isDirectory (.ofLocation (front ++ [directoryName])) = true ↔ HasSettings w front := by
  rw [Workspace.isDirectory_eq_true_iff, HasSettings,
    proper.reaches_iff_stat present above (List.cons_ne_nil _ _) (by simp [isName_directoryName])]

theorem hasDocument_iff_stat {front : Location} (above : front <+: w.directory) {content : Bytes} :
    HasDocument w front content ↔
      ∃ location, w.stat (.ofLocation (front ++ [directoryName, fileName])) = .ok (location, .file content) :=
  proper.reaches_iff_stat present above (List.cons_ne_nil _ _)
    (by simp [isName_directoryName, isName_fileName])

theorem isFile_iff_hasDocument {front : Location} (above : front <+: w.directory) :
    w.isFile (.ofLocation (front ++ [directoryName, fileName])) = true ↔
      ∃ content, HasDocument w front content := by
  simp only [Workspace.isFile_eq_true_iff, hasDocument_iff_stat proper present above]
  exact exists_comm

section Nearest

variable {front : Location} (nearest : IsNearest (HasSettings w) w.directory front)

include nearest

theorem documentPath_of_nearest : documentPath w = .ofLocation (front ++ [directoryName, fileName]) := by
  have found := proper.find?_upwards_of_nearest present (List.cons_ne_nil directoryName [])
    (fun _ => isDirectory_iff_hasSettings proper present) nearest
  have named : ∀ name ∈ front ++ [directoryName], IsName name := by
    rw [List.forall_mem_append]
    exact ⟨proper.named present nearest.above, by simp [isName_directoryName]⟩
  have file := Path.child_ofLocation named (List.cons_ne_nil fileName [])
  rw [List.append_assoc] at file
  rw [documentPath]
  simp only [Path.joinPieces] at found file
  rw [found]
  exact file

theorem load_of_document (environment : List Environment.Variable) {content : Bytes}
    (document : HasDocument w front content) :
    load w environment = resolved (contentLayer
      (Path.relativeTo (.ofLocation (front ++ [directoryName, fileName])) (.ofLocation w.directory))
      content) environment := by
  obtain ⟨location, found⟩ := (hasDocument_iff_stat proper present nearest.above).mp document
  have regular := (isFile_iff_hasDocument proper present nearest.above).mpr ⟨content, document⟩
  have absolute : (Path.ofLocation (front ++ [directoryName, fileName])).isAbsolute = true := rfl
  have base := Workspace.directoryPath?_eq_some_iff.mpr ⟨present, rfl⟩
  rw [load_eq_resolved, documentPath_of_nearest proper present nearest, documentLayer, findDocument,
    absolute, regular]
  simp only [if_true]
  rw [readDocument, base, Workspace.read, found]
  rfl

theorem load_of_no_document (environment : List Environment.Variable)
    (missing : ¬ ∃ content, HasDocument w front content) :
    load w environment = resolved (.ok []) environment := by
  have irregular : w.isFile (.ofLocation (front ++ [directoryName, fileName])) = false := by
    rw [← isFile_iff_hasDocument proper present nearest.above] at missing
    simpa using missing
  have absolute : (Path.ofLocation (front ++ [directoryName, fileName])).isAbsolute = true := rfl
  rw [load_eq_resolved, documentPath_of_nearest proper present nearest, documentLayer, findDocument,
    absolute, irregular]
  rfl

end Nearest

end Present

theorem directoriesUpwards_of_removed {w : Workspace} (removed : isRemoved w.directory = true) :
    w.directoriesUpwards = [] := by
  rw [Workspace.directoriesUpwards, Workspace.directoryPath?, removed]
  rfl

section Nowhere

variable {w : Workspace} (proper : w.Proper)
  (nowhere : isRemoved w.directory = false → ∀ front, front <+: w.directory → ¬ HasSettings w front)

include proper nowhere

theorem documentPath_of_nowhere : documentPath w = .ofString ".ifacegen/settings.toml" := by
  have found : (w.directoriesUpwards.map (·.child directoryName)).find? w.isDirectory = none := by
    cases present : isRemoved w.directory with
    | true =>
      rw [directoriesUpwards_of_removed present]
      rfl
    | false =>
      exact proper.find?_upwards_of_none present (List.cons_ne_nil directoryName [])
        (fun _ => isDirectory_iff_hasSettings proper present) (nowhere present)
  rw [documentPath, found]
  decide

-- A document would stand in a settings directory.
theorem findDocument_of_nowhere : findDocument w (.ofString ".ifacegen/settings.toml") = none := by
  have relative : (Path.ofString ".ifacegen/settings.toml").isAbsolute = false := by decide
  have bytes : (Path.ofString ".ifacegen/settings.toml").bytes = Path.joinPieces [directoryName, fileName] := by
    decide
  rw [findDocument, relative, bytes]
  cases present : isRemoved w.directory with
  | true =>
    rw [directoriesUpwards_of_removed present]
    rfl
  | false =>
    have nothing : ∀ front, front <+: w.directory → ¬ ∃ content, HasDocument w front content := by
      rintro front above ⟨content, document⟩
      exact nowhere present front above document.hasSettings
    exact proper.find?_upwards_of_none present (List.cons_ne_nil directoryName [fileName])
      (fun _ => isFile_iff_hasDocument proper present) nothing

theorem load_of_nowhere (environment : List Environment.Variable) :
    load w environment = resolved (.ok []) environment := by
  rw [load_eq_resolved, documentPath_of_nowhere proper nowhere, documentLayer,
    findDocument_of_nowhere proper nowhere]

end Nowhere

-- The nearest settings directory decides alone: its document is the layer, or there is none. Two trees
-- that agree on which one it is and on its document give the same settings.
theorem load_uses_nearest_document {w : Workspace} (proper : w.Proper)
    (environment : List Environment.Variable) :
    (∀ front, isRemoved w.directory = false → IsNearest (HasSettings w) w.directory front →
      documentPath w = .ofLocation (front ++ [directoryName, fileName]) ∧
      (∀ content, HasDocument w front content →
        load w environment = resolved (contentLayer
          (Path.relativeTo (.ofLocation (front ++ [directoryName, fileName])) (.ofLocation w.directory))
          content) environment) ∧
      ((¬ ∃ content, HasDocument w front content) → load w environment = resolved (.ok []) environment) ∧
      ∀ other : Workspace, other.Proper → other.directory = w.directory →
        IsNearest (HasSettings other) other.directory front →
        (∀ content, HasDocument other front content ↔ HasDocument w front content) →
        load other environment = load w environment) ∧
    (∀ front, front <+: w.directory → HasSettings w front →
      ∃! nearest, IsNearest (HasSettings w) w.directory nearest) ∧
    ((isRemoved w.directory = false → ¬ ∃ front, IsNearest (HasSettings w) w.directory front) →
      documentPath w = .ofString ".ifacegen/settings.toml" ∧
      findDocument w (documentPath w) = none ∧
      load w environment = resolved (.ok []) environment) := by
  refine ⟨fun front present nearest => ⟨?_, ?_, ?_, ?_⟩, ?_, ?_⟩
  · exact documentPath_of_nearest proper present nearest
  · exact fun content => load_of_document proper present nearest environment
  · exact load_of_no_document proper present nearest environment
  · intro other alsoProper same alsoNearest agree
    have alsoPresent : isRemoved other.directory = false := same ▸ present
    by_cases documented : ∃ content, HasDocument w front content
    · obtain ⟨content, document⟩ := documented
      rw [load_of_document proper present nearest environment document,
        load_of_document alsoProper alsoPresent alsoNearest environment ((agree content).mpr document), same]
    · have missing : ¬ ∃ content, HasDocument other front content := by simpa only [agree] using documented
      rw [load_of_no_document proper present nearest environment documented,
        load_of_no_document alsoProper alsoPresent alsoNearest environment missing]
  · intro front above holds
    obtain ⟨nearest, first⟩ := exists_isNearest above holds
    exact ⟨nearest, first, fun _ other => other.unique first⟩
  · intro none
    have nowhere : isRemoved w.directory = false → ∀ front, front <+: w.directory → ¬ HasSettings w front := by
      intro present front above holds
      exact none present (exists_isNearest above holds)
    rw [documentPath_of_nowhere proper nowhere]
    exact ⟨rfl, findDocument_of_nowhere proper nowhere, load_of_nowhere proper nowhere environment⟩

-- In `a/b` the settings directory is a link, and what it leads to holds no document, so the document at
-- the top is not used. In the top directory it is.
theorem load_uses_nearest_document_empty :
    let tree : Tree :=
      ⟨[([directoryName], .directory), ([directoryName, fileName], .file (bytesOf "version = 6\n")),
        ([bytesOf "shared"], .directory), ([bytesOf "a"], .directory),
        ([bytesOf "a", directoryName], .link (.ofString "../shared")),
        ([bytesOf "a", bytesOf "b"], .directory)]⟩
    let below : Workspace := ⟨tree, [bytesOf "a", bytesOf "b"]⟩
    let top : Workspace := ⟨tree, []⟩
    (IsNearest (HasSettings below) below.directory [bytesOf "a"] ∧
      documentPath below = .ofString "/a/.ifacegen/settings.toml" ∧ load below [] = .ok {}) ∧
    (IsNearest (HasSettings top) top.directory [] ∧
      load top [] = .ok { version := 6 }) := by
  intro tree below top
  have proper : below.Proper := by decide +kernel
  have present : isRemoved below.directory = false := by decide +kernel
  have nearest : IsNearest (HasSettings below) below.directory [bytesOf "a"] := by decide +kernel
  have missing : ¬ ∃ content, HasDocument below [bytesOf "a"] content := by
    rw [← isFile_iff_hasDocument proper present nearest.above]
    decide +kernel
  have topProper : top.Proper := by decide +kernel
  have topNearest : IsNearest (HasSettings top) top.directory [] := by decide +kernel
  have document : HasDocument top [] (bytesOf "version = 6\n") := by decide +kernel
  obtain ⟨path, -, empty, -⟩ := (load_uses_nearest_document proper []).1 _ present nearest
  obtain ⟨-, loaded, -⟩ := (load_uses_nearest_document topProper []).1 _ rfl topNearest
  refine ⟨⟨nearest, ?_, ?_⟩, topNearest, ?_⟩
  · rw [path]
    decide +kernel
  · rw [empty missing]
    decide +kernel
  · rw [loaded _ document]
    decide +kernel

-- Sixteen directories below each other, each with a name of the longest kind.
def deepDirectory : Location := List.replicate 16 (List.replicate nameLimit 0x61)

-- The absolute path of a document in the working directory may be too long, and a removed working
-- directory has no path, though a relative path leads to the document in both cases.
theorem settings_out_of_reach :
    let content := bytesOf "version = 6\n"
    let deep : Workspace :=
      ⟨⟨deepDirectory.inits.tail.map (·, .directory) ++
        [(deepDirectory ++ [directoryName], .directory),
          (deepDirectory ++ [directoryName, fileName], .file content)]⟩, deepDirectory⟩
    let removed : Workspace :=
      ⟨⟨[([directoryName], .directory), ([directoryName, fileName], .file content)]⟩, [[]]⟩
    (deep.Proper ∧ deep.stat (.ofString ".") = .ok (deepDirectory, .directory) ∧
      deep.read (.ofString ".ifacegen/settings.toml") = .ok content ∧ load deep [] = .ok {}) ∧
    (removed.Proper ∧ removed.read (.ofString "../.ifacegen/settings.toml") = .ok content ∧
      load removed [] = .ok {}) ∧
    resolved (contentLayer (.ofString ".ifacegen/settings.toml") content) [] = .ok { version := 6 } := by
  intro content deep removed
  have proper : deep.Proper := by decide +kernel
  have none : ∀ front ∈ deepDirectory.inits, ¬ HasSettings deep front := by decide +kernel
  have nowhere : ∀ front, front <+: deepDirectory → ¬ HasSettings deep front :=
    fun front above => none front ((List.mem_inits _ _).mpr above)
  refine ⟨⟨proper, by decide +kernel, by decide +kernel, ?_⟩, by decide +kernel, by decide +kernel⟩
  rw [load_of_nowhere proper fun _ => nowhere]
  decide +kernel

end InterfaceDraft.Settings
