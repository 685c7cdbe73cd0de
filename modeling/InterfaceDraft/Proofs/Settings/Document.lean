import InterfaceDraft.Proofs.Toml.Statements
import InterfaceDraft.Settings.Store

set_option autoImplicit false

namespace InterfaceDraft

open Text Files Layer Toml

-- The entries that a document of settings holds.
def ScanSettings.entries (settings : ScanSettings) : List (String × Value) :=
  [("pool_size", .signed settings.poolSize.toNat),
   ("source_extension", .text settings.sourceExtension.toList),
   ("test_suffix", .text settings.testSuffix.toList)]

def OutputSettings.entries (settings : OutputSettings) : List (String × Value) :=
  [("file_extension", .text settings.fileExtension.toList),
   ("style", .text settings.style.name.toList),
   ("create_dirs", .flag settings.createDirs)]

def Settings.entries (settings : Settings) : List (String × Value) :=
  [("version", .signed settings.version.toNat), ("debug", .flag settings.debug),
   ("extraction", .table settings.extraction.entries), ("output", .table settings.output.entries)]

theorem reads_documentLine {key : String} (bare : IsBare key) {text : List Char} {value : Value}
    (writes : WritesValue text value) {state next final : State}
    (added : state.add [] key value = some next) {rest : List Char} (onward : Reads next rest final) :
    Reads state (documentLine key text ++ rest) final := by
  have line := onward.assign bare writes added
  simp only [documentLine, List.append_assoc, List.singleton_append]
  exact line

-- The parts of a section, grouped as they are read.
theorem append_parts (a b c d e : List Char) : a ++ b ++ c ++ d ++ e = a ++ (b ++ (c ++ (d ++ e))) := by
  simp only [List.append_assoc]

theorem append_sections (a b c d e f : List Char) :
    a ++ b ++ c ++ d ++ e ++ f = a ++ (b ++ (c ++ (d ++ (e ++ (f ++ []))))) := by
  simp only [List.append_assoc, List.append_nil]

section Sections

variable {before : Entries} {current : List String} {rest : List Char} {final : State}

theorem reads_scanDocument {settings : ScanSettings} (small : settings.poolSize.toNat < Number.signedEnd)
    (fresh : before.lookup "extraction" = none)
    (onward : Reads ⟨before ++ [("extraction", .table .named
        (settings.entries.map fun e => (e.1, .value e.2)))], ["extraction"]⟩ rest final) :
    Reads ⟨before, current⟩ (settings.document ++ rest) final := by
  have parts : settings.document ++ rest = _ := append_parts _ _ _ _ rest
  rw [parts]
  refine Reads.header (by decide : IsBare "extraction") (State.openTable_new fresh _) ?_
  refine reads_documentLine (by decide) (toDigits_writes small) (State.add_last fresh rfl _) ?_
  refine reads_documentLine (by decide) (writeString_writes _) (State.add_last fresh rfl _) ?_
  exact reads_documentLine (by decide) (writeString_writes _) (State.add_last fresh rfl _) onward

theorem reads_outputDocument {settings : OutputSettings} (fresh : before.lookup "output" = none)
    (onward : Reads ⟨before ++ [("output", .table .named
        (settings.entries.map fun e => (e.1, .value e.2)))], ["output"]⟩ rest final) :
    Reads ⟨before, current⟩ (settings.document ++ rest) final := by
  have parts : settings.document ++ rest = _ := append_parts _ _ _ _ rest
  rw [parts]
  refine Reads.header (by decide : IsBare "output") (State.openTable_new fresh _) ?_
  refine reads_documentLine (by decide) (writeString_writes _) (State.add_last fresh rfl _) ?_
  refine reads_documentLine (by decide) (writeString_writes _) (State.add_last fresh rfl _) ?_
  exact reads_documentLine (by decide) (flag_writes _) (State.add_last fresh rfl _) onward

end Sections

theorem read?_document {settings : Settings} (small : settings.extraction.poolSize.toNat < Number.signedEnd) :
    Toml.read? settings.document = some settings.entries := by
  have version : settings.version.toNat < Number.signedEnd :=
    Nat.lt_trans settings.version.toNat_lt (by decide)
  have unmarked : settings.document.head? ≠ some '\ufeff' := by
    have first : settings.document.head? = some 'v' := rfl
    rw [first]
    decide
  have reads : Reads ⟨[], []⟩ settings.document
      ⟨[("version", .value (.signed settings.version.toNat)), ("debug", .value (.flag settings.debug)),
        ("extraction", .table .named (settings.extraction.entries.map fun e => (e.1, .value e.2))),
        ("output", .table .named (settings.output.entries.map fun e => (e.1, .value e.2)))], ["output"]⟩ := by
    have parts : settings.document = _ := append_sections _ _ _ _ _ _
    rw [parts]
    refine reads_documentLine (by decide) (toDigits_writes version) (State.add_plain rfl _) ?_
    refine reads_documentLine (by decide) (flag_writes _) (State.add_plain rfl _) ?_
    refine Reads.feed (reads_scanDocument small rfl ?_)
    exact Reads.feed (reads_outputDocument rfl (Reads.nil _))
  rw [reads.document unmarked]
  rfl

theorem unwrapDocument?_entries (settings : Settings) :
    Value.unwrapDocument? settings.entries = some settings.entries := rfl

-- A document with every setting leaves nothing of the defaults.
theorem mergeEntries_defaults (settings : Settings) (origin : Origin) :
    mergeEntries defaults (Node.ofEntries origin settings.entries) = Node.ofEntries origin settings.entries :=
  rfl

section Decode

variable (keys : List String) (origin : Origin)

theorem decodeNumber_signed {n limit : Nat} (small : n ≤ limit) (expected : String) :
    decodeNumber limit expected keys (.signed origin n) = .ok n := by
  have inside : (0 ≤ (n : Int) && (n : Int) ≤ limit) = true := by simp [small]
  simp only [decodeNumber, inside, if_true, Int.toNat_natCast]

theorem decodeVersion_signed (version : UInt32) :
    decodeVersion keys (.signed origin version.toNat) = .ok version := by
  have small : version.toNat ≤ UInt32.size - 1 := Nat.le_sub_one_of_lt version.toNat_lt
  rw [decodeVersion, decodeNumber_signed keys origin small, Except.map, UInt32.ofNat_toNat]

theorem decodeSize_signed (size : UInt64) :
    decodeSize keys (.signed origin size.toNat) = .ok size := by
  have small : size.toNat ≤ UInt64.size - 1 := Nat.le_sub_one_of_lt size.toNat_lt
  rw [decodeSize, decodeNumber_signed keys origin small, Except.map, UInt64.ofNat_toNat]

theorem decodeText_toList (text : String) : decodeText keys (.text origin text.toList) = .ok text := by
  rw [decodeText, String.ofList_toList]

theorem decodeStyle_name (style : Interface.Style) :
    decodeStyle keys (.text origin style.name.toList) = .ok style := by
  cases style with
  | bare => rfl
  | go => rfl

theorem decodeScan_entries (settings : ScanSettings) :
    decodeScan keys (.table origin (Node.ofEntries origin settings.entries)) = .ok settings := by
  have size : decodeEntry decodeSize ({} : ScanSettings).poolSize keys
      (Node.ofEntries origin settings.entries) "pool_size" = .ok settings.poolSize :=
    decodeSize_signed _ _ _
  have extension : decodeEntry decodeText ({} : ScanSettings).sourceExtension keys
      (Node.ofEntries origin settings.entries) "source_extension" = .ok settings.sourceExtension :=
    decodeText_toList (keys ++ ["source_extension"]) origin _
  have suffix : decodeEntry decodeText ({} : ScanSettings).testSuffix keys
      (Node.ofEntries origin settings.entries) "test_suffix" = .ok settings.testSuffix :=
    decodeText_toList (keys ++ ["test_suffix"]) origin _
  simp only [decodeScan, size, extension, suffix]
  rfl

theorem decodeOutput_entries (settings : OutputSettings) :
    decodeOutput keys (.table origin (Node.ofEntries origin settings.entries)) = .ok settings := by
  have extension : decodeEntry decodeText ({} : OutputSettings).fileExtension keys
      (Node.ofEntries origin settings.entries) "file_extension" = .ok settings.fileExtension :=
    decodeText_toList (keys ++ ["file_extension"]) origin _
  have style : decodeEntry decodeStyle ({} : OutputSettings).style keys
      (Node.ofEntries origin settings.entries) "style" = .ok settings.style :=
    decodeStyle_name _ _ _
  have dirs : decodeEntry decodeFlag ({} : OutputSettings).createDirs keys
      (Node.ofEntries origin settings.entries) "create_dirs" = .ok settings.createDirs := rfl
  simp only [decodeOutput, extension, style, dirs]
  rfl

end Decode

theorem decodeSettings_entries (settings : Settings) (origin : Origin) :
    decodeSettings (Node.ofEntries origin settings.entries) = .ok settings := by
  have debug : decodeEntry decodeFlag ({} : Settings).debug []
      (Node.ofEntries origin settings.entries) "debug" = .ok settings.debug := rfl
  have extraction : decodeEntry decodeScan ({} : Settings).extraction []
      (Node.ofEntries origin settings.entries) "extraction" = .ok settings.extraction :=
    decodeScan_entries _ _ _
  have output : decodeEntry decodeOutput ({} : Settings).output []
      (Node.ofEntries origin settings.entries) "output" = .ok settings.output :=
    decodeOutput_entries _ _ _
  have version : decodeEntry decodeVersion ({} : Settings).version []
      (Node.ofEntries origin settings.entries) "version" = .ok settings.version :=
    decodeVersion_signed _ _ _
  simp only [decodeSettings, debug, extraction, output, version]
  rfl

theorem ofLayers_entries (settings : Settings) (origin : Origin) :
    Settings.ofLayers (Node.ofEntries origin settings.entries) [] = .ok settings := by
  have merged : mergeEntries (mergeEntries defaults (Node.ofEntries origin settings.entries)) [] =
      Node.ofEntries origin settings.entries := by
    rw [mergeEntries, mergeEntries_defaults]
  rw [Settings.ofLayers, merged, decodeSettings_entries]

end InterfaceDraft
