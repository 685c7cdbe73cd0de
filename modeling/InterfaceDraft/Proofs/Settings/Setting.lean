import InterfaceDraft.Proofs.Settings.Merging

set_option autoImplicit false

namespace InterfaceDraft

open Text Files Interface Layer Environment

inductive Setting where
  | debug
  | poolSize
  | sourceExtension
  | testSuffix
  | createDirs
  | fileExtension
  | style
  | version
  deriving DecidableEq, Repr

namespace Setting

def keys : Setting → List String
  | debug => ["debug"]
  | poolSize => ["extraction", "pool_size"]
  | sourceExtension => ["extraction", "source_extension"]
  | testSuffix => ["extraction", "test_suffix"]
  | createDirs => ["output", "create_dirs"]
  | fileExtension => ["output", "file_extension"]
  | style => ["output", "style"]
  | version => ["version"]

abbrev Kind : Setting → Type
  | debug | createDirs => Bool
  | poolSize => UInt64
  | sourceExtension | testSuffix | fileExtension => String
  | style => Style
  | version => UInt32

def get (settings : Settings) : (setting : Setting) → setting.Kind
  | debug => settings.debug
  | poolSize => settings.extraction.poolSize
  | sourceExtension => settings.extraction.sourceExtension
  | testSuffix => settings.extraction.testSuffix
  | createDirs => settings.output.createDirs
  | fileExtension => settings.output.fileExtension
  | style => settings.output.style
  | version => settings.version

-- The settings in the order in which they are checked.
def all : List Setting :=
  [debug, poolSize, sourceExtension, testSuffix, createDirs, fileExtension, style, version]

theorem mem_all (setting : Setting) : setting ∈ all := by
  cases setting <;> decide

theorem all_sorted : all.Pairwise (·.keys < ·.keys) := by decide

def decode : (setting : Setting) → Node → Decoded setting.Kind
  | debug => decodeFlag debug.keys
  | poolSize => decodeSize poolSize.keys
  | sourceExtension => decodeText sourceExtension.keys
  | testSuffix => decodeText testSuffix.keys
  | createDirs => decodeFlag createDirs.keys
  | fileExtension => decodeText fileExtension.keys
  | style => decodeStyle style.keys
  | version => decodeVersion version.keys

def IsFlag (node : Node) (flag : Bool) : Prop := ∃ origin, node = .flag origin flag

def IsNumber (node : Node) (number : Nat) : Prop :=
  ∃ origin, node = .unsigned origin number ∨ node = .signed origin number

def IsText (node : Node) (text : String) : Prop :=
  ∃ origin, node = .text origin text.toList ∨ ∃ c, node = .letter origin c ∧ text.toList = [c]

def IsStyle (node : Node) (style : Style) : Prop := ∃ origin, node = .text origin style.name.toList

def Accepts : (setting : Setting) → Node → setting.Kind → Prop
  | debug | createDirs => IsFlag
  | poolSize => fun node size => IsNumber node size.toNat
  | sourceExtension | testSuffix | fileExtension => IsText
  | style => IsStyle
  | version => fun node version => IsNumber node version.toNat

theorem decodeFlag_eq_ok_iff {keys : List String} {node : Node} {flag : Bool} :
    decodeFlag keys node = .ok flag ↔ IsFlag node flag := by
  cases node <;> simp [decodeFlag, mismatch, IsFlag]

theorem decodeText_eq_ok_iff {keys : List String} {node : Node} {text : String} :
    decodeText keys node = .ok text ↔ IsText node text := by
  cases node <;> simp [decodeText, mismatch, IsText, ← String.toList_inj, eq_comm]

theorem decodeNumber_eq_ok_iff {limit : Nat} {expected : String} {keys : List String} {node : Node} {n : Nat} :
    decodeNumber limit expected keys node = .ok n ↔ IsNumber node n ∧ n ≤ limit := by
  cases node with
  | unsigned origin m =>
    simp only [decodeNumber, IsNumber, outOfRange]
    split <;> simp <;> omega
  | signed origin i =>
    simp only [decodeNumber, IsNumber, outOfRange]
    split <;> simp_all <;> omega
  | text | letter | flag | real | sequence | table => simp [decodeNumber, mismatch, IsNumber]

theorem ofName?_eq_some_iff {name : String} {style : Style} :
    Style.ofName? name = some style ↔ name = style.name := by
  constructor
  · intro found
    exact (beq_iff_eq.mp (List.find?_some found :)).symm
  · rintro rfl
    cases style <;> rfl

theorem decodeStyle_eq_ok_iff {keys : List String} {node : Node} {style : Style} :
    decodeStyle keys node = .ok style ↔ IsStyle node style := by
  cases node with
  | text origin s =>
    have named : (∃ other, Node.text origin s = .text other style.name.toList) ↔
        Style.ofName? (.ofList s) = some style := by
      simp [ofName?_eq_some_iff, ← String.toList_inj]
    rw [IsStyle, named, decodeStyle]
    cases Style.ofName? (.ofList s) <;> simp
  | table origin entries =>
    simp only [decodeStyle, IsStyle]
    split
    next => simp [mismatch]
    next => split <;> simp [mismatch]
  | letter | flag | signed | unsigned | real | sequence => simp [decodeStyle, mismatch, IsStyle]

theorem map_eq_ok_iff {α β : Type} {decoded : Decoded α} {f : α → β} {result : β} :
    decoded.map f = .ok result ↔ ∃ value, decoded = .ok value ∧ f value = result := by
  cases decoded <;> simp [Except.map]

theorem decodeSize_eq_ok_iff {keys : List String} {node : Node} {size : UInt64} :
    decodeSize keys node = .ok size ↔ IsNumber node size.toNat := by
  simp only [decodeSize, map_eq_ok_iff, decodeNumber_eq_ok_iff]
  constructor
  · rintro ⟨n, ⟨number, small⟩, rfl⟩
    rwa [UInt64.toNat_ofNat_of_lt' (Nat.lt_of_le_sub_one (by decide) small)]
  · intro number
    exact ⟨size.toNat, ⟨number, Nat.le_sub_one_of_lt size.toNat_lt⟩, UInt64.ofNat_toNat⟩

theorem decodeVersion_eq_ok_iff {keys : List String} {node : Node} {version : UInt32} :
    decodeVersion keys node = .ok version ↔ IsNumber node version.toNat := by
  simp only [decodeVersion, map_eq_ok_iff, decodeNumber_eq_ok_iff]
  constructor
  · rintro ⟨n, ⟨number, small⟩, rfl⟩
    rwa [UInt32.toNat_ofNat_of_lt' (Nat.lt_of_le_sub_one (by decide) small)]
  · intro number
    exact ⟨version.toNat, ⟨number, Nat.le_sub_one_of_lt version.toNat_lt⟩, UInt32.ofNat_toNat⟩

theorem decode_eq_ok_iff {setting : Setting} {node : Node} {value : setting.Kind} :
    setting.decode node = .ok value ↔ setting.Accepts node value := by
  cases setting with
  | debug | createDirs => exact decodeFlag_eq_ok_iff
  | sourceExtension | testSuffix | fileExtension => exact decodeText_eq_ok_iff
  | style => exact decodeStyle_eq_ok_iff
  | poolSize => exact decodeSize_eq_ok_iff
  | version => exact decodeVersion_eq_ok_iff

section Faults

variable {keys : List String} {node : Node} {fault : Fault}

theorem keys_of_decodeFlag (refused : decodeFlag keys node = .error fault) : fault.keys = keys := by
  cases node <;> cases refused <;> rfl

theorem keys_of_decodeText (refused : decodeText keys node = .error fault) : fault.keys = keys := by
  cases node <;> cases refused <;> rfl

theorem keys_of_decodeNumber {α : Type} {limit : Nat} {expected : String} {f : Nat → α}
    (refused : (decodeNumber limit expected keys node).map f = .error fault) : fault.keys = keys := by
  unfold decodeNumber at refused
  split at refused
  next =>
    split at refused <;> cases refused
    rfl
  next =>
    split at refused <;> cases refused
    rfl
  next =>
    cases refused
    rfl

-- Of a table that stands for a style, the name is refused, or what stands behind it.
theorem keys_of_decodeStyle (refused : decodeStyle keys node = .error fault) : keys <+: fault.keys := by
  unfold decodeStyle at refused
  split at refused
  next =>
    split at refused
    next => cases refused
    next =>
      cases refused
      exact List.prefix_refl keys
  next =>
    split at refused
    next =>
      cases refused
      exact List.prefix_refl keys
    next =>
      split at refused <;> cases refused <;> exact List.prefix_append keys _
  next =>
    cases refused
    exact List.prefix_refl keys

end Faults

-- What is wrong is put down to the setting.
theorem keys_of_decode_error {setting : Setting} {node : Node} {fault : Fault}
    (refused : setting.decode node = .error fault) : setting.keys <+: fault.keys := by
  cases setting with
  | debug | createDirs => rw [keys_of_decodeFlag refused]
  | sourceExtension | testSuffix | fileExtension => rw [keys_of_decodeText refused]
  | poolSize | version => rw [keys_of_decodeNumber refused]
  | style => exact keys_of_decodeStyle refused

-- What a setting comes to, by the node that is chosen for it if there is one.
def outcome (setting : Setting) : Option Node → Decoded setting.Kind
  | some node => setting.decode node
  | none => .ok (get {} setting)

def assemble (outcomes : (setting : Setting) → Decoded setting.Kind) : Decoded Settings := do
  let debug ← outcomes debug
  let poolSize ← outcomes poolSize
  let sourceExtension ← outcomes sourceExtension
  let testSuffix ← outcomes testSuffix
  let createDirs ← outcomes createDirs
  let fileExtension ← outcomes fileExtension
  let style ← outcomes style
  let version ← outcomes version
  return ⟨version, debug, ⟨poolSize, sourceExtension, testSuffix⟩, ⟨fileExtension, style, createDirs⟩⟩

-- The first fault among settings in a row.
def FirstFault (outcomes : (setting : Setting) → Decoded setting.Kind) (fault : Fault) : List Setting → Prop
  | [] => False
  | setting :: more =>
    outcomes setting = .error fault ∨ (∃ value, outcomes setting = .ok value) ∧ FirstFault outcomes fault more

theorem bind_eq_ok_iff {α β : Type} {first : Decoded α} {next : α → Decoded β} {result : β} :
    first >>= next = .ok result ↔ ∃ value, first = .ok value ∧ next value = .ok result := by
  cases first <;> simp [bind, Except.bind]

theorem bind_eq_error_iff {α β : Type} {first : Decoded α} {next : α → Decoded β} {fault : Fault} :
    first >>= next = .error fault ↔
      first = .error fault ∨ ∃ value, first = .ok value ∧ next value = .error fault := by
  cases first <;> simp [bind, Except.bind]

variable {outcomes : (setting : Setting) → Decoded setting.Kind}

theorem assemble_eq_ok_iff {settings : Settings} :
    assemble outcomes = .ok settings ↔ ∀ setting, outcomes setting = .ok (get settings setting) := by
  simp only [assemble, bind_eq_ok_iff]
  constructor
  · rintro ⟨_, isDebug, _, isPoolSize, _, isSourceExtension, _, isTestSuffix, _, isCreateDirs, _,
      isFileExtension, _, isStyle, _, isVersion, same⟩
    cases same
    intro setting
    cases setting <;> assumption
  · intro all
    exact ⟨_, all debug, _, all poolSize, _, all sourceExtension, _, all testSuffix, _, all createDirs,
      _, all fileExtension, _, all style, _, all version, rfl⟩

theorem eq_of_get {first second : Settings}
    (same : ∀ setting, get first setting = get second setting) : first = second := by
  have own : assemble (fun setting => .ok (get first setting)) = .ok first :=
    assemble_eq_ok_iff.mpr fun _ => rfl
  have other : assemble (fun setting => .ok (get first setting)) = .ok second :=
    assemble_eq_ok_iff.mpr fun setting => congrArg Except.ok (same setting)
  exact Except.ok.inj (own.symm.trans other)

theorem assemble_eq_error_iff_firstFault {fault : Fault} :
    assemble outcomes = .error fault ↔ FirstFault outcomes fault all := by
  simp only [assemble, bind_eq_error_iff, all, FirstFault]
  simp only [pure, Except.pure, reduceCtorEq, and_false, exists_const, exists_and_right, or_false]

-- Keys in front of others in the alphabet are checked before them.
theorem firstFault_iff_of_sorted {fault : Fault} {settings : List Setting}
    (sorted : settings.Pairwise (·.keys < ·.keys)) :
    FirstFault outcomes fault settings ↔ ∃ setting ∈ settings, outcomes setting = .error fault ∧
      ∀ other ∈ settings, other.keys < setting.keys → ∃ value, outcomes other = .ok value := by
  induction settings with
  | nil => simp [FirstFault]
  | cons first more ih =>
    obtain ⟨least, rest⟩ := List.pairwise_cons.mp sorted
    rw [FirstFault, ih rest]
    constructor
    · rintro (bad | ⟨good, setting, member, bad, before⟩)
      · refine ⟨first, List.mem_cons_self, bad, fun other among less => ?_⟩
        rcases List.mem_cons.mp among with rfl | later
        · exact absurd less (List.lt_irrefl _)
        · exact absurd less (List.lt_asymm (least other later))
      · refine ⟨setting, List.mem_cons_of_mem _ member, bad, fun other among less => ?_⟩
        rcases List.mem_cons.mp among with rfl | later
        · exact good
        · exact before other later less
    · rintro ⟨setting, member, bad, before⟩
      rcases List.mem_cons.mp member with rfl | later
      · exact .inl bad
      · refine .inr ⟨before first List.mem_cons_self (least setting later), setting, later, bad, ?_⟩
        exact fun other among => before other (List.mem_cons_of_mem _ among)

theorem assemble_eq_error_iff {fault : Fault} :
    assemble outcomes = .error fault ↔ ∃ setting, outcomes setting = .error fault ∧
      ∀ other : Setting, other.keys < setting.keys → ∃ value, outcomes other = .ok value := by
  rw [assemble_eq_error_iff_firstFault, firstFault_iff_of_sorted all_sorted]
  simp [mem_all]

end Setting

-- Sections are absent or tables.
def HasSections (entries : List (String × Node)) : Prop :=
  ∀ name ∈ ["extraction", "output"], ∀ node ∈ entries.lookup name, node.isTable = true

instance (entries : List (String × Node)) : Decidable (HasSections entries) :=
  inferInstanceAs (Decidable (∀ name ∈ ["extraction", "output"], ∀ node ∈ entries.lookup name, node.isTable = true))

section Sections

variable {entries : List (String × Node)} (sections : HasSections entries)

include sections

theorem decodeScan_eq : decodeEntry decodeScan ({} : Settings).extraction [] entries "extraction" = (do
    let poolSize ← Setting.poolSize.outcome (at? entries Setting.poolSize.keys)
    let sourceExtension ← Setting.sourceExtension.outcome (at? entries Setting.sourceExtension.keys)
    let testSuffix ← Setting.testSuffix.outcome (at? entries Setting.testSuffix.keys)
    return ⟨poolSize, sourceExtension, testSuffix⟩) := by
  cases found : entries.lookup "extraction" with
  | none =>
    simp only [decodeEntry, Setting.keys, at?, found]
    rfl
  | some node =>
    obtain ⟨origin, inner, rfl⟩ := Node.exists_of_isTable (sections _ (by simp) _ found)
    simp only [decodeEntry, decodeScan, Setting.keys, at?, found]
    cases inner.lookup "pool_size" <;> cases inner.lookup "source_extension" <;>
      cases inner.lookup "test_suffix" <;> rfl

theorem decodeOutput_eq : decodeEntry decodeOutput ({} : Settings).output [] entries "output" = (do
    let createDirs ← Setting.createDirs.outcome (at? entries Setting.createDirs.keys)
    let fileExtension ← Setting.fileExtension.outcome (at? entries Setting.fileExtension.keys)
    let style ← Setting.style.outcome (at? entries Setting.style.keys)
    return ⟨fileExtension, style, createDirs⟩) := by
  cases found : entries.lookup "output" with
  | none =>
    simp only [decodeEntry, Setting.keys, at?, found]
    rfl
  | some node =>
    obtain ⟨origin, inner, rfl⟩ := Node.exists_of_isTable (sections _ (by simp) _ found)
    simp only [decodeEntry, decodeOutput, Setting.keys, at?, found]
    cases inner.lookup "create_dirs" <;> cases inner.lookup "file_extension" <;>
      cases inner.lookup "style" <;> rfl

theorem decodeSettings_eq :
    decodeSettings entries = Setting.assemble fun setting => setting.outcome (at? entries setting.keys) := by
  have debug : decodeEntry decodeFlag ({} : Settings).debug [] entries "debug" =
      Setting.debug.outcome (at? entries Setting.debug.keys) := by
    simp only [decodeEntry, Setting.keys, at?]
    cases entries.lookup "debug" <;> rfl
  have version : decodeEntry decodeVersion ({} : Settings).version [] entries "version" =
      Setting.version.outcome (at? entries Setting.version.keys) := by
    simp only [decodeEntry, Setting.keys, at?]
    cases entries.lookup "version" <;> rfl
  simp only [decodeSettings, debug, decodeScan_eq sections, decodeOutput_eq sections, version,
    Setting.assemble, bind_assoc, pure_bind]

end Sections

end InterfaceDraft
