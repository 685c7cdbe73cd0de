import InterfaceDraft.CommandLine.Run
import InterfaceDraft.Proofs.Settings.Setting

set_option autoImplicit false

namespace InterfaceDraft

open Text Files Layer Environment

namespace Setting

-- The default is what stands at the bottom of the layers.
theorem at?_defaults (setting : Setting) : ∃ node, at? defaults setting.keys = some node ∧
    node.isTable = false ∧ setting.decode node = .ok (get {} setting) := by
  cases setting <;> exact ⟨_, rfl, rfl, rfl⟩

-- A setting stands at the top, or in a section.
theorem keys_cases (setting : Setting) :
    (∃ key, setting.keys = [key]) ∨ ∃ name ∈ ["extraction", "output"], ∃ key, setting.keys = [name, key] := by
  cases setting with
  | debug | version => exact .inl ⟨_, rfl⟩
  | poolSize | sourceExtension | testSuffix => exact .inr ⟨"extraction", by simp, _, rfl⟩
  | createDirs | fileExtension | style => exact .inr ⟨"output", by simp, _, rfl⟩

theorem open_of_sections {entries : List (String × Node)} (distinct : Distinct entries)
    (inner : ∀ key origin inner, entries.lookup key = some (.table origin inner) → Distinct inner)
    (sections : HasSections entries) (setting : Setting) : Open entries setting.keys := by
  obtain ⟨key, keys⟩ | ⟨name, member, key, keys⟩ := setting.keys_cases
  · rw [keys]
    exact distinct
  · rw [keys]
    refine ⟨distinct, fun node found => ?_⟩
    obtain ⟨origin, below, rfl⟩ := Node.exists_of_isTable (sections name member node found)
    exact ⟨origin, below, rfl, inner name origin below found⟩

theorem hasSections_of_open {entries : List (String × Node)}
    (opened : ∀ setting : Setting, Open entries setting.keys) : HasSections entries := by
  intro name member node found
  rw [List.mem_cons, List.mem_singleton] at member
  rcases member with rfl | rfl
  · obtain ⟨_, _, rfl, -⟩ := (opened .poolSize).2 node found
    rfl
  · obtain ⟨_, _, rfl, -⟩ := (opened .style).2 node found
    rfl

theorem open_defaults (setting : Setting) : Open defaults setting.keys := by
  have distinct : Distinct defaults := by
    unfold Distinct
    decide
  cases setting with
  | debug | version => exact distinct
  | poolSize | sourceExtension | testSuffix | createDirs | fileExtension | style =>
    refine ⟨distinct, fun node found => ?_⟩
    cases found
    refine ⟨_, _, rfl, ?_⟩
    unfold Open Distinct
    decide

theorem open_nil (setting : Setting) : Open [] setting.keys := by
  refine open_of_sections ?_ (by simp) (by simp [HasSections]) setting
  exact List.nodup_nil

-- The node that the environment or else the document gives.
def chosen? (document : List (String × Node)) (environment : List Variable) (setting : Setting) : Option Node :=
  (given? environment setting.keys).or (at? document setting.keys)

-- The value of a setting, by the node that is chosen for it.
def Takes (setting : Setting) (chosen : Option Node) (value : setting.Kind) : Prop :=
  match chosen with
  | some node => setting.Accepts node value
  | none => value = get {} setting

theorem outcome_eq_ok_iff {setting : Setting} {chosen : Option Node} {value : setting.Kind} :
    setting.outcome chosen = .ok value ↔ setting.Takes chosen value := by
  cases chosen with
  | none => simp [outcome, Takes, eq_comm]
  | some node => exact decode_eq_ok_iff

theorem Takes.unique {setting : Setting} {chosen : Option Node} {first second : setting.Kind}
    (takes : setting.Takes chosen first) (also : setting.Takes chosen second) : first = second := by
  rw [← outcome_eq_ok_iff] at takes also
  exact Except.ok.inj (takes.symm.trans also)

end Setting

-- A variable can be read; it does not stand for a whole section, and gives no setting a table.
structure FitsSettings (assigned : Variable) : Prop where
  readable : ∀ {keys}, keysOf? assigned.1 = some keys → ∃ value, Inline.read? assigned.2.toList = some value
  sections : keysOf? assigned.1 ≠ some ["extraction"] ∧ keysOf? assigned.1 ≠ some ["output"]
  below : ∀ {setting : Setting} {keys}, keysOf? assigned.1 = some keys → setting.keys <+: keys → keys = setting.keys
  single : ∀ {setting : Setting}, keysOf? assigned.1 = some setting.keys →
    ∀ value, Inline.read? assigned.2.toList = some value → value.isTable = false

theorem fitsSettings_of_keys {assigned : Variable} {setting : Setting}
    (named : keysOf? assigned.1 = some setting.keys)
    (single : (Inline.read? assigned.2.toList).map Value.isTable = some false) : FitsSettings assigned := by
  obtain ⟨value, read, plain⟩ := Option.map_eq_some_iff.mp single
  refine ⟨fun _ => ⟨value, read⟩, ?_, fun {other keys} found leads => ?_, fun _ again same => ?_⟩
  · rw [named]
    cases setting <;> decide
  · obtain rfl := Option.some.inj (named.symm.trans found)
    cases setting <;> cases other <;> revert leads <;> decide
  · obtain rfl := Option.some.inj (read.symm.trans same)
    exact plain

theorem FitsSettings.fitsAt {assigned : Variable} (fits : FitsSettings assigned) (setting : Setting) :
    FitsAt setting.keys assigned := by
  refine ⟨fits.readable, fun {keys} named leads => ?_, fits.below, fits.single⟩
  have filled := keysOf?_ne_nil named
  obtain ⟨key, own⟩ | ⟨name, member, key, own⟩ := setting.keys_cases
  · rw [own] at leads ⊢
    obtain rfl | ⟨_, rfl, last⟩ := List.prefix_cons_iff.mp leads
    · exact absurd rfl filled
    · rw [List.prefix_nil.mp last]
  · rw [own] at leads ⊢
    obtain rfl | ⟨_, rfl, second⟩ := List.prefix_cons_iff.mp leads
    · exact absurd rfl filled
    · obtain rfl | ⟨_, rfl, last⟩ := List.prefix_cons_iff.mp second
      · rw [List.mem_cons, List.mem_singleton] at member
        rcases member with rfl | rfl
        · exact absurd named fits.sections.1
        · exact absurd named fits.sections.2
      · rw [List.prefix_nil.mp last]

section Loading

variable {w : Workspace} {environment : List Variable} {p : Path} {document : List (String × Node)}

theorem isTable_of_given? {setting : Setting} {node : Node}
    (fits : ∀ assigned ∈ environment, FitsSettings assigned)
    (given : given? environment setting.keys = some node) : node.isTable = false := by
  obtain ⟨assigned, last, read⟩ := Option.bind_eq_some_iff.mp given
  obtain ⟨member, named⟩ := List.mem_filter.mp (List.mem_of_getLast? last)
  obtain ⟨value, found, rfl⟩ := Option.map_eq_some_iff.mp read
  rw [isTable_ofValue]
  exact (fits assigned member).single (by simpa using named) value found

variable (layered : Settings.documentLayer w p = .ok document) (sections : HasSections document)
  (fits : ∀ assigned ∈ environment, FitsSettings assigned)

include layered sections fits

theorem at?_layers {layer : List (String × Node)} (built : layer? environment = some layer) (setting : Setting) :
    Open (mergeEntries (mergeEntries defaults document) layer) setting.keys ∧
      setting.outcome (at? (mergeEntries (mergeEntries defaults document) layer) setting.keys) =
        setting.outcome (setting.chosen? document environment) := by
  have lower := setting.open_defaults
  obtain ⟨distinct, inner⟩ := distinct_documentLayer layered
  have middle := Setting.open_of_sections distinct inner sections setting
  obtain ⟨upper, given⟩ := at?_layerOn? (fun assigned member => (fits assigned member).fitsAt setting)
    setting.open_nil built
  obtain ⟨default, bottom, single, known⟩ := setting.at?_defaults
  have nothing : at? [] setting.keys = none := by cases setting <;> rfl
  rw [nothing, Option.or_none] at given
  refine ⟨open_mergeEntries (open_mergeEntries lower middle) upper, ?_⟩
  rw [at?_mergeEntries (open_mergeEntries lower middle) upper, at?_mergeEntries lower middle, given, bottom,
    Setting.chosen?]
  cases last : given? environment setting.keys with
  | some node =>
    simp only [Node.merge_of_single (.inl (isTable_of_given? fits last)), Option.some_or]
  | none =>
    cases at? document setting.keys with
    | some node =>
      have replaced : Node.merge (some default) node = node :=
        Node.merge_of_single (.inr fun _ same => Option.some.inj same ▸ single)
      simp only [replaced, Option.none_or]
    | none => exact known

theorem loadFrom_eq : Settings.loadFrom w environment p =
    (Setting.assemble fun setting => setting.outcome (setting.chosen? document environment)).mapError .fault := by
  obtain ⟨layer, built⟩ := layerOn?_of_readable (fun assigned member _ => (fits assigned member).readable) []
  have merged := at?_layers layered sections fits built
  have found : HasSections (mergeEntries (mergeEntries defaults document) layer) :=
    Setting.hasSections_of_open fun setting => (merged setting).1
  have same : (fun setting : Setting => setting.outcome
      (at? (mergeEntries (mergeEntries defaults document) layer) setting.keys)) =
      fun setting => setting.outcome (setting.chosen? document environment) :=
    funext fun setting => (merged setting).2
  rw [Settings.loadFrom, layer?, built, layered]
  simp only [Settings.ofLayers, decodeSettings_eq found, same]
  cases Setting.assemble fun setting => setting.outcome (setting.chosen? document environment) <;> rfl

theorem loadFrom_eq_ok_iff {settings : Settings} : Settings.loadFrom w environment p = .ok settings ↔
    ∀ setting : Setting, setting.Takes (setting.chosen? document environment) (Setting.get settings setting) := by
  simp only [← Setting.outcome_eq_ok_iff, ← Setting.assemble_eq_ok_iff, loadFrom_eq layered sections fits]
  cases Setting.assemble fun setting => setting.outcome (setting.chosen? document environment) <;>
    simp [Except.mapError]

-- The first setting in the alphabet for which a value is chosen that it cannot have.
theorem loadFrom_eq_error_iff {error : SettingsError} : Settings.loadFrom w environment p = .error error ↔
    ∃ (setting : Setting) (node : Node) (fault : Fault), setting.chosen? document environment = some node ∧
      setting.decode node = .error fault ∧ error = .fault fault ∧
      ∀ other : Setting, other.keys < setting.keys →
        ∃ value, other.Takes (other.chosen? document environment) value := by
  have faulty : Settings.loadFrom w environment p = .error error ↔ ∃ fault, error = .fault fault ∧
      Setting.assemble (fun setting => setting.outcome (setting.chosen? document environment)) = .error fault := by
    rw [loadFrom_eq layered sections fits]
    cases Setting.assemble fun setting => setting.outcome (setting.chosen? document environment) <;>
      simp [Except.mapError, eq_comm]
  simp only [faulty, Setting.assemble_eq_error_iff, Setting.outcome_eq_ok_iff]
  constructor
  · rintro ⟨fault, rfl, setting, bad, before⟩
    cases chosen : setting.chosen? document environment with
    | none =>
      rw [chosen] at bad
      cases bad
    | some node =>
      rw [chosen] at bad
      exact ⟨setting, node, fault, chosen, bad, rfl, before⟩
  · rintro ⟨setting, node, fault, chosen, bad, rfl, before⟩
    refine ⟨fault, rfl, setting, ?_, before⟩
    rw [chosen]
    exact bad

theorem loadFrom_fails_iff : (∃ error, Settings.loadFrom w environment p = .error error) ↔
    ∃ (setting : Setting) (node : Node), setting.chosen? document environment = some node ∧
      ∀ value, ¬ setting.Accepts node value := by
  constructor
  · rintro ⟨error, failed⟩
    obtain ⟨setting, node, fault, chosen, bad, -⟩ := (loadFrom_eq_error_iff layered sections fits).mp failed
    refine ⟨setting, node, chosen, fun value accepted => ?_⟩
    rw [← Setting.decode_eq_ok_iff, bad] at accepted
    cases accepted
  · rintro ⟨setting, node, chosen, refused⟩
    cases loaded : Settings.loadFrom w environment p with
    | error error => exact ⟨error, rfl⟩
    | ok settings =>
      have taken := (loadFrom_eq_ok_iff layered sections fits).mp loaded setting
      rw [chosen] at taken
      exact absurd taken (refused _)

end Loading

namespace Environment

theorem given?_insert {assigned : Variable} {keys : List String} (other : keysOf? assigned.1 ≠ some keys)
    (before after : List Variable) :
    given? (before ++ assigned :: after) keys = given? (before ++ after) keys := by
  simp [given?, other]

-- Variables with different keys can be in any order.
theorem given?_of_perm {environment reordered : List Variable} (perm : environment.Perm reordered)
    (distinct : (environment.filterMap fun assigned => keysOf? assigned.1).Nodup) (keys : List String) :
    given? reordered keys = given? environment keys := by
  have same := perm.filter fun assigned => keysOf? assigned.1 == some keys
  have rest : ((environment.filter fun assigned => keysOf? assigned.1 == some keys).filterMap
      fun assigned => keysOf? assigned.1).Nodup :=
    distinct.sublist (List.filter_sublist.filterMap _)
  have named : ∀ assigned ∈ environment.filter fun assigned => keysOf? assigned.1 == some keys,
      keysOf? assigned.1 = some keys := by simp
  rw [given?, given?]
  generalize environment.filter (fun assigned => keysOf? assigned.1 == some keys) = matching at same rest named
  cases matching with
  | nil => rw [List.nil_perm.mp same]
  | cons first others =>
    cases others with
    | nil => rw [List.singleton_perm.mp same]
    | cons second more =>
      rw [List.filterMap_cons, named first (by simp), List.filterMap_cons, named second (by simp)] at rest
      simp at rest

end Environment

namespace CommandLine

theorem Arguments.loaded_eq (arguments : Arguments) (w : Workspace) (environment : List Variable) :
    arguments.loaded w environment =
      Settings.loadFrom w environment (arguments.config.getD (Settings.documentPath w)) := by
  unfold Arguments.loaded
  cases arguments.config <;> rfl

-- Arguments replace two settings of those that are loaded.
structure Overrides (arguments : Arguments) (loaded final : Settings) : Prop where
  pool : final.extraction.poolSize = arguments.pool.getD loaded.extraction.poolSize
  style : final.output.style = arguments.style.getD loaded.output.style
  others : ∀ setting, setting ≠ .poolSize → setting ≠ .style → Setting.get final setting = Setting.get loaded setting

theorem overrides_iff {arguments : Arguments} {loaded final : Settings} :
    Overrides arguments loaded final ↔ final = arguments.override loaded := by
  constructor
  · intro overrides
    refine Setting.eq_of_get fun setting => ?_
    cases setting with
    | poolSize => exact overrides.pool
    | style => exact overrides.style
    | debug | sourceExtension | testSuffix | createDirs | fileExtension | version =>
      exact overrides.others _ (by decide) (by decide)
  · rintro rfl
    refine ⟨rfl, rfl, fun setting notPool notStyle => ?_⟩
    cases setting with
    | poolSize => exact absurd rfl notPool
    | style => exact absurd rfl notStyle
    | debug | sourceExtension | testSuffix | createDirs | fileExtension | version => rfl

-- Arguments do not mend what is wrong in the layers below.
theorem Arguments.settings_eq_error_iff {arguments : Arguments} {w : Workspace} {environment : List Variable}
    {error : SettingsError} :
    arguments.settings w environment = .error error ↔ arguments.loaded w environment = .error error := by
  unfold Arguments.settings
  cases arguments.loaded w environment <;> simp [Except.map]

theorem Arguments.settings_eq_ok_iff {arguments : Arguments} {w : Workspace} {environment : List Variable}
    {final : Settings} : arguments.settings w environment = .ok final ↔
      ∃ settings, arguments.loaded w environment = .ok settings ∧ Overrides arguments settings final := by
  simp only [overrides_iff]
  unfold Arguments.settings
  cases arguments.loaded w environment <;> simp [Except.map, eq_comm]

end CommandLine

-- Settings in layers, one by one: each has the value of the last variable for it, or else that of the
-- document, or else its default. What cannot be a value of its setting is the only thing that fails, and
-- the first such setting in the alphabet is blamed.
theorem settings_resolved_one_by_one {w : Workspace} {environment : List Variable} {p : Path}
    {document : List (String × Node)} (layered : Settings.documentLayer w p = .ok document)
    (sections : HasSections document) (fits : ∀ assigned ∈ environment, FitsSettings assigned) :
    let loaded := Settings.loadFrom w environment p
    let chosen (setting : Setting) := setting.chosen? document environment
    (∀ settings, loaded = .ok settings ↔
      ∀ setting : Setting, setting.Takes (chosen setting) (Setting.get settings setting)) ∧
    ((∃ error, loaded = .error error) ↔
      ∃ (setting : Setting) (node : Node), chosen setting = some node ∧ ∀ value, ¬ setting.Accepts node value) ∧
    (∀ error, loaded = .error error → ∃ (setting : Setting) (node : Node) (fault : Fault),
      chosen setting = some node ∧ setting.decode node = .error fault ∧ setting.keys <+: fault.keys ∧
      error = .fault fault ∧
      ∀ other : Setting, other.keys < setting.keys → ∃ value, other.Takes (chosen other) value) ∧
    (∀ before assigned after, environment = before ++ assigned :: after →
      ∀ settings others, loaded = .ok settings → Settings.loadFrom w (before ++ after) p = .ok others →
        ∀ setting : Setting, keysOf? assigned.1 ≠ some setting.keys →
          Setting.get settings setting = Setting.get others setting) ∧
    (∀ reordered, environment.Perm reordered →
      (environment.filterMap fun assigned => keysOf? assigned.1).Nodup →
        Settings.loadFrom w reordered p = loaded) ∧
    ∀ arguments : CommandLine.Arguments,
      arguments.config.getD (Settings.documentPath w) = p →
      (∀ error, arguments.settings w environment = .error error ↔ loaded = .error error) ∧
      ∀ final, arguments.settings w environment = .ok final ↔
        ∃ settings, loaded = .ok settings ∧ CommandLine.Overrides arguments settings final := by
  intro loaded chosen
  refine ⟨fun settings => loadFrom_eq_ok_iff layered sections fits,
    loadFrom_fails_iff layered sections fits, ?_, ?_, ?_, ?_⟩
  · intro error failed
    obtain ⟨setting, node, fault, selected, bad, same, before⟩ :=
      (loadFrom_eq_error_iff layered sections fits).mp failed
    exact ⟨setting, node, fault, selected, bad, Setting.keys_of_decode_error bad, same, before⟩
  · intro before assigned after same settings others withIt withoutIt setting other
    subst same
    have fewer : ∀ remaining ∈ before ++ after, FitsSettings remaining := by
      intro remaining member
      refine fits remaining ?_
      rw [List.mem_append, List.mem_cons]
      rw [List.mem_append] at member
      exact member.imp id .inr
    have taken := (loadFrom_eq_ok_iff layered sections fits).mp withIt setting
    rw [Setting.chosen?, given?_insert other] at taken
    exact taken.unique ((loadFrom_eq_ok_iff layered sections fewer).mp withoutIt setting)
  · intro reordered perm distinct
    have alsoFits : ∀ assigned ∈ reordered, FitsSettings assigned :=
      fun assigned member => fits assigned (perm.mem_iff.mpr member)
    simp only [loaded, loadFrom_eq layered sections alsoFits, loadFrom_eq layered sections fits, Setting.chosen?,
      given?_of_perm perm distinct]
  · rintro arguments rfl
    simp only [CommandLine.Arguments.settings_eq_error_iff, CommandLine.Arguments.settings_eq_ok_iff,
      CommandLine.Arguments.loaded_eq]
    exact ⟨fun _ => Iff.rfl, fun _ => Iff.rfl⟩

-- The version in the document is no number, but shadowed. The pool size of the environment comes before
-- the style, and an argument for it does not help.
theorem settings_resolved_one_by_one_pool :
    let text := "version = \"x\"\n[extraction]\npool_size = 4\n[output]\nstyle = \"fancy\"\n"
    let w : Workspace := ⟨⟨[([bytesOf "s.toml"], .file (bytesOf text))]⟩, []⟩
    let p := Path.ofString "s.toml"
    let environment := [("IFACEGEN_VERSION", "7"), ("ifacegen_Extraction__Pool_Size", "nine")]
    let arguments : CommandLine.Arguments := { receiver := "T", config := some p, pool := some 3 }
    let error := SettingsError.fault
      ⟨.invalidType (.text "nine".toList) "usize", ["extraction", "pool_size"], .environment⟩
    Settings.loadFrom w environment p = .error error ∧ Settings.loadFrom w environment.reverse p = .error error ∧
      arguments.settings w environment = .error error := by
  intro text w p environment arguments error
  have loaded : Settings.loadFrom w environment p = .error error := by decide +kernel
  have layers : ∃ document, Settings.documentLayer w p = .ok document ∧ HasSections document := by
    have checked : (Settings.documentLayer w p).toOption.any (decide <| HasSections ·) = true := by
      decide +kernel
    cases layered : Settings.documentLayer w p with
    | error =>
      rw [layered] at checked
      cases checked
    | ok document =>
      rw [layered] at checked
      exact ⟨document, rfl, of_decide_eq_true checked⟩
  obtain ⟨document, layered, sections⟩ := layers
  have fits : ∀ assigned ∈ environment, FitsSettings assigned := by
    intro assigned member
    rw [List.mem_cons, List.mem_singleton] at member
    rcases member with rfl | rfl
    · exact fitsSettings_of_keys (by decide +kernel : _ = some Setting.version.keys) (by decide +kernel)
    · exact fitsSettings_of_keys (by decide +kernel : _ = some Setting.poolSize.keys) (by decide +kernel)
  obtain ⟨-, -, -, -, order, overriding⟩ := settings_resolved_one_by_one layered sections fits
  refine ⟨loaded, ?_, (((overriding arguments rfl).1 error).mpr loaded)⟩
  exact (order _ (List.reverse_perm environment).symm (by decide +kernel)).trans loaded

def Value.tableKeys? : Value → Option (List String)
  | .table entries => some (entries.map Prod.fst)
  | _ => none

-- A section that is a table in the document may stand for something else, and a value that cannot be read
-- ends the loading even if no setting has its keys.
theorem settings_not_resolved :
    let text := "[extraction]\n___figment_value_value = 5\n"
    let w : Workspace := ⟨⟨[([bytesOf "s.toml"], .file (bytesOf text))]⟩, []⟩
    let p := Path.ofString "s.toml"
    (Toml.read? text.toList).map (·.map fun e => (e.1, e.2.tableKeys?)) =
        some [("extraction", some ["___figment_value_value"])] ∧
      Settings.loadFrom w [] p =
        .error (.fault ⟨.invalidType (.signed 5) "struct ExtractionConfig", ["extraction"], .document p⟩) ∧
      keysOf? "IFACEGEN_OTHER" = some ["other"] ∧
      Settings.loadFrom ⟨⟨[]⟩, []⟩ [("IFACEGEN_OTHER", "\"日本\\n\"")] p = .error .cutVariable := by
  decide +kernel

end InterfaceDraft
