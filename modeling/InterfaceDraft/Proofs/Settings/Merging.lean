import InterfaceDraft.Proofs.Text.Lines
import InterfaceDraft.Proofs.Toml.Keys
import InterfaceDraft.Settings.Store

set_option autoImplicit false

namespace InterfaceDraft

open Text Files Layer

def Value.isTable : Value → Bool
  | .table _ => true
  | _ => false

namespace Layer

theorem lookup_insert (entries : List (String × Node)) (key other : String) (node : Node) :
    (insert entries key node).lookup other = if other = key then some node else entries.lookup other := by
  induction entries with
  | nil =>
    by_cases same : other = key
    · simp [insert, same]
    · simp [insert, List.lookup_cons, beq_eq_false_iff_ne.mpr same, same]
  | cons entry more ih =>
    obtain ⟨first, held⟩ := entry
    by_cases here : first = key
    · by_cases same : other = key
      · simp [insert, here, same]
      · simp [insert, List.lookup_cons, here, beq_eq_false_iff_ne.mpr same, same]
    · by_cases same : other = first
      · simp [insert, here, same]
      · have differs : (other == first) = false := beq_eq_false_iff_ne.mpr same
        simp [insert, List.lookup_cons, here, differs, ih]

def Distinct (entries : List (String × Node)) : Prop := (entries.map Prod.fst).Nodup

theorem mem_keys_insert {entries : List (String × Node)} {key other : String} {node : Node} :
    other ∈ (insert entries key node).map Prod.fst ↔ other = key ∨ other ∈ entries.map Prod.fst := by
  induction entries with
  | nil => simp [insert]
  | cons entry more ih =>
    by_cases here : entry.1 = key
    · simp [insert, here]
    · simp only [insert, beq_eq_false_iff_ne.mpr here, Bool.false_eq_true, if_false, List.map_cons,
        List.mem_cons, ih]
      exact or_left_comm

theorem distinct_insert {entries : List (String × Node)} (distinct : Distinct entries) (key : String)
    (node : Node) : Distinct (insert entries key node) := by
  induction entries with
  | nil => simp [Distinct, insert]
  | cons entry more ih =>
    obtain ⟨absent, rest⟩ := List.nodup_cons.mp distinct
    by_cases here : entry.1 = key
    · simp only [insert, here, BEq.rfl, if_true]
      exact List.nodup_cons.mpr ⟨here ▸ absent, rest⟩
    · simp only [insert, beq_eq_false_iff_ne.mpr here, Bool.false_eq_true, if_false]
      refine List.nodup_cons.mpr ⟨?_, ih rest⟩
      rw [mem_keys_insert]
      rintro (same | member)
      · exact here same
      · exact absent member

theorem distinct_mergeEntries {base : List (String × Node)} (distinct : Distinct base)
    (upper : List (String × Node)) : Distinct (mergeEntries base upper) := by
  induction upper generalizing base with
  | nil => exact distinct
  | cons entry upper ih =>
    rw [mergeEntries]
    exact ih (distinct_insert distinct _ _)

theorem lookup_mergeEntries {base upper : List (String × Node)} (distinct : Distinct upper) (key : String) :
    (mergeEntries base upper).lookup key =
      match upper.lookup key with
      | some node => some (Node.merge (base.lookup key) node)
      | none => base.lookup key := by
  induction upper generalizing base with
  | nil => rfl
  | cons entry upper ih =>
    obtain ⟨first, node⟩ := entry
    obtain ⟨absent, rest⟩ := List.nodup_cons.mp distinct
    rw [mergeEntries, ih rest, lookup_insert]
    by_cases same : key = first
    · subst same
      have missing : upper.lookup key = none := lookup_eq_none_iff_not_mem.mpr absent
      simp [missing]
    · have differs : (key == first) = false := beq_eq_false_iff_ne.mpr same
      simp [List.lookup_cons, differs, same]

-- The node under a list of keys, each one in the table under those before it.
def at? (entries : List (String × Node)) : List String → Option Node
  | [] => none
  | [key] => entries.lookup key
  | key :: next :: more =>
    match entries.lookup key with
    | some (.table _ inner) => at? inner (next :: more)
    | _ => none

-- The keys lead through tables only, which have every key once.
def Open (entries : List (String × Node)) : List String → Prop
  | [] => True
  | [_] => Distinct entries
  | key :: next :: more =>
    Distinct entries ∧ ∀ node, entries.lookup key = some node →
      ∃ origin inner, node = .table origin inner ∧ Open inner (next :: more)

theorem open_mergeEntries {base upper : List (String × Node)} {keys : List String}
    (lower : Open base keys) (higher : Open upper keys) : Open (mergeEntries base upper) keys := by
  induction keys generalizing base upper with
  | nil => trivial
  | cons key keys ih =>
    cases keys with
    | nil => exact distinct_mergeEntries lower upper
    | cons next more =>
      refine ⟨distinct_mergeEntries lower.1 upper, fun node there => ?_⟩
      rw [lookup_mergeEntries higher.1] at there
      split at there
      next found =>
        obtain ⟨origin, inner, rfl, onward⟩ := higher.2 _ found
        cases below : base.lookup key with
        | none =>
          rw [below] at there
          cases there
          exact ⟨origin, inner, rfl, onward⟩
        | some old =>
          obtain ⟨_, under, rfl, lowerOnward⟩ := lower.2 _ below
          rw [below] at there
          cases there
          exact ⟨origin, mergeEntries under inner, rfl, ih lowerOnward onward⟩
      next => exact lower.2 node there

theorem at?_mergeEntries {base upper : List (String × Node)} {keys : List String}
    (lower : Open base keys) (higher : Open upper keys) :
    at? (mergeEntries base upper) keys =
      match at? upper keys with
      | some node => some (Node.merge (at? base keys) node)
      | none => at? base keys := by
  induction keys generalizing base upper with
  | nil => rfl
  | cons key keys ih =>
    cases keys with
    | nil => exact lookup_mergeEntries higher key
    | cons next more =>
      cases found : upper.lookup key with
      | none => simp only [at?, lookup_mergeEntries higher.1, found]
      | some node =>
        obtain ⟨origin, inner, rfl, onward⟩ := higher.2 _ found
        cases below : base.lookup key with
        | none =>
          simp only [at?, lookup_mergeEntries higher.1, found, below, Node.merge]
          cases at? inner (next :: more) with
          | none => rfl
          | some node => cases node <;> rfl
        | some old =>
          obtain ⟨_, under, rfl, lowerOnward⟩ := lower.2 _ below
          simp only [at?, lookup_mergeEntries higher.1, found, below, Node.merge]
          exact ih lowerOnward onward

def Node.isTable : Node → Bool
  | .table _ _ => true
  | _ => false

theorem Node.exists_of_isTable {node : Node} (table : node.isTable = true) :
    ∃ origin entries, node = .table origin entries := by
  cases node with
  | table origin entries => exact ⟨origin, entries, rfl⟩
  | text | letter | flag | signed | unsigned | real | sequence => cases table

theorem Node.merge_of_single {base : Option Node} {upper : Node}
    (single : upper.isTable = false ∨ ∀ node, base = some node → node.isTable = false) :
    Node.merge base upper = upper := by
  cases upper with
  | table origin entries =>
    have lower := single.resolve_left (by simp [isTable])
    cases base with
    | none => rfl
    | some node =>
      cases node with
      | table => cases lower _ rfl
      | text | letter | flag | signed | unsigned | real | sequence => rfl
  | text | letter | flag | signed | unsigned | real | sequence => rfl

theorem isTable_ofValue (origin : Origin) (value : Value) :
    (Node.ofValue origin value).isTable = value.isTable := by
  cases value <;> rfl

theorem keys_ofEntries (origin : Origin) (entries : List (String × Value)) :
    (Node.ofEntries origin entries).map Prod.fst = entries.map Prod.fst := by
  induction entries with
  | nil => rfl
  | cons entry entries ih => rw [Node.ofEntries, List.map_cons, List.map_cons, ih]

theorem lookup_ofEntries (origin : Origin) (entries : List (String × Value)) (key : String) :
    (Node.ofEntries origin entries).lookup key = (entries.lookup key).map (Node.ofValue origin) := by
  induction entries with
  | nil => rfl
  | cons entry entries ih =>
    obtain ⟨first, value⟩ := entry
    rw [Node.ofEntries, List.lookup_cons, List.lookup_cons]
    cases key == first <;> simp [ih]

end Layer

-- A document layer has every key once, also in the tables at its top.
theorem distinct_documentLayer {w : Workspace} {p : Path} {document : List (String × Node)}
    (layered : Settings.documentLayer w p = .ok document) :
    Distinct document ∧ ∀ key origin inner, document.lookup key = some (.table origin inner) → Distinct inner := by
  unfold Settings.documentLayer at layered
  split at layered
  next =>
    cases layered
    exact ⟨List.nodup_nil, by simp⟩
  next file _ =>
    unfold Settings.readDocument at layered
    simp only at layered
    split at layered
    next => cases layered
    next content _ =>
      split at layered
      next => cases layered
      next entries unwrapped =>
        cases layered
        obtain ⟨raw, read, unwrapping⟩ := Option.bind_eq_some_iff.mp unwrapped
        obtain ⟨text, -, toml⟩ := Option.bind_eq_some_iff.mp read
        have keyed := Value.unwrapDocument?_keyed (Toml.read?_keyed toml) unwrapping
        constructor
        · rw [Distinct, keys_ofEntries]
          exact keyed.entries.1
        · intro key origin inner found
          rw [lookup_ofEntries] at found
          obtain ⟨value, there, same⟩ := Option.map_eq_some_iff.mp found
          have member := (lookup_eq_some_iff_mem keyed.entries.1).mp there
          cases value with
          | table entries =>
            cases same
            rw [Distinct, keys_ofEntries]
            exact (keyed.entries.2 _ member).entries.1
          | text | letter | flag | signed | unsigned | real | sequence => cases same

namespace Environment

theorem keysOf?_ne_nil {name : String} {keys : List String} (named : keysOf? name = some keys) : keys ≠ [] := by
  unfold keysOf? at named
  split at named
  next => cases named
  next =>
    simp only at named
    split at named
    next => cases named
    next =>
      cases named
      simp [splitAll_ne_nil]

-- What a variable adds is one way down to its value.
theorem entriesOf?_eq {assigned : Variable} {key : String} {more : List String} {value : Value}
    (named : keysOf? assigned.1 = some (key :: more)) (read : Inline.read? assigned.2.toList = some value) :
    entriesOf? assigned = some [(key, Node.ofValue .environment (nest more value))] := by
  rw [entriesOf?, named, read]
  rfl

theorem open_nest {key : String} {more target : List String} {value : Value}
    (above : key :: more <+: target → key :: more = target) :
    Open [(key, Node.ofValue .environment (nest more value))] target := by
  induction target generalizing key more with
  | nil => trivial
  | cons first target ih =>
    cases target with
    | nil => simp [Open, Distinct]
    | cons next rest =>
      refine ⟨by simp [Distinct], fun node there => ?_⟩
      by_cases same : first = key
      · subst same
        cases more with
        | nil => simp at above
        | cons second more =>
          simp only [List.lookup_cons, BEq.rfl, Option.some.injEq] at there
          refine ⟨.environment, _, there.symm, ih fun lies => ?_⟩
          exact (List.cons.inj (above ((List.prefix_cons_inj first).mpr lies))).2
      · have differs : (first == key) = false := beq_eq_false_iff_ne.mpr same
        simp [List.lookup_cons, differs] at there

theorem at?_nest {key : String} {more target : List String} {value : Value}
    (above : key :: more <+: target → key :: more = target)
    (below : target <+: key :: more → key :: more = target) :
    at? [(key, Node.ofValue .environment (nest more value))] target =
      if key :: more = target then some (Node.ofValue .environment value) else none := by
  induction target generalizing key more with
  | nil => simp at below
  | cons first target ih =>
    by_cases same : first = key
    · subst same
      simp only [List.prefix_cons_inj, List.cons.injEq, true_and] at above below ⊢
      cases target with
      | nil =>
        obtain rfl : more = [] := below List.nil_prefix
        simp [at?, nest]
      | cons next rest =>
        cases more with
        | nil => cases above List.nil_prefix
        | cons second more =>
          rw [← ih above below]
          simp only [at?, List.lookup_cons, BEq.rfl]
          rfl
    · have differs : (first == key) = false := beq_eq_false_iff_ne.mpr same
      have unequal : ¬ (key = first ∧ more = target) := fun both => same both.1.symm
      cases target <;> simp [at?, List.lookup_cons, differs, unequal]

-- The variable can be read, and its keys do not lead past the target or end on the way to it.
structure FitsAt (target : List String) (assigned : Variable) : Prop where
  readable : ∀ {keys}, keysOf? assigned.1 = some keys → ∃ value, Inline.read? assigned.2.toList = some value
  above : ∀ {keys}, keysOf? assigned.1 = some keys → keys <+: target → keys = target
  below : ∀ {keys}, keysOf? assigned.1 = some keys → target <+: keys → keys = target
  single : keysOf? assigned.1 = some target → ∀ value, Inline.read? assigned.2.toList = some value →
    value.isTable = false

theorem layerOn?_of_readable {environment : List Variable}
    (readable : ∀ assigned ∈ environment, ∀ keys, keysOf? assigned.1 = some keys →
      ∃ value, Inline.read? assigned.2.toList = some value) (entries : List (String × Node)) :
    ∃ layer, layerOn? entries environment = some layer := by
  induction environment generalizing entries with
  | nil => exact ⟨entries, rfl⟩
  | cons assigned environment ih =>
    have added : ∃ added, entriesOf? assigned = some added := by
      rw [entriesOf?]
      cases named : keysOf? assigned.1 with
      | none => exact ⟨[], rfl⟩
      | some keys =>
        obtain ⟨value, read⟩ := readable assigned List.mem_cons_self keys named
        rw [read]
        exact ⟨_, rfl⟩
    obtain ⟨added, adds⟩ := added
    rw [layerOn?, adds]
    exact ih (fun other member => readable other (List.mem_cons_of_mem _ member)) _

-- What the last variable with these keys gives.
def given? (environment : List Variable) (keys : List String) : Option Node :=
  (environment.filter fun assigned => keysOf? assigned.1 == some keys).getLast?.bind fun assigned =>
    (Inline.read? assigned.2.toList).map (Node.ofValue .environment)

theorem given?_cons_of_ne {assigned : Variable} {target : List String}
    (other : keysOf? assigned.1 ≠ some target) (environment : List Variable) :
    given? (assigned :: environment) target = given? environment target := by
  simp [given?, other]

theorem given?_cons_of_eq {assigned : Variable} {target : List String}
    (same : keysOf? assigned.1 = some target) {value : Value}
    (read : Inline.read? assigned.2.toList = some value) {environment : List Variable}
    (fits : ∀ other ∈ environment, FitsAt target other) :
    given? (assigned :: environment) target =
      some ((given? environment target).getD (Node.ofValue .environment value)) := by
  simp only [given?, List.filter_cons, same, BEq.rfl, if_true, List.getLast?_cons, Option.bind_some]
  cases last : (environment.filter fun other => keysOf? other.1 == some target).getLast? with
  | none => simp [read]
  | some other =>
    obtain ⟨member, named⟩ := List.mem_filter.mp (List.mem_of_getLast? last)
    obtain ⟨later, alsoRead⟩ := (fits other member).readable (by simpa using named)
    simp [alsoRead]

-- The layer on top of `entries` holds what the last variable gives, or else what stood there before.
theorem at?_layerOn? {target : List String} {environment : List Variable} {entries layer : List (String × Node)}
    (fits : ∀ assigned ∈ environment, FitsAt target assigned) (started : Open entries target)
    (built : layerOn? entries environment = some layer) :
    Open layer target ∧ at? layer target = (given? environment target).or (at? entries target) := by
  induction environment generalizing entries with
  | nil =>
    cases built
    exact ⟨started, rfl⟩
  | cons assigned environment ih =>
    have here := fits assigned List.mem_cons_self
    have later : ∀ other ∈ environment, FitsAt target other :=
      fun other member => fits other (List.mem_cons_of_mem _ member)
    rw [layerOn?] at built
    cases named : keysOf? assigned.1 with
    | none =>
      have nothing : entriesOf? assigned = some [] := by rw [entriesOf?, named]
      have other : keysOf? assigned.1 ≠ some target := by simp [named]
      rw [nothing] at built
      rw [given?_cons_of_ne other]
      exact ih later started built
    | some keys =>
      obtain ⟨value, read⟩ := here.readable named
      obtain ⟨key, more, rfl⟩ := List.exists_cons_of_ne_nil (keysOf?_ne_nil named)
      rw [entriesOf?_eq named read] at built
      have added : Open [(key, Node.ofValue .environment (nest more value))] target :=
        open_nest (here.above named)
      have found : at? [(key, Node.ofValue .environment (nest more value))] target = _ :=
        at?_nest (here.above named) (here.below named)
      obtain ⟨opened, last⟩ := ih later (open_mergeEntries started added) built
      refine ⟨opened, ?_⟩
      rw [last, at?_mergeEntries started added, found]
      by_cases same : key :: more = target
      · have single : (Node.ofValue .environment value).isTable = false := by
          rw [isTable_ofValue]
          exact here.single (same ▸ named) value read
        rw [if_pos same, given?_cons_of_eq (same ▸ named) read later]
        simp only [Node.merge_of_single (.inl single)]
        cases given? environment target <;> rfl
      · have other : keysOf? assigned.1 ≠ some target := by
          rw [named, Ne, Option.some.injEq]
          exact same
        rw [if_neg same, given?_cons_of_ne other]

end Environment

end InterfaceDraft
