import InterfaceDraft.Proofs.Files.Descent
import InterfaceDraft.Settings.Wrapped
import InterfaceDraft.Toml.Reader

set_option autoImplicit false

namespace InterfaceDraft

-- Every table has each key once, and so have the tables in it. What stands in a list does not matter.
inductive Value.Keyed : Value → Prop
  | plain {value : Value} (single : ∀ entries, value ≠ .table entries) : Keyed value
  | table {entries : List (String × Value)} (distinct : (entries.map Prod.fst).Nodup)
      (inner : ∀ e ∈ entries, Keyed e.2) : Keyed (.table entries)

theorem Value.Keyed.entries {entries : List (String × Value)} (keyed : Value.Keyed (.table entries)) :
    (entries.map Prod.fst).Nodup ∧ ∀ e ∈ entries, e.2.Keyed := by
  cases keyed with
  | plain single => exact absurd rfl (single entries)
  | table distinct inner => exact ⟨distinct, inner⟩

theorem Value.keyed_moment (text : List Char) : (Value.moment text).Keyed := by
  refine .table (by simp) fun e member => .plain ?_
  rw [List.mem_singleton.mp member]
  simp

namespace Toml

def Entries.Keyed (entries : Entries) : Prop :=
  (entries.map Prod.fst).Nodup ∧ ∀ e ∈ entries, e.2.toValue.Keyed

theorem entriesToValues_eq_map (entries : Entries) :
    entriesToValues entries = entries.map fun e => (e.1, e.2.toValue) := by
  induction entries with
  | nil => rfl
  | cons e entries ih => rw [entriesToValues, ih, List.map_cons]

theorem Entries.keyed_iff {entries : Entries} :
    entries.Keyed ↔ Value.Keyed (.table (entriesToValues entries)) := by
  have keys : (entriesToValues entries).map Prod.fst = entries.map Prod.fst := by
    rw [entriesToValues_eq_map, List.map_map]
    rfl
  constructor
  · rintro ⟨distinct, inner⟩
    refine .table (keys ▸ distinct) fun e member => ?_
    rw [entriesToValues_eq_map] at member
    obtain ⟨item, among, rfl⟩ := List.mem_map.mp member
    exact inner item among
  · intro keyed
    obtain ⟨distinct, inner⟩ := keyed.entries
    refine ⟨keys ▸ distinct, fun item member => inner (item.1, item.2.toValue) ?_⟩
    rw [entriesToValues_eq_map]
    exact List.mem_map.mpr ⟨item, member, rfl⟩

theorem Entries.keyed_nil : Entries.Keyed [] := ⟨List.nodup_nil, by simp⟩

theorem keyed_tables (elements : List Entries) : (Item.tables elements).toValue.Keyed :=
  .plain (by simp [Item.toValue])

namespace Entries.Keyed

variable {entries : Entries} (keyed : entries.Keyed) {key : String}

include keyed

theorem append {item : Item} (free : entries.lookup key = none) (fits : item.toValue.Keyed) :
    Entries.Keyed (entries ++ [(key, item)]) := by
  have absent : key ∉ entries.map Prod.fst := Files.lookup_eq_none_iff_not_mem.mp free
  constructor
  · rw [List.map_append, List.nodup_append]
    refine ⟨keyed.1, by simp, ?_⟩
    rintro other among _ last rfl
    rw [List.mem_singleton.mp last] at among
    exact absent among
  · intro e member
    rcases List.mem_append.mp member with old | new
    · exact keyed.2 e old
    · rw [List.mem_singleton.mp new]
      exact fits

theorem replace {item : Item} (fits : item.toValue.Keyed) :
    Entries.Keyed (replaceItem entries key item) := by
  constructor
  · have keys : (replaceItem entries key item).map Prod.fst = entries.map Prod.fst := by
      rw [replaceItem, List.map_map]
      refine List.map_congr_left fun e _ => ?_
      by_cases same : e.1 = key <;> simp [same]
    rw [keys]
    exact keyed.1
  · intro e member
    obtain ⟨old, among, rfl⟩ := List.mem_map.mp member
    split
    · exact fits
    · exact keyed.2 old among

theorem lookup {item : Item} (there : entries.lookup key = some item) : item.toValue.Keyed :=
  keyed.2 (key, item) ((Files.lookup_eq_some_iff_mem keyed.1).mp there)

end Entries.Keyed

-- One change of the table at the end of the path, whatever tables are on the way.
theorem changeAt_keyed {dotted : Bool} {change : Standing → Entries → Option Entries}
    (keeps : ∀ {standing before after}, change standing before = some after → before.Keyed → after.Keyed)
    {path : List String} {standing : Standing} {entries result : Entries} (keyed : entries.Keyed)
    (changed : changeAt dotted change path standing entries = some result) : result.Keyed := by
  induction path generalizing standing entries result with
  | nil => exact keeps changed keyed
  | cons key path ih =>
    rw [changeAt] at changed
    split at changed
    next free =>
      obtain ⟨inner, below, rfl⟩ := Option.map_eq_some_iff.mp changed
      exact keyed.append free (Entries.keyed_iff.mp (ih Entries.keyed_nil below))
    next => cases changed
    next elements _ =>
      split at changed
      next => cases changed
      next =>
        obtain ⟨inner, -, rfl⟩ := Option.map_eq_some_iff.mp changed
        exact keyed.replace (keyed_tables _)
    next old inner there =>
      split at changed
      next => cases changed
      next =>
        obtain ⟨inner', below, rfl⟩ := Option.map_eq_some_iff.mp changed
        have before : Entries.Keyed inner := Entries.keyed_iff.mpr (keyed.lookup there)
        exact keyed.replace (Entries.keyed_iff.mp (ih before below))

theorem addValue_keyed {key : String} {value : Value} (fits : value.Keyed) {entries result : Entries}
    (added : addValue key value entries = some result) (keyed : entries.Keyed) : result.Keyed := by
  unfold addValue at added
  split at added
  next => cases added
  next free =>
    cases added
    exact keyed.append (Option.not_isSome_iff_eq_none.mp free) fits

theorem addDotted_keyed {path : List String} {key : String} {value : Value} (fits : value.Keyed)
    {standing : Standing} {entries result : Entries}
    (added : addDotted path key value standing entries = some result) (keyed : entries.Keyed) :
    result.Keyed := by
  refine changeAt_keyed (fun {standing before after} changed => ?_) keyed added
  split at changed
  next => cases changed
  next => exact addValue_keyed fits changed

theorem addTable_keyed {key : String} {entries result : Entries}
    (added : addTable key entries = some result) (keyed : entries.Keyed) : result.Keyed := by
  unfold addTable at added
  split at added
  next free =>
    cases added
    exact keyed.append free (Entries.keyed_iff.mp Entries.keyed_nil)
  next there =>
    cases added
    have passed := keyed.lookup there
    exact keyed.replace passed
  next => cases added

theorem addElement_keyed {key : String} {entries result : Entries}
    (added : addElement key entries = some result) (keyed : entries.Keyed) : result.Keyed := by
  unfold addElement at added
  split at added
  next free =>
    cases added
    exact keyed.append free (keyed_tables _)
  next =>
    cases added
    exact keyed.replace (keyed_tables _)
  next => cases added

theorem scalar?_keyed {token : List Char} {value : Value} (read : scalar? token = some value) :
    value.Keyed := by
  unfold scalar? at read
  split at read
  next =>
    cases read
    exact .plain (by simp)
  next =>
    split at read
    next =>
      cases read
      exact .plain (by simp)
    next =>
      split at read
      next =>
        cases read
        exact Value.keyed_moment _
      next =>
        split at read
        next =>
          cases read
          exact .plain (by simp)
        next =>
          obtain ⟨number, -, rfl⟩ := Option.map_eq_some_iff.mp read
          exact .plain (by simp)

theorem readScalar_keyed {input rest : List Char} {value : Value}
    (read : readScalar input = some (value, rest)) : value.Keyed := by
  unfold readScalar at read
  simp only at read
  split at read
  next =>
    split at read <;> cases read <;> exact Value.keyed_moment _
  next =>
    obtain ⟨scalar, token, same⟩ := Option.map_eq_some_iff.mp read
    cases same
    exact scalar?_keyed token

-- A value and the pairs of an inline table take turns, each with less fuel.
theorem readValue_keyed (fuel : Nat) :
    (∀ {depth : Nat} {input rest : List Char} {value : Value},
      readValue fuel depth input = some (value, rest) → value.Keyed) ∧
    ∀ {depth : Nat} {entries result : Entries} {input rest : List Char}, entries.Keyed →
      readPairs fuel depth entries input = some (result, rest) → result.Keyed := by
  induction fuel with
  | zero =>
    constructor
    · intro depth input rest value read
      cases read
    · intro depth entries result input rest keyed read
      cases read
  | succ fuel ih =>
    obtain ⟨valueKeyed, pairsKeyed⟩ := ih
    constructor
    · intro depth input rest value read
      rw [readValue.eq_def] at read
      simp only at read
      split at read
      next =>
        split at read
        next => cases read
        next =>
          obtain ⟨_, -, same⟩ := Option.map_eq_some_iff.mp read
          cases same
          exact .plain (by simp)
      next =>
        split at read
        next => cases read
        next =>
          split at read
          next =>
            cases read
            exact .table List.nodup_nil (by simp)
          next =>
            obtain ⟨_, pairs, same⟩ := Option.map_eq_some_iff.mp read
            cases same
            exact Entries.keyed_iff.mp (pairsKeyed Entries.keyed_nil pairs)
      next =>
        obtain ⟨_, -, same⟩ := Option.map_eq_some_iff.mp read
        cases same
        exact .plain (by simp)
      next =>
        obtain ⟨_, -, same⟩ := Option.map_eq_some_iff.mp read
        cases same
        exact .plain (by simp)
      next => exact readScalar_keyed read
    · intro depth entries result input rest keyed read
      rw [readPairs] at read
      split at read
      next =>
        split at read
        next => cases read
        next value _ found =>
          split at read
          next => cases read
          next added =>
            have grown := addDotted_keyed (valueKeyed found) added keyed
            split at read
            next =>
              cases read
              exact grown
            next => exact pairsKeyed grown read
            next => cases read
      next => cases read

theorem readStatement_keyed {state next : State} {input rest : List Char} (keyed : state.entries.Keyed)
    (read : readStatement state input = some (next, rest)) : next.entries.Keyed := by
  unfold readStatement at read
  split at read
  next =>
    split at read
    next =>
      split at read
      next opened _ =>
        cases read
        obtain ⟨entries, changed, rfl⟩ := Option.map_eq_some_iff.mp opened
        exact changeAt_keyed addElement_keyed keyed changed
      next => cases read
    next => cases read
  next =>
    split at read
    next =>
      split at read
      next opened _ =>
        cases read
        obtain ⟨entries, changed, rfl⟩ := Option.map_eq_some_iff.mp opened
        exact changeAt_keyed addTable_keyed keyed changed
      next => cases read
    next => cases read
  next =>
    split at read
    next =>
      split at read
      next => cases read
      next found =>
        split at read
        next added _ =>
          cases read
          obtain ⟨entries, changed, rfl⟩ := Option.map_eq_some_iff.mp added
          exact changeAt_keyed (addDotted_keyed ((readValue_keyed _).1 found)) keyed changed
        next => cases read
    next => cases read

theorem readStatements_keyed {fuel : Nat} {state final : State} {input : List Char}
    (keyed : state.entries.Keyed) (read : readStatements fuel state input = some final) :
    final.entries.Keyed := by
  induction fuel generalizing state input with
  | zero => cases read
  | succ fuel ih =>
    rw [readStatements] at read
    split at read
    next =>
      cases read
      exact keyed
    next => exact ih keyed read
    next => exact ih keyed read
    next =>
      split at read
      next => exact ih keyed read
      next => cases read
    next =>
      split at read
      next step => exact ih (readStatement_keyed keyed step) read
      next => cases read

theorem read?_keyed {text : List Char} {entries : List (String × Value)} (read : read? text = some entries) :
    Value.Keyed (.table entries) := by
  obtain ⟨state, statements, rfl⟩ := Option.map_eq_some_iff.mp read
  exact Entries.keyed_iff.mp (readStatements_keyed Entries.keyed_nil statements)

end Toml

namespace Value

-- Inside a document one more key is refused, which is all the difference to its top.
theorem unwrapDocument?_of_entries {entries result : List (String × Value)}
    (unwrapped : unwrapEntries? entries = some result) : unwrapDocument? entries = some result := by
  induction entries generalizing result with
  | nil => exact unwrapped
  | cons e entries ih =>
    obtain ⟨key, value⟩ := e
    rw [unwrapEntries?] at unwrapped
    split at unwrapped
    next => cases unwrapped
    next =>
      split at unwrapped
      next first rest =>
        cases unwrapped
        rw [unwrapDocument?, first, ih rest]
      next => cases unwrapped

theorem keys_unwrapDocument? {entries result : List (String × Value)}
    (inner : ∀ e ∈ entries, ∀ {value}, unwrap? e.2 = some value → value.Keyed)
    (unwrapped : unwrapDocument? entries = some result) :
    result.map Prod.fst = entries.map Prod.fst ∧ ∀ e ∈ result, e.2.Keyed := by
  induction entries generalizing result with
  | nil =>
    cases unwrapped
    exact ⟨rfl, by simp⟩
  | cons e entries ih =>
    obtain ⟨key, value⟩ := e
    rw [unwrapDocument?] at unwrapped
    split at unwrapped
    next first rest =>
      cases unwrapped
      obtain ⟨keys, all⟩ := ih (fun e member => inner e (List.mem_cons_of_mem _ member)) rest
      refine ⟨by rw [List.map_cons, List.map_cons, keys], fun e member => ?_⟩
      rcases List.mem_cons.mp member with rfl | later
      · exact inner _ List.mem_cons_self first
      · exact all e later
    next => cases unwrapped

theorem unwrap?_keyed {value result : Value} (keyed : value.Keyed)
    (unwrapped : unwrap? value = some result) : result.Keyed := by
  induction keyed generalizing result with
  | @plain value single =>
    cases value with
    | table entries => exact absurd rfl (single entries)
    | sequence items =>
      rw [unwrap?] at unwrapped
      obtain ⟨_, -, rfl⟩ := Option.map_eq_some_iff.mp unwrapped
      exact .plain (by simp)
    | text | letter | flag | signed | unsigned | real =>
      cases unwrapped
      exact .plain (by simp)
  | @table entries distinct _ ih =>
    rw [unwrap?] at unwrapped
    obtain ⟨inner, entriesRead, rfl⟩ := Option.map_eq_some_iff.mp unwrapped
    obtain ⟨keys, all⟩ := keys_unwrapDocument? ih (unwrapDocument?_of_entries entriesRead)
    have innerDistinct : (inner.map Prod.fst).Nodup := keys ▸ distinct
    cases wrapped : inner.lookup wrappedKey with
    | none => exact .table innerDistinct all
    | some value => exact all _ ((Files.lookup_eq_some_iff_mem innerDistinct).mp wrapped)

theorem unwrapDocument?_keyed {entries result : List (String × Value)}
    (keyed : Value.Keyed (.table entries)) (unwrapped : unwrapDocument? entries = some result) :
    Value.Keyed (.table result) := by
  obtain ⟨distinct, inner⟩ := keyed.entries
  obtain ⟨keys, all⟩ := keys_unwrapDocument? (fun e member => unwrap?_keyed (inner e member)) unwrapped
  exact .table (keys ▸ distinct) all

end Value

end InterfaceDraft
