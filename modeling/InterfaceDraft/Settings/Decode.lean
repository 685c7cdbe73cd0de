import InterfaceDraft.Settings.Basic
import InterfaceDraft.Settings.Fault

set_option autoImplicit false

namespace InterfaceDraft.Layer

open Interface

abbrev Decoded (α : Type) := Except Fault α

def mismatch {α : Type} (keys : List String) (node : Node) (expected : String) : Decoded α :=
  .error ⟨.invalidType node.found expected, keys, node.origin⟩

def outOfRange {α : Type} (keys : List String) (node : Node) (expected : String) : Decoded α :=
  .error ⟨.invalidValue node.found expected, keys, node.origin⟩

def decodeFlag (keys : List String) : Node → Decoded Bool
  | .flag _ b => .ok b
  | node => mismatch keys node "a boolean"

def decodeText (keys : List String) : Node → Decoded String
  | .text _ s => .ok (.ofList s)
  | .letter _ c => .ok (.ofList [c])
  | node => mismatch keys node "a string"

def decodeNumber (limit : Nat) (expected : String) (keys : List String) (node : Node) : Decoded Nat :=
  match node with
  | .unsigned _ n => if n ≤ limit then .ok n else outOfRange keys node expected
  | .signed _ i => if 0 ≤ i && i ≤ limit then .ok i.toNat else outOfRange keys node expected
  | _ => mismatch keys node expected

def decodeVersion (keys : List String) (node : Node) : Decoded UInt32 :=
  (decodeNumber (UInt32.size - 1) "u32" keys node).map .ofNat

def decodeSize (keys : List String) (node : Node) : Decoded UInt64 :=
  (decodeNumber (UInt64.size - 1) "usize" keys node).map .ofNat

def leastEntry? (entries : List (String × Node)) : Option (String × Node) :=
  entries.foldl (fun least entry =>
    match least with
    | some old => if entry.1 < old.1 then some entry else some old
    | none => some entry) none

-- A table is read as the name that is its first key, with a value behind it, which no style takes;
-- what is wrong with the name is then put down to the layer of that value.
def decodeStyle (keys : List String) (node : Node) : Decoded Style :=
  match node with
  | .text origin s =>
    match Style.ofName? (.ofList s) with
    | some style => .ok style
    | none => .error ⟨.unknownVariant s, keys, origin⟩
  | .table _ entries =>
    match leastEntry? entries with
    | none => mismatch keys node "enum"
    | some (key, value) =>
      match Style.ofName? key with
      | some _ => mismatch (keys ++ [key]) value "unit"
      | none => .error ⟨.unknownVariant key.toList, keys ++ [key], value.origin⟩
  | _ => mismatch keys node "enum InterfaceStyle"

def decodeEntry {α : Type} (decode : List String → Node → Decoded α) (default : α)
    (keys : List String) (entries : List (String × Node)) (key : String) : Decoded α :=
  match entries.lookup key with
  | some node => decode (keys ++ [key]) node
  | none => .ok default

-- A section may be a list of its settings in the order in which they are declared.
def decodeItem {α : Type} (decode : List String → Node → Decoded α) (default : α)
    (keys : List String) (items : List Node) (index : Nat) : Decoded α :=
  match items[index]? with
  | some node => decode (keys ++ [toString index]) node
  | none => .ok default

def decodeScan (keys : List String) (node : Node) : Decoded ScanSettings :=
  let default : ScanSettings := {}
  match node with
  | .table _ entries => do
    let poolSize ← decodeEntry decodeSize default.poolSize keys entries "pool_size"
    let sourceExtension ←
      decodeEntry decodeText default.sourceExtension keys entries "source_extension"
    let testSuffix ← decodeEntry decodeText default.testSuffix keys entries "test_suffix"
    return { poolSize, sourceExtension, testSuffix }
  | .sequence _ items => do
    let poolSize ← decodeItem decodeSize default.poolSize keys items 0
    let sourceExtension ← decodeItem decodeText default.sourceExtension keys items 1
    let testSuffix ← decodeItem decodeText default.testSuffix keys items 2
    return { poolSize, sourceExtension, testSuffix }
  | _ => mismatch keys node "struct ExtractionConfig"

def decodeOutput (keys : List String) (node : Node) : Decoded OutputSettings :=
  let default : OutputSettings := {}
  match node with
  | .table _ entries => do
    let createDirs ← decodeEntry decodeFlag default.createDirs keys entries "create_dirs"
    let fileExtension ← decodeEntry decodeText default.fileExtension keys entries "file_extension"
    let style ← decodeEntry decodeStyle default.style keys entries "style"
    return { fileExtension, style, createDirs }
  | .sequence _ items => do
    let fileExtension ← decodeItem decodeText default.fileExtension keys items 0
    let style ← decodeItem decodeStyle default.style keys items 1
    let createDirs ← decodeItem decodeFlag default.createDirs keys items 2
    return { fileExtension, style, createDirs }
  | _ => mismatch keys node "struct OutputConfig"

-- Settings are checked in the alphabetical order of their keys, and the first fault is the result.
def decodeSettings (entries : List (String × Node)) : Decoded Settings := do
  let default : Settings := {}
  let debug ← decodeEntry decodeFlag default.debug [] entries "debug"
  let extraction ← decodeEntry decodeScan default.extraction [] entries "extraction"
  let output ← decodeEntry decodeOutput default.output [] entries "output"
  let version ← decodeEntry decodeVersion default.version [] entries "version"
  return { version, debug, extraction, output }

def defaults : List (String × Node) :=
  let settings : Settings := {}
  Node.ofEntries .builtin
    [("version", .unsigned settings.version.toNat),
     ("debug", .flag settings.debug),
     ("extraction", .table
       [("pool_size", .unsigned settings.extraction.poolSize.toNat),
        ("source_extension", .text settings.extraction.sourceExtension.toList),
        ("test_suffix", .text settings.extraction.testSuffix.toList)]),
     ("output", .table
       [("file_extension", .text settings.output.fileExtension.toList),
        ("style", .text settings.output.style.name.toList),
        ("create_dirs", .flag settings.output.createDirs)])]

end InterfaceDraft.Layer
