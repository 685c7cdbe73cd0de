import InterfaceDraft.Settings.Inline
import InterfaceDraft.Settings.Layer
import InterfaceDraft.Text.Lowercase

set_option autoImplicit false

namespace InterfaceDraft.Environment

open Text Layer

abbrev Variable := String × String

def mark : List Char := "IFACEGEN_".toList

def unmarked? (name : List Char) : Option (List Char) :=
  if (name.take mark.length).map asciiLower == mark.map asciiLower then some (name.drop mark.length)
  else none

-- Two underscores or a dot part the keys. A name with an empty key stands for nothing.
def keysOf? (name : String) : Option (List String) :=
  match unmarked? (trim name.toList) with
  | none => none
  | some rest =>
    let keys := splitAll '.' (trim (replaceAll "__".toList ".".toList (lower rest)))
    if keys.any List.isEmpty then none else some (keys.map .ofList)

def nest (keys : List String) (value : Value) : Value :=
  keys.foldr (fun key inner => .table [(key, inner)]) value

def entriesOf? (setting : Variable) : Option (List (String × Node)) :=
  match keysOf? setting.1 with
  | none => some []
  | some keys =>
    (Inline.read? setting.2.toList).map fun value =>
      match Node.ofValue .environment (nest keys value) with
      | .table _ entries => entries
      | _ => []

def layerOn? (entries : List (String × Node)) : List Variable → Option (List (String × Node))
  | [] => some entries
  | setting :: more =>
    match entriesOf? setting with
    | none => none
    | some added => layerOn? (mergeEntries entries added) more

def layer? (environment : List Variable) : Option (List (String × Node)) :=
  layerOn? [] environment

end InterfaceDraft.Environment
