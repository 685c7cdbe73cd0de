import InterfaceDraft.Files.Path
import InterfaceDraft.Settings.Value

set_option autoImplicit false

namespace InterfaceDraft.Layer

open Number

inductive Origin where
  | builtin
  | document (path : Files.Path)
  | environment
  deriving DecidableEq, Repr

inductive Node where
  | text (origin : Origin) (text : List Char)
  | letter (origin : Origin) (letter : Char)
  | flag (origin : Origin) (flag : Bool)
  | signed (origin : Origin) (number : Int)
  | unsigned (origin : Origin) (number : Nat)
  | real (origin : Origin) (number : Binary64)
  | sequence (origin : Origin) (items : List Node)
  | table (origin : Origin) (entries : List (String × Node))

-- A merged table belongs to the highest layer that gave entries to it.
def Node.origin : Node → Origin
  | .text origin _ => origin
  | .letter origin _ => origin
  | .flag origin _ => origin
  | .signed origin _ => origin
  | .unsigned origin _ => origin
  | .real origin _ => origin
  | .sequence origin _ => origin
  | .table origin _ => origin

mutual

def Node.ofValue (origin : Origin) : Value → Node
  | .text s => .text origin s
  | .letter c => .letter origin c
  | .flag b => .flag origin b
  | .signed i => .signed origin i
  | .unsigned n => .unsigned origin n
  | .real x => .real origin x
  | .sequence items => .sequence origin (Node.ofItems origin items)
  | .table entries => .table origin (Node.ofEntries origin entries)

def Node.ofItems (origin : Origin) : List Value → List Node
  | [] => []
  | item :: items => Node.ofValue origin item :: Node.ofItems origin items

def Node.ofEntries (origin : Origin) : List (String × Value) → List (String × Node)
  | [] => []
  | (key, value) :: entries => (key, Node.ofValue origin value) :: Node.ofEntries origin entries

end

def insert (entries : List (String × Node)) (key : String) (node : Node) : List (String × Node) :=
  match entries with
  | [] => [(key, node)]
  | entry :: more =>
    if entry.1 == key then (key, node) :: more else entry :: insert more key node

mutual

def Node.merge (base : Option Node) : (upper : Node) → Node
  | .table origin entries =>
    match base with
    | some (.table _ below) => .table origin (mergeEntries below entries)
    | _ => .table origin entries
  | upper => upper

def mergeEntries (base : List (String × Node)) : (upper : List (String × Node)) →
    List (String × Node)
  | [] => base
  | (key, node) :: upper =>
    mergeEntries (insert base key (Node.merge (base.lookup key) node)) upper

end

end InterfaceDraft.Layer
