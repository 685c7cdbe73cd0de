import InterfaceDraft.Text.Search
import InterfaceDraft.Text.Utf8

set_option autoImplicit false

namespace InterfaceDraft.Interface

open Text

inductive Style where
  | bare
  | go
  deriving DecidableEq, Repr, Inhabited

def Style.name : Style → String
  | .bare => "bare"
  | .go => "go"

def Style.all : List Style := [.bare, .go]

def Style.ofName? (name : String) : Option Style :=
  Style.all.find? (·.name == name)

def Style.header (style : Style) (name : List Char) : List Char :=
  match style with
  | .bare => "interface ".toList ++ name ++ " \x7b".toList
  | .go => "type ".toList ++ name ++ " interface \x7b".toList

structure Draft where
  name : List Char
  -- Written as a package line, unless empty.
  package : Option (List Char) := none
  -- With escapes still in them.
  inject : List (List Char) := []
  style : Style := .bare

def expandEscapes (line : List Char) : List Char :=
  replaceAll "\\t".toList "\t".toList (replaceAll "\\n".toList "\n".toList line)

def Draft.packagePieces (draft : Draft) : List (List Char) :=
  match draft.package with
  | none => []
  | some package => if package.isEmpty then [] else ["package ".toList ++ package ++ "\n\n".toList]

def Draft.injectPieces (draft : Draft) : List (List Char) :=
  if draft.inject.isEmpty then []
  else draft.inject.map (fun line => expandEscapes line ++ ['\n']) ++ [['\n']]

def signatureLine (signature : List Char) : List Char :=
  '\t' :: signature ++ ['\n']

-- In the order in which the parts are written.
def Draft.pieces (draft : Draft) (signatures : List (List Char)) : List (List Char) :=
  draft.packagePieces ++ draft.injectPieces ++
    [draft.style.header draft.name ++ ['\n']] ++
    signatures.map signatureLine ++ ["\x7d\n".toList]

def Draft.render (draft : Draft) (signatures : List (List Char)) : List Char :=
  (draft.pieces signatures).flatten

def Draft.renderBare (draft : Draft) (signatures : List (List Char)) : List Char :=
  { draft with style := .bare }.render signatures

structure Writer where
  room : Nat
  taken : Bytes := []

def Writer.put (writer : Writer) (bytes : Bytes) : Writer × Bool :=
  (⟨writer.room - bytes.length, writer.taken ++ bytes.take writer.room⟩,
    decide (bytes.length ≤ writer.room))

def Writer.putAll (writer : Writer) : List (List Char) → Writer × Bool
  | [] => (writer, true)
  | piece :: more =>
    match writer.put (encode piece) with
    | (after, true) => after.putAll more
    | (after, false) => (after, false)

def Draft.renderTo (draft : Draft) (signatures : List (List Char)) (writer : Writer) :
    Writer × Bool :=
  writer.putAll (draft.pieces signatures)

end InterfaceDraft.Interface
