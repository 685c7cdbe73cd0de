import InterfaceDraft.Number.Decimal
import InterfaceDraft.Settings.Layer
import InterfaceDraft.Text.Lowercase
import InterfaceDraft.Text.Quoted

set_option autoImplicit false

namespace InterfaceDraft.Layer

open Text Number

inductive Found where
  | flag (flag : Bool)
  | signed (number : Int)
  | unsigned (number : Nat)
  | real (number : Binary64)
  | text (text : List Char)
  | sequence
  | map
  deriving DecidableEq, Repr

def Node.found : Node → Found
  | .text _ s => .text s
  | .letter _ c => .text [c]
  | .flag _ b => .flag b
  | .signed _ i => .signed i
  | .unsigned _ n => .unsigned n
  | .real _ x => .real x
  | .sequence _ _ => .sequence
  | .table _ _ => .map

def Found.shown : Found → String
  | .flag b => s!"bool {b}"
  | .signed i => s!"signed int `{i}`"
  | .unsigned n => s!"unsigned int `{n}`"
  | .real x => s!"float `{String.ofList x.shown}`"
  | .text s => s!"string {String.ofList (quoted s)}"
  | .sequence => "sequence"
  | .map => "map"

inductive Cause where
  | invalidType (found : Found) (expected : String)
  | invalidValue (found : Found) (expected : String)
  | unknownVariant (name : List Char)
  deriving DecidableEq, Repr

def Cause.message : Cause → String
  | .invalidType found expected => s!"invalid type: found {found.shown}, expected {expected}"
  | .invalidValue found expected => s!"invalid value {found.shown}, expected {expected}"
  | .unknownVariant name =>
    s!"unknown variant: found `{String.ofList name}`, expected ``bare` or `go``"

structure Fault where
  cause : Cause
  -- Positions in a list count as keys.
  keys : List String
  origin : Origin
  deriving DecidableEq, Repr

def quotedKeys (keys : List String) : String :=
  .ofList (quoted (".".intercalate keys).toList)

def Fault.place (fault : Fault) : String :=
  match fault.origin with
  | .builtin => ""
  | .document path =>
    let keys := "default" :: fault.keys
    s!" for key {quotedKeys keys} in {path.shown} TOML file"
  | .environment =>
    let keys := fault.keys.map fun key => String.ofList (key.toList.map asciiUpper)
    s!" for key {quotedKeys keys} in `IFACEGEN_` environment variable(s)"

def Fault.message (fault : Fault) : String :=
  fault.cause.message ++ fault.place

end InterfaceDraft.Layer
