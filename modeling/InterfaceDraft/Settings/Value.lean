import InterfaceDraft.Number.Binary64

set_option autoImplicit false

namespace InterfaceDraft

inductive Value where
  | text (text : List Char)
  -- One character in single quotes, which is a text but names no style.
  | letter (letter : Char)
  | flag (flag : Bool)
  | signed (number : Int)
  | unsigned (number : Nat)
  | real (number : Number.Binary64)
  | sequence (items : List Value)
  | table (entries : List (String × Value))
  deriving Repr

-- It is a table with one entry, so that it is none of the simple kinds.
def Value.moment (text : List Char) : Value :=
  .table [("$__toml_private_datetime", .text text)]

end InterfaceDraft
