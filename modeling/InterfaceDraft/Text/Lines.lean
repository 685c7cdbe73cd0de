import InterfaceDraft.Text.Search

set_option autoImplicit false

namespace InterfaceDraft.Text

variable {α : Type} [BEq α]

def chompReturn (cr : α) (line : List α) : List α :=
  (dropTail? [cr] line).getD line

def linesOfPieces (cr : α) : List (List α) → List (List α)
  | [] => []
  | [last] => if last.isEmpty then [] else [last]
  | piece :: more => chompReturn cr piece :: linesOfPieces cr more

-- One carriage return directly before a line feed belongs to the line end. A last line without line
-- feed counts if it is not empty, and keeps a carriage return at its end.
def linesWith (lf cr : α) (text : List α) : List (List α) :=
  linesOfPieces cr (splitAll lf text)

def lines (text : List Char) : List (List Char) :=
  linesWith '\n' '\r' text

def byteLines (bytes : List UInt8) : List (List UInt8) :=
  linesWith 0x0a 0x0d bytes

end InterfaceDraft.Text
