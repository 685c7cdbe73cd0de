import InterfaceDraft.Signature.Scan
import InterfaceDraft.Text.Utf8

set_option autoImplicit false

namespace InterfaceDraft.Signature

open Text

structure Reader where
  chunks : List Bytes
  failure : Option String := none

def Reader.ofBytes (bytes : Bytes) : Reader := ⟨[bytes], none⟩

inductive ReadError where
  | notUtf8
  | failed (message : String)
  deriving DecidableEq, Repr

def ReadError.message : ReadError → String
  | .notUtf8 => "stream did not contain valid UTF-8"
  | .failed message => message

-- `carried` is the unfinished piece left by the chunks before. The last piece is not ended by a
-- line feed.
def piecesOfChunks (carried : Bytes) : List Bytes → List Bytes
  | [] => [carried]
  | chunk :: more =>
    match splitAll 0x0a chunk with
    | [] => piecesOfChunks carried more
    | [only] => piecesOfChunks (carried ++ only) more
    | first :: second :: others =>
      (carried ++ first) :: ((second :: others).dropLast ++
        piecesOfChunks ((second :: others).getLast (by simp)) more)

def decodedLines (pieces : List Bytes) : Option (List (List Char)) :=
  (linesOfPieces 0x0d pieces).mapM decode?

-- A failing source gives its own error only if every line that a line feed ended was UTF-8.
def ofReader (receiver : List Char) (reader : Reader) : Except ReadError (List (List Char)) :=
  let pieces := piecesOfChunks [] reader.chunks
  match reader.failure with
  | none =>
    match decodedLines pieces with
    | some lines => .ok (ofLines receiver lines)
    | none => .error .notUtf8
  | some message =>
    match decodedLines (pieces.dropLast ++ [[]]) with
    | some _ => .error (.failed message)
    | none => .error .notUtf8

end InterfaceDraft.Signature
