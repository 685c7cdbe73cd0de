import InterfaceDraft.Signature.Declaration
import InterfaceDraft.Text.Lines

set_option autoImplicit false

namespace InterfaceDraft.Signature

open Text

def lineComment : List Char := "//".toList

def commentOpen : List Char := "/*".toList

def commentClose : List Char := "*/".toList

-- The two marks may not share a character.
def closesItself (line : List Char) : Bool :=
  4 ≤ line.length && endsWith commentClose line

structure Scan where
  inComment : Bool
  pending : Option (List Char)
  found : List (List Char)
  deriving DecidableEq, Repr

def Scan.start : Scan := ⟨false, none, []⟩

def Scan.advance (scan : Scan) (text fragment : List Char) : Scan :=
  match completed? fragment with
  | some head => { scan with pending := none, found := scan.found ++ [finished text head] }
  | none => { scan with pending := some (text ++ joined fragment) }

def Scan.read (receiver : List Char) (scan : Scan) (line : List Char) : Scan :=
  match scan.pending with
  | none =>
    match declared? receiver line with
    | some head => scan.advance [] head
    | none => scan
  | some text => if line.isEmpty then scan else scan.advance text line

-- Only a line that starts with a comment mark is a comment.
def Scan.feed (receiver : List Char) (scan : Scan) (raw : List Char) : Scan :=
  let line := trim raw
  if scan.inComment then { scan with inComment := !endsWith commentClose line }
  else if startsWith lineComment line then scan
  else if startsWith commentOpen line then { scan with inComment := !closesItself line }
  else scan.read receiver line

def Scan.feedAll (receiver : List Char) (scan : Scan) (lines : List (List Char)) : Scan :=
  lines.foldl (Scan.feed receiver) scan

-- A declaration that is open at the end is dropped.
def ofLines (receiver : List Char) (lines : List (List Char)) : List (List Char) :=
  (Scan.start.feedAll receiver lines).found

def ofText (receiver source : List Char) : List (List Char) :=
  ofLines receiver (lines source)

@[simp] theorem Scan.feedAll_nil (receiver : List Char) (scan : Scan) :
    scan.feedAll receiver [] = scan := rfl

@[simp] theorem Scan.feedAll_cons (receiver : List Char) (scan : Scan) (line : List Char)
    (lines : List (List Char)) :
    scan.feedAll receiver (line :: lines) = (scan.feed receiver line).feedAll receiver lines := rfl

@[simp] theorem Scan.feedAll_append (receiver : List Char) (scan : Scan)
    (first second : List (List Char)) :
    scan.feedAll receiver (first ++ second) =
      (scan.feedAll receiver first).feedAll receiver second := by
  simp [Scan.feedAll]

end InterfaceDraft.Signature
