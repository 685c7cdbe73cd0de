import InterfaceDraft.Text.Search
import InterfaceDraft.Text.Utf8

set_option autoImplicit false

namespace InterfaceDraft.Files

open Text

abbrev Name := Bytes

structure Path where
  bytes : Bytes
  deriving DecidableEq, Repr, Inhabited

namespace Path

def slash : UInt8 := 0x2f

def dot : UInt8 := 0x2e

def here : Name := [dot]

def above : Name := [dot, dot]

def ofString (s : String) : Path := ⟨bytesOf s⟩

def shown (p : Path) : String := Text.shown p.bytes

def isEmpty (p : Path) : Bool := p.bytes.isEmpty

def isAbsolute (p : Path) : Bool := p.bytes.head? == some slash

def pieces (p : Path) : List Bytes := splitAll slash p.bytes

inductive Lead where
  | top
  | dot
  | plain
  deriving DecidableEq, Repr

def leadAndBody (p : Path) : Lead × List Bytes :=
  match p.pieces with
  | [] => (.plain, [])
  | [[]] => (.plain, [])
  | first :: more =>
    if first.isEmpty then (.top, more)
    else if first == here then (.dot, more)
    else (.plain, first :: more)

-- Behind the lead, empty pieces and single dots name nothing.
def isIdle (piece : Bytes) : Bool := piece.isEmpty || piece == here

def dropIdleEnd (body : List Bytes) : List Bytes :=
  (body.reverse.dropWhile isIdle).reverse

def joinPieces : List Bytes → Bytes
  | [] => []
  | [piece] => piece
  | piece :: more => piece ++ slash :: joinPieces more

def ofLeadAndBody : Lead → List Bytes → Path
  | .top, body => ⟨slash :: joinPieces body⟩
  | .dot, [] => ⟨here⟩
  | .dot, body => ⟨here ++ slash :: joinPieces body⟩
  | .plain, body => ⟨joinPieces body⟩

-- The last name, which slashes and dots may follow. A path that ends in `..` has none.
def fileName? (p : Path) : Option Name :=
  match (dropIdleEnd p.leadAndBody.2).getLast? with
  | none => none
  | some name => if name == above then none else some name

-- What follows the last dot of the file name. A dot in front is part of a hidden name.
def extension? (p : Path) : Option Bytes :=
  match p.fileName? with
  | none => none
  | some name =>
    match splitLast? dot name with
    | none => none
    | some (stem, extension) => if stem.isEmpty then none else some extension

-- The empty path and the top directory have no parent.
def parent? (p : Path) : Option Path :=
  match p.leadAndBody with
  | (lead, body) =>
    match dropIdleEnd body, lead with
    | [], .dot => some ⟨[]⟩
    | [], _ => none
    | named, lead => some (ofLeadAndBody lead (dropIdleEnd named.dropLast))

def ancestorsUpTo : Nat → Path → List Path
  | 0, _ => []
  | bound + 1, p =>
    p :: match p.parent? with
      | none => []
      | some q => ancestorsUpTo bound q

-- Every parent is shorter, so the length bounds their number.
def ancestors (p : Path) : List Path := ancestorsUpTo (p.bytes.length + 1) p

def child (p : Path) (name : Name) : Path :=
  if p.isEmpty || p.bytes.getLast? == some slash then ⟨p.bytes ++ name⟩
  else ⟨p.bytes ++ slash :: name⟩

inductive Component where
  | top
  | here
  | above
  | name (bytes : Name)
  deriving DecidableEq, Repr

def Component.ofPiece (piece : Bytes) : Component :=
  if piece == Path.above then .above else .name piece

def Component.bytes : Component → Bytes
  | .top => [slash]
  | .here => Path.here
  | .above => Path.above
  | .name bytes => bytes

def components (p : Path) : List Component :=
  match p.leadAndBody with
  | (lead, body) =>
    let names := (body.filter (!isIdle ·)).map Component.ofPiece
    match lead with
    | .top => .top :: names
    | .dot => .here :: names
    | .plain => names

def climb (above : List Component) (target : List Component) : List Component :=
  above.map (fun _ => .above) ++ target

def difference : (target base : List Component) → List Component
  | target, [] => target
  | [], base => climb base []
  | t :: target, b :: base => if t == b then difference target base else climb (b :: base) (t :: target)

def relativeTo (target base : Path) : Path :=
  ⟨joinPieces ((difference target.components base.components).map Component.bytes)⟩

end Path

end InterfaceDraft.Files
