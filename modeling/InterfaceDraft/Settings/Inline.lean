import InterfaceDraft.Number.Numeral
import InterfaceDraft.Settings.Value
import InterfaceDraft.Text.Blank
import InterfaceDraft.Text.Search
import InterfaceDraft.Text.Utf8
import InterfaceDraft.Toml.Text

set_option autoImplicit false

namespace InterfaceDraft.Inline

open Text Number

inductive Misread where
  | malformed
  -- The text in front of an escape would be cut inside a character, which nothing recovers from.
  | cutCharacter
  deriving DecidableEq, Repr

abbrev Taking (α : Type) := Except Misread (α × List Char)

def isSeparator (c : Char) : Bool :=
  c == ',' || c == '\x7b' || c == '\x7d' || c == '[' || c == ']'

def isKeyChar (c : Char) : Bool :=
  c.isAlphanum || c == '_' || c == '-'

def skipBlanks (input : List Char) : List Char :=
  input.dropWhile isAsciiBlank

def plainValue (input : List Char) : Value :=
  let s := trim input
  let whole : Value :=
    match readUnsigned wordMax s with
    | .ok n => .unsigned n
    | .error _ =>
      match readSigned s with
      | .ok i => .signed i
      | .error _ => .text s
  if s.contains '.' then
    match readDecimal s with
    | some x => .real x
    | none => whole
  else whole

-- A character behind a backslash does not close.
def splitQuoted : List Char → Option (List Char × List Char)
  | [] => none
  | '\x22' :: rest => some ([], rest)
  | '\\' :: c :: rest =>
    (splitQuoted rest).map fun (inner, rest) => ('\\' :: c :: inner, rest)
  | c :: rest => (splitQuoted rest).map fun (inner, rest) => (c :: inner, rest)

-- As many bytes of a text as it has characters, read as text again; none if that cuts a character.
-- Of a text in ASCII it is all.
def cutToLength? (s : List Char) : Option (List Char) :=
  decode? ((encode s).take s.length)

def unquote (inner : List Char) : Except Misread (List Char) :=
  let plain := inner.takeWhile (· != '\\')
  let coded := inner.dropWhile (· != '\\')
  if !plain.all Toml.isPlain then .error .malformed
  else if coded.isEmpty then .ok plain
  else
    match cutToLength? plain with
    | none => .error .cutCharacter
    | some kept =>
      match Toml.readBasic (coded ++ ['\x22']) with
      | some (text, []) => .ok (kept ++ text)
      | _ => .error .malformed

def readQuoted (input : List Char) : Taking (List Char) :=
  match splitQuoted input with
  | none => .error .malformed
  | some (inner, rest) => (unquote inner).map (·, rest)

def readKey (input : List Char) : Taking (List Char) :=
  match input with
  | '\x22' :: rest => readQuoted rest
  | _ =>
    let key := input.takeWhile isKeyChar
    if key.isEmpty then .error .malformed else .ok (key, input.dropWhile isKeyChar)

-- A later entry with the same key takes the place of an earlier one.
def putEntry (entries : List (String × Value)) (key : String) (value : Value) :
    List (String × Value) :=
  entries.filter (·.1 != key) ++ [(key, value)]

mutual

def readValue : (fuel : Nat) → List Char → Taking Value
  | 0, _ => .error .malformed
  | fuel + 1, input =>
    let input := skipBlanks input
    let read : Taking Value :=
      match dropLead? "true".toList input, dropLead? "false".toList input with
      | some rest, _ => .ok (.flag true, rest)
      | _, some rest => .ok (.flag false, rest)
      | none, none =>
        match input with
        | '\x7b' :: rest =>
          (readEntries fuel [] rest).map fun (entries, rest) => (.table entries, rest)
        | '[' :: rest => (readItems fuel rest).map fun (items, rest) => (.sequence items, rest)
        | '\x22' :: rest => (readQuoted rest).map fun (text, rest) => (.text text, rest)
        | '\x27' :: c :: '\x27' :: rest => .ok (.letter c, rest)
        | '\x27' :: _ => .error .malformed
        | _ =>
          .ok (plainValue (input.takeWhile (!isSeparator ·)), input.dropWhile (!isSeparator ·))
    read.map fun (value, rest) => (value, skipBlanks rest)

def readItems : (fuel : Nat) → List Char → Taking (List Value)
  | 0, _ => .error .malformed
  | _ + 1, ']' :: rest => .ok ([], rest)
  | fuel + 1, input =>
    match readValue fuel input with
    | .error misread => .error misread
    | .ok (item, ',' :: rest) =>
      (readItems fuel rest).map fun (items, rest) => (item :: items, rest)
    | .ok (item, ']' :: rest) => .ok ([item], rest)
    | .ok _ => .error .malformed

def readEntries : (fuel : Nat) → List (String × Value) → List Char →
    Taking (List (String × Value))
  | 0, _, _ => .error .malformed
  | _ + 1, entries, '\x7d' :: rest => .ok (entries, rest)
  | fuel + 1, entries, input =>
    match readKey (skipBlanks input) with
    | .error misread => .error misread
    | .ok (key, rest) =>
      match skipBlanks rest with
      | '=' :: rest =>
        match readValue fuel rest with
        | .error misread => .error misread
        | .ok (value, ',' :: rest) => readEntries fuel (putEntry entries (.ofList key) value) rest
        | .ok (value, '\x7d' :: rest) => .ok (putEntry entries (.ofList key) value, rest)
        | .ok _ => .error .malformed
      | _ => .error .malformed

end

-- A text that does not follow the grammar to its end stands for itself.
def read? (text : List Char) : Option Value :=
  match readValue (2 * text.length + 2) text with
  | .ok (value, []) => some value
  | .ok _ => some (.text text)
  | .error .malformed => some (.text text)
  | .error .cutCharacter => none

end InterfaceDraft.Inline
