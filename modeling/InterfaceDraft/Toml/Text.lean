set_option autoImplicit false

namespace InterfaceDraft.Toml

def isPlain (c : Char) : Bool :=
  c == '\t' || (0x20 ≤ c.toNat && c.toNat != 0x7f)

def isSpace (c : Char) : Bool :=
  c == ' ' || c == '\t'

def hexDigit? (c : Char) : Option Nat :=
  if '0' ≤ c && c ≤ '9' then some (c.toNat - '0'.toNat)
  else if 'a' ≤ c && c ≤ 'f' then some (c.toNat - 'a'.toNat + 10)
  else if 'A' ≤ c && c ≤ 'F' then some (c.toNat - 'A'.toNat + 10)
  else none

def hexValue? (sofar : Nat) : List Char → Option Nat
  | [] => some sofar
  | c :: rest =>
    match hexDigit? c with
    | some digit => hexValue? (sofar * 16 + digit) rest
    | none => none

def hexChar? (digits : List Char) : Option Char :=
  match hexValue? 0 digits with
  | none => none
  | some n => if n < 0xd800 || (0xdfff < n && n < 0x110000) then some (.ofNat n) else none

def shortEscape? : Char → Option Char
  | 'b' => some '\x08'
  | 't' => some '\t'
  | 'n' => some '\n'
  | 'f' => some '\x0c'
  | 'r' => some '\r'
  | '\x22' => some '\x22'
  | '\\' => some '\\'
  | _ => none

def prepend (c : Char) (read : Option (List Char × List Char)) : Option (List Char × List Char) :=
  read.map fun r => (c :: r.1, r.2)

def readBasic : List Char → Option (List Char × List Char)
  | [] => none
  | '\x22' :: rest => some ([], rest)
  | '\\' :: 'u' :: a :: b :: c :: d :: rest =>
    match hexChar? [a, b, c, d] with
    | some x => prepend x (readBasic rest)
    | none => none
  | '\\' :: 'U' :: a :: b :: c :: d :: e :: f :: g :: h :: rest =>
    match hexChar? [a, b, c, d, e, f, g, h] with
    | some x => prepend x (readBasic rest)
    | none => none
  | '\\' :: e :: rest =>
    match shortEscape? e with
    | some x => prepend x (readBasic rest)
    | none => none
  | c :: rest => if isPlain c && c != '\\' then prepend c (readBasic rest) else none

def readLiteral : List Char → Option (List Char × List Char)
  | [] => none
  | '\x27' :: rest => some ([], rest)
  | c :: rest => if isPlain c then prepend c (readLiteral rest) else none

def endsLine (input : List Char) : Bool :=
  match input.dropWhile isSpace with
  | '\n' :: _ => true
  | '\r' :: '\n' :: _ => true
  | _ => false

-- Up to two quotes more may stand before the closing ones. While `folding`, behind a backslash at a
-- line end, white space is skipped.
def readMultiBasic (folding : Bool) : List Char → Option (List Char × List Char)
  | [] => none
  | '\x22' :: '\x22' :: '\x22' :: '\x22' :: '\x22' :: rest => some (['\x22', '\x22'], rest)
  | '\x22' :: '\x22' :: '\x22' :: '\x22' :: rest => some (['\x22'], rest)
  | '\x22' :: '\x22' :: '\x22' :: rest => some ([], rest)
  | '\\' :: 'u' :: a :: b :: c :: d :: rest =>
    match hexChar? [a, b, c, d] with
    | some x => prepend x (readMultiBasic false rest)
    | none => none
  | '\\' :: 'U' :: a :: b :: c :: d :: e :: f :: g :: h :: rest =>
    match hexChar? [a, b, c, d, e, f, g, h] with
    | some x => prepend x (readMultiBasic false rest)
    | none => none
  | '\\' :: e :: rest =>
    match shortEscape? e with
    | some x => prepend x (readMultiBasic false rest)
    | none => if endsLine (e :: rest) then readMultiBasic true (e :: rest) else none
  | '\r' :: '\n' :: rest =>
    if folding then readMultiBasic true rest else prepend '\n' (readMultiBasic false rest)
  | c :: rest =>
    if folding && (isSpace c || c == '\n') then readMultiBasic true rest
    else if c == '\n' || (isPlain c && c != '\\') then prepend c (readMultiBasic false rest)
    else none

def readMultiLiteral : List Char → Option (List Char × List Char)
  | [] => none
  | '\x27' :: '\x27' :: '\x27' :: '\x27' :: '\x27' :: rest => some (['\x27', '\x27'], rest)
  | '\x27' :: '\x27' :: '\x27' :: '\x27' :: rest => some (['\x27'], rest)
  | '\x27' :: '\x27' :: '\x27' :: rest => some ([], rest)
  | '\r' :: '\n' :: rest => prepend '\n' (readMultiLiteral rest)
  | c :: rest => if c == '\n' || isPlain c then prepend c (readMultiLiteral rest) else none

-- A line end directly behind three opening quotes does not belong to the text.
def dropLineEnd : List Char → List Char
  | '\n' :: rest => rest
  | '\r' :: '\n' :: rest => rest
  | input => input

def readString : List Char → Option (List Char × List Char)
  | '\x22' :: '\x22' :: '\x22' :: rest => readMultiBasic false (dropLineEnd rest)
  | '\x22' :: rest => readBasic rest
  | '\x27' :: '\x27' :: '\x27' :: rest => readMultiLiteral (dropLineEnd rest)
  | '\x27' :: rest => readLiteral rest
  | _ => none

-- Control characters that only an escape can write. Tab and line feed have forms without.
def needsCode (c : Char) : Bool :=
  (c.toNat < 0x20 && c != '\t' && c != '\n') || c.toNat == 0x7f

def longestRun (q : Char) (run : Nat) : List Char → Nat
  | [] => run
  | c :: rest => if c == q then longestRun q (run + 1) rest else max run (longestRun q 0 rest)

inductive Form where
  | basic
  | literal
  | multiBasic
  | multiLiteral
  deriving DecidableEq, Repr

-- The first form that writes the text without escapes other than for tabs; failing that, the form
-- with escapes that suits the number of lines.
def formOf (s : List Char) : Form :=
  let coded := s.any needsCode
  let lines := s.contains '\n'
  let doubles := longestRun '\x22' 0 s
  let singles := longestRun '\x27' 0 s
  if !coded && !s.contains '\\' && doubles == 0 && !lines then .basic
  else if !coded && singles == 0 && !lines then .literal
  else if !coded && !s.contains '\\' && doubles ≤ 2 then .multiBasic
  else if !coded && singles ≤ 2 then .multiLiteral
  else if lines then .multiBasic
  else .basic

def hexDigit (n : Nat) : Char :=
  if n < 10 then .ofNat ('0'.toNat + n) else .ofNat ('A'.toNat + n - 10)

def escapeControl (c : Char) : List Char :=
  if c == '\x08' then "\\b".toList
  else if c == '\t' then "\\t".toList
  else if c == '\n' then "\\n".toList
  else if c == '\x0c' then "\\f".toList
  else if c == '\r' then "\\r".toList
  else "\\u00".toList ++ [hexDigit (c.toNat / 16), hexDigit (c.toNat % 16)]

-- Between three quotes, `run` quotes directly before, only the third quote of a run is escaped and
-- line feeds stay.
def escape (multi : Bool) (run : Nat) : List Char → List Char
  | [] => []
  | c :: rest =>
    if c == '\x22' then
      if multi && run < 2 then '\x22' :: escape multi (run + 1) rest
      else '\\' :: '\x22' :: escape multi 0 rest
    else if c == '\\' then '\\' :: '\\' :: escape multi 0 rest
    else if multi && c == '\n' then '\n' :: escape multi 0 rest
    else if c.toNat < 0x20 || c.toNat == 0x7f then escapeControl c ++ escape multi 0 rest
    else c :: escape multi 0 rest

def tripled (q : Char) (s body : List Char) : List Char :=
  [q, q, q] ++ (if s.contains '\n' then ['\n'] else []) ++ body ++ [q, q, q]

def writeString (s : List Char) : List Char :=
  match formOf s with
  | .basic => '\x22' :: escape false 0 s ++ ['\x22']
  | .literal => '\x27' :: s ++ ['\x27']
  | .multiBasic => tripled '\x22' s (escape true 0 s)
  | .multiLiteral => tripled '\x27' s s

end InterfaceDraft.Toml
