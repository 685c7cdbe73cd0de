import InterfaceDraft.Number.Binary64
import InterfaceDraft.Text.Search

set_option autoImplicit false

namespace InterfaceDraft.Number

open Text

inductive NumeralError where
  | empty
  | invalidDigit
  | tooLarge
  | tooSmall
  deriving DecidableEq, Repr

def NumeralError.message : NumeralError → String
  | .empty => "cannot parse integer from empty string"
  | .invalidDigit => "invalid digit found in string"
  | .tooLarge => "number too large to fit in target type"
  | .tooSmall => "number too small to fit in target type"

def wordMax : Nat := UInt64.size - 1

def signedEnd : Nat := UInt64.size / 2

def digitValue (c : Char) : Nat := c.toNat - '0'.toNat

-- The first fault from the left counts: a character that is no digit, or a digit that takes the
-- number past `limit`.
def readDigits (limit : Nat) (beyond : NumeralError) : (sofar : Nat) → List Char →
    Except NumeralError Nat
  | sofar, [] => .ok sofar
  | sofar, c :: rest =>
    if !c.isDigit then .error .invalidDigit
    else if limit < sofar * 10 + digitValue c then .error beyond
    else readDigits limit beyond (sofar * 10 + digitValue c) rest

def readUnsigned (limit : Nat) : List Char → Except NumeralError Nat
  | [] => .error .empty
  | ['+'] => .error .invalidDigit
  | '+' :: digits => readDigits limit .tooLarge 0 digits
  | digits => readDigits limit .tooLarge 0 digits

def readSigned : List Char → Except NumeralError Int
  | [] => .error .empty
  | ['+'] => .error .invalidDigit
  | ['-'] => .error .invalidDigit
  | '+' :: digits => (readDigits (signedEnd - 1) .tooLarge 0 digits).map Int.ofNat
  | '-' :: digits => (readDigits signedEnd .tooSmall 0 digits).map fun n => -(n : Int)
  | digits => (readDigits (signedEnd - 1) .tooLarge 0 digits).map Int.ofNat

def digitsValue (digits : List Char) : Nat :=
  digits.foldl (fun n c => n * 10 + digitValue c) 0

def takeSign : List Char → Bool × List Char
  | '-' :: rest => (true, rest)
  | '+' :: rest => (false, rest)
  | rest => (false, rest)

def readPower : List Char → Option Int
  | [] => some 0
  | mark :: rest =>
    if mark == 'e' || mark == 'E' then
      let (negative, digits) := takeSign rest
      if digits.isEmpty || !digits.all Char.isDigit then none
      else if negative then some (-(digitsValue digits : Int))
      else some (digitsValue digits)
    else none

def readDecimal (text : List Char) : Option Binary64 :=
  let (negative, rest) := takeSign text
  let whole := rest.takeWhile Char.isDigit
  let (places, rest) :=
    match rest.dropWhile Char.isDigit with
    | '.' :: more => (more.takeWhile Char.isDigit, more.dropWhile Char.isDigit)
    | more => ([], more)
  if whole.isEmpty && places.isEmpty then none
  else
    (readPower rest).map fun power =>
      .ofDecimal negative (digitsValue (whole ++ places)) (power - places.length)

end InterfaceDraft.Number
