import InterfaceDraft.Number.Numeral
import InterfaceDraft.Settings.Value
import InterfaceDraft.Toml.Text

set_option autoImplicit false

namespace InterfaceDraft.Toml

open Number

def isTokenChar (c : Char) : Bool :=
  c.isAlphanum || c == '_' || c == '+' || c == '-' || c == '.' || c == ':'

def ungroup (isDigit : Char → Bool) : List Char → Option (List Char)
  | [] => none
  | [c] => if isDigit c then some [c] else none
  | c :: '_' :: rest => if isDigit c then (ungroup isDigit rest).map (c :: ·) else none
  | c :: rest => if isDigit c then (ungroup isDigit rest).map (c :: ·) else none

def isHexDigit (c : Char) : Bool := (hexDigit? c).isSome

def isOctalDigit (c : Char) : Bool := '0' ≤ c && c ≤ '7'

def isBinaryDigit (c : Char) : Bool := c == '0' || c == '1'

def valueIn (base : Nat) (digits : List Char) : Nat :=
  digits.foldl (fun n c => n * base + (hexDigit? c).getD 0) 0

def word? (n : Int) : Option Int :=
  if -(signedEnd : Int) ≤ n && n < signedEnd then some n else none

def wholeDigits? (token : List Char) : Option (List Char) :=
  match token with
  | '0' :: _ :: _ => none
  | _ => ungroup Char.isDigit token

def integer? (token : List Char) : Option Int :=
  match token with
  | '0' :: 'x' :: digits => (ungroup isHexDigit digits).bind fun d => word? (valueIn 16 d)
  | '0' :: 'o' :: digits => (ungroup isOctalDigit digits).bind fun d => word? (valueIn 8 d)
  | '0' :: 'b' :: digits => (ungroup isBinaryDigit digits).bind fun d => word? (valueIn 2 d)
  | _ =>
    let (negative, digits) := takeSign token
    (wholeDigits? digits).bind fun d =>
      word? (if negative then -(digitsValue d : Int) else digitsValue d)

def placesOf (rest : List Char) : Option (List Char × List Char) :=
  match rest with
  | '.' :: more =>
    let isPart (c : Char) : Bool := c.isDigit || c == '_'
    (ungroup Char.isDigit (more.takeWhile isPart)).map fun places => (places, more.dropWhile isPart)
  | _ => some ([], rest)

def powerOf (rest : List Char) : Option Int :=
  match rest with
  | [] => some 0
  | mark :: more =>
    if mark == 'e' || mark == 'E' then
      let (negative, digits) := takeSign more
      (ungroup Char.isDigit digits).map fun d =>
        if negative then -(digitsValue d : Int) else digitsValue d
    else none

-- A number that is too large is refused, a negative one apart.
def real? (token : List Char) : Option Binary64 :=
  let (negative, body) := takeSign token
  if body == "inf".toList then some (.infinite negative)
  else if body == "nan".toList then some .nan
  else
    let isPart (c : Char) : Bool := c.isDigit || c == '_'
    let rest := body.dropWhile isPart
    match wholeDigits? (body.takeWhile isPart), placesOf rest with
    | some whole, some (places, rest') =>
      if rest.isEmpty then none
      else
        (powerOf rest').bind fun power =>
          let x := Binary64.ofDecimal negative (digitsValue (whole ++ places)) (power - places.length)
          if x == .infinite false then none else some x
    | _, _ => none

def two? (a b : Char) : Option Nat :=
  if a.isDigit && b.isDigit then some (digitsValue [a, b]) else none

def isLeapYear (year : Nat) : Bool :=
  year % 4 == 0 && (year % 100 != 0 || year % 400 == 0)

def daysIn (year month : Nat) : Nat :=
  if month == 2 then (if isLeapYear year then 29 else 28)
  else if month == 4 || month == 6 || month == 9 || month == 11 then 30
  else 31

def isDate (token : List Char) : Bool :=
  match token with
  | [y1, y2, y3, y4, '-', m1, m2, '-', d1, d2] =>
    match two? y1 y2, two? y3 y4, two? m1 m2, two? d1 d2 with
    | some century, some year, some month, some day =>
      1 ≤ month && month ≤ 12 && 1 ≤ day && day ≤ daysIn (century * 100 + year) month
    | _, _, _, _ => false
  | _ => false

def isOffset (token : List Char) : Bool :=
  match token with
  | [] => true
  | ['Z'] => true
  | ['z'] => true
  | [sign, h1, h2, ':', m1, m2] =>
    match two? h1 h2, two? m1 m2 with
    | some hour, some minute => (sign == '+' || sign == '-') && hour < 24 && minute < 60
    | _, _ => false
  | _ => false

def isTime (offset : List Char → Bool) (token : List Char) : Bool :=
  match token with
  | h1 :: h2 :: ':' :: m1 :: m2 :: ':' :: s1 :: s2 :: rest =>
    match two? h1 h2, two? m1 m2, two? s1 s2 with
    | some hour, some minute, some second =>
      hour < 24 && minute < 60 && second ≤ 60 &&
        match rest with
        | '.' :: places =>
          !(places.takeWhile Char.isDigit).isEmpty && offset (places.dropWhile Char.isDigit)
        | _ => offset rest
    | _, _, _ => false
  | _ => false

def isMoment (token : List Char) : Bool :=
  isDate token || isTime List.isEmpty token ||
    match token.drop 10 with
    | mark :: time =>
      (mark == 'T' || mark == 't') && isDate (token.take 10) && isTime isOffset time
    | [] => false

def scalar? (token : List Char) : Option Value :=
  if token == "true".toList then some (.flag true)
  else if token == "false".toList then some (.flag false)
  else if isMoment token then some (.moment token)
  else
    match real? token with
    | some x => some (.real x)
    | none => (integer? token).map .signed

-- A space may part a date from a time.
def readScalar (input : List Char) : Option (Value × List Char) :=
  let token := input.takeWhile isTokenChar
  let rest := input.dropWhile isTokenChar
  match isDate token, rest with
  | true, ' ' :: more =>
    if isTime isOffset (more.takeWhile isTokenChar) then
      some (.moment (token ++ ' ' :: more.takeWhile isTokenChar), more.dropWhile isTokenChar)
    else some (.moment token, rest)
  | _, _ => (scalar? token).map (·, rest)

end InterfaceDraft.Toml
