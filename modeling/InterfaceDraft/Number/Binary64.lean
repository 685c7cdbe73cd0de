set_option autoImplicit false

namespace InterfaceDraft.Number

-- A tie goes to the even number.
def roundDiv (num den : Nat) : Nat :=
  let low := num / den
  let twice := 2 * (num % den)
  if twice < den then low
  else if den < twice then low + 1
  else if low % 2 == 0 then low
  else low + 1

structure Fraction where
  num : Nat
  den : Nat

def Fraction.shift (fraction : Fraction) (power : Int) : Fraction :=
  ⟨fraction.num * Nat.pow 2 power.toNat, fraction.den * Nat.pow 2 (-power).toNat⟩

def Fraction.scale (fraction : Fraction) (power : Int) : Fraction :=
  ⟨fraction.num * Nat.pow 10 power.toNat, fraction.den * Nat.pow 10 (-power).toNat⟩

def Fraction.floor (fraction : Fraction) : Nat :=
  fraction.num / fraction.den

def Fraction.rounded (fraction : Fraction) : Nat :=
  roundDiv fraction.num fraction.den

-- `mantissa * 2 ^ exponent`, with the mantissa below `2 ^ 53`.
structure Magnitude where
  mantissa : Nat
  exponent : Int
  deriving DecidableEq, Repr

namespace Magnitude

def zero : Magnitude := ⟨0, -1074⟩

def value (m : Magnitude) : Fraction :=
  Fraction.shift ⟨m.mantissa, 1⟩ m.exponent

-- The exponent at which the mantissa of a positive fraction has 53 bits.
def exponentOf (f : Fraction) : Int :=
  let guess : Int := (f.num.log2 : Int) - f.den.log2 - 52
  let mantissa := f.shift (-guess)
  if mantissa.num < mantissa.den * Nat.pow 2 52 then guess - 1 else guess

def nearest? (f : Fraction) : Option Magnitude :=
  if f.num == 0 then some zero
  else
    -- below this exponent mantissas get shorter instead
    let exponent := max (exponentOf f) (-1074)
    let mantissa := (f.shift (-exponent)).rounded
    let m : Magnitude :=
      if mantissa == Nat.pow 2 53 then ⟨Nat.pow 2 52, exponent + 1⟩ else ⟨mantissa, exponent⟩
    if 971 < m.exponent then none else some m

end Magnitude

inductive Binary64 where
  | nan
  | infinite (negative : Bool)
  | finite (negative : Bool) (magnitude : Magnitude)
  deriving DecidableEq, Repr

def Binary64.ofFraction (negative : Bool) (f : Fraction) : Binary64 :=
  match Magnitude.nearest? f with
  | some m => .finite negative m
  | none => .infinite negative

-- Powers far outside the range are settled without computing them.
def Binary64.ofDecimal (negative : Bool) (digits : Nat) (power : Int) : Binary64 :=
  let size : Int := (Nat.toDigits 10 digits).length + power
  if digits == 0 then .finite negative .zero
  else if 310 < size then .infinite negative
  else if size < -330 then .finite negative .zero
  else .ofFraction negative (Fraction.scale ⟨digits, 1⟩ power)

end InterfaceDraft.Number
