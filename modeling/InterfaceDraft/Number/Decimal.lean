import InterfaceDraft.Number.Binary64

set_option autoImplicit false

namespace InterfaceDraft.Number

def positional (digits : Nat) (power : Int) : List Char :=
  let text := Nat.toDigits 10 digits
  if 0 ≤ power then text ++ List.replicate power.toNat '0'
  else
    let places := (-power).toNat
    let padded := List.replicate (places + 1 - text.length) '0' ++ text
    padded.take (padded.length - places) ++ '.' :: padded.drop (padded.length - places)

def Fraction.fixed (f : Fraction) (places : Nat) : List Char :=
  positional (f.scale places).rounded (-places)

def leadingPowerFrom (f : Fraction) : (tries : Nat) → (power : Int) → Int
  | 0, power => power
  | tries + 1, power =>
    let unit := Fraction.scale ⟨1, 1⟩ power
    if unit.num * f.den ≤ f.num * unit.den then power
    else leadingPowerFrom f tries (power - 1)

def leadingPower (f : Fraction) : Int :=
  leadingPowerFrom f 400 ((Nat.toDigits 10 f.floor).length - 1)

-- A tie goes to the larger number.
def Fraction.roundedUp (f : Fraction) : Nat :=
  if 2 * (f.num % f.den) < f.den then f.floor else f.floor + 1

-- Of two neighbours that are equally near it is the larger one.
def neighbour? (m : Magnitude) (power : Int) : Option Nat :=
  let scaled := m.value.scale (-power)
  let low := scaled.floor
  let readsBack (digits : Nat) : Bool :=
    Magnitude.nearest? (Fraction.scale ⟨digits, 1⟩ power) == some m
  match readsBack low, readsBack (low + 1) with
  | true, true => some scaled.roundedUp
  | true, false => some low
  | false, true => some (low + 1)
  | false, false => none

-- Seventeen digits always read back.
def shortestFrom (m : Magnitude) (leading : Int) : (tries count : Nat) → Nat × Int
  | 0, count => (m.value.scale (count - 1 - leading)).roundedUp |> (·, leading - (count - 1))
  | tries + 1, count =>
    match neighbour? m (leading - (count - 1)) with
    | some digits => (digits, leading - (count - 1))
    | none => shortestFrom m leading tries (count + 1)

-- The search starts one place above the first digit, where a number just below a power of ten may
-- read back.
def Magnitude.shortest (m : Magnitude) : List Char :=
  if m.mantissa == 0 then ['0']
  else
    let (digits, power) := shortestFrom m (leadingPower m.value + 1) 17 1
    positional digits power

def Binary64.shown : Binary64 → List Char
  | .nan => "NaN".toList
  | .infinite negative => (if negative then ['-'] else []) ++ "inf".toList
  | .finite negative m => (if negative then ['-'] else []) ++ m.shortest

end InterfaceDraft.Number
