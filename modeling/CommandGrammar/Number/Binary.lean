import CommandGrammar.Number.Integer

set_option autoImplicit false

/-!
# Binary floating point

A finite number is a whole count of units, the unit of a format being its least positive number.
A decimal text is read exactly and rounded once, to the nearest count with at most `precision`
significant bits, a half going to the even neighbour. All arithmetic is on natural numbers.
-/
namespace CommandGrammar

/-- The unit is `2 ^ -depth`; finite numbers have fewer than `2 ^ span` units. -/
structure BinaryFormat where
  label : Text
  precision : Nat
  depth : Nat
  span : Nat
  deriving DecidableEq, Repr

def BinaryFormat.binary32 : BinaryFormat := ⟨"f32".toList, 24, 149, 277⟩

def BinaryFormat.binary64 : BinaryFormat := ⟨"f64".toList, 53, 1074, 2098⟩

inductive BinaryFloat where
  | nan
  | infinite (negative : Bool)
  | finite (negative : Bool) (units : Nat)
  deriving DecidableEq, Repr

def roundHalfEven (num den : Nat) : Nat :=
  let quotient := num / den
  let twice := 2 * (num % den)
  if den < twice ∨ (twice = den ∧ quotient % 2 = 1) then quotient + 1 else quotient

structure DecimalNumber where
  coefficient : Nat
  exponent : Int
  deriving DecidableEq, Repr

namespace DecimalNumber

def readExponent? : Text → Option Int
  | [] => some 0
  | _ :: exponent => Integer.read? true exponent

def read? (t : Text) : Option DecimalNumber :=
  let isMark (c : Char) : Bool := c == 'e' || c == 'E'
  let significand := t.takeWhile (!isMark ·)
  let (whole, fraction) := (Text.cutAt? '.' significand).getD (significand, [])
  match Decimal.natural? (whole ++ fraction), readExponent? (t.dropWhile (!isMark ·)) with
  | some coefficient, some exponent => some ⟨coefficient, exponent - Int.ofNat fraction.length⟩
  | _, _ => none

end DecimalNumber

namespace BinaryFloat

def ofUnits (format : BinaryFormat) (negative : Bool) (num den : Nat) : BinaryFloat :=
  let step := Nat.pow 2 ((num / den).log2 + 1 - format.precision)
  let units := roundHalfEven num (den * step) * step
  if units < Nat.pow 2 format.span then .finite negative units else .infinite negative

/-- Since `8 < 10`, three bits for each power of ten tell when a number is beyond the format, or is
    less than half a unit, before a power is taken. -/
def ofDecimal (format : BinaryFormat) (negative : Bool) (number : DecimalNumber) : BinaryFloat :=
  let bits := Int.ofNat number.coefficient.log2 + 3 * number.exponent + Int.ofNat format.depth
  if number.coefficient = 0 then .finite negative 0
  else if 0 ≤ number.exponent ∧ Int.ofNat format.span ≤ bits then .infinite negative
  else if number.exponent < 0 ∧ bits + 2 ≤ 0 then .finite negative 0
  else
    ofUnits format negative
      (number.coefficient * Nat.pow 10 number.exponent.toNat * Nat.pow 2 format.depth)
      (Nat.pow 10 (-number.exponent).toNat)

def readMagnitude? (format : BinaryFormat) (negative : Bool) (t : Text) : Option BinaryFloat :=
  let word := t.map Char.toLower
  if word = "inf".toList ∨ word = "infinity".toList then some (.infinite negative)
  else if word = "nan".toList then some .nan
  else (DecimalNumber.read? t).map (ofDecimal format negative)

def read? (format : BinaryFormat) : Text → Option BinaryFloat
  | '+' :: t => readMagnitude? format false t
  | '-' :: t => readMagnitude? format true t
  | t => readMagnitude? format false t

def signed (negative : Bool) (units : Nat) : Int := if negative then -Int.ofNat units else units

/-- The order of the numbers, in which the two zeros are equal and `nan` is below nothing, not even
    itself. -/
def le : BinaryFloat → BinaryFloat → Bool
  | .nan, _ => false
  | _, .nan => false
  | .infinite negative, .infinite negative' => negative || !negative'
  | .infinite negative, .finite _ _ => negative
  | .finite _ _, .infinite negative => !negative
  | .finite negative units, .finite negative' units' =>
    signed negative units ≤ signed negative' units'

end BinaryFloat
end CommandGrammar
