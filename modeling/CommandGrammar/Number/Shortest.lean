import CommandGrammar.Number.Binary

set_option autoImplicit false

/-!
# Shortest decimals

A finite number is written with the fewest digits that read back as the same number. Decimal grids
are tried from coarse to fine: the first grid with a point in the interval of what rounds to the
number wins, and on it the point nearest to the number, of two equally near ones the greater. The
number itself is a point of the grid `10 ^ -depth`.
-/
namespace CommandGrammar.BinaryFloat

def gap (format : BinaryFormat) (units : Nat) : Nat :=
  Nat.pow 2 (units.log2 + 1 - format.precision)

def narrowsBelow (format : BinaryFormat) (units : Nat) : Bool :=
  units == Nat.pow 2 units.log2 && format.precision ≤ units.log2

/-- The lower end of what rounds to the number, in quarters of a unit. -/
def lowerEnd (format : BinaryFormat) (units : Nat) : Nat :=
  4 * units - if narrowsBelow format units then gap format units else 2 * gap format units

def upperEnd (format : BinaryFormat) (units : Nat) : Nat := 4 * units + 2 * gap format units

/-- Whether `num / den` quarters of a unit round to the number. The ends do so if the significand
    is even. -/
def roundsTo (format : BinaryFormat) (units num den : Nat) : Bool :=
  let low := lowerEnd format units * den
  let high := upperEnd format units * den
  if units / gap format units % 2 = 0 then low ≤ num && num ≤ high else low < num && num < high

/-- The coefficient of the best point of the grid `10 ^ exponent`, if any point rounds to the
    number. -/
def gridPoint? (format : BinaryFormat) (units : Nat) (exponent : Int) : Option Nat :=
  let pace := Nat.pow 10 exponent.toNat * Nat.pow 2 (format.depth + 2)
  let den := Nat.pow 10 (-exponent).toNat
  let target := 4 * units * den
  let below := target / pace
  match roundsTo format units (below * pace) den, roundsTo format units ((below + 1) * pace) den with
  | false, false => none
  | true, false => some below
  | false, true => some (below + 1)
  | true, true =>
    some (if target - below * pace < (below + 1) * pace - target then below else below + 1)

def shortestFrom (format : BinaryFormat) (units : Nat) : Nat → DecimalNumber
  | 0 => ⟨units * Nat.pow 5 format.depth, -Int.ofNat format.depth⟩
  | fineness + 1 =>
    let exponent := Int.ofNat (fineness + 1) - Int.ofNat format.depth
    match gridPoint? format units exponent with
    | some coefficient => ⟨coefficient, exponent⟩
    | none => shortestFrom format units fineness

/-- The coarsest grid tried has a step of at least `2 ^ (span - depth)`, above every finite number,
    since `8 < 10`. -/
def shortest (format : BinaryFormat) (units : Nat) : DecimalNumber :=
  shortestFrom format units (format.depth + (format.span - format.depth) / 3 + 1)

def render (format : BinaryFormat) : BinaryFloat → Text
  | .nan => "NaN".toList
  | .infinite negative => sign negative ++ "inf".toList
  | .finite negative 0 => sign negative ++ ['0']
  | .finite negative units =>
    let number := shortest format units
    sign negative ++ Decimal.positional (Decimal.digits number.coefficient) number.exponent
where
  sign (negative : Bool) : Text := if negative then ['-'] else []

end CommandGrammar.BinaryFloat
