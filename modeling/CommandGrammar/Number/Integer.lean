import CommandGrammar.Number.Decimal

set_option autoImplicit false

namespace CommandGrammar

inductive Width where
  | w8
  | w16
  | w32
  | w64
  | w128
  deriving DecidableEq, Repr

def Width.bits : Width → Nat
  | .w8 => 8
  | .w16 => 16
  | .w32 => 32
  | .w64 => 64
  | .w128 => 128

structure IntegerType where
  signed : Bool
  width : Width
  deriving DecidableEq, Repr

namespace Integer

def read? (minus : Bool) : Text → Option Int
  | '+' :: digits => (Decimal.natural? digits).map Int.ofNat
  | '-' :: digits =>
    if minus then (Decimal.natural? digits).map fun n => -Int.ofNat n else none
  | digits => (Decimal.natural? digits).map Int.ofNat

def render : Int → Text
  | .ofNat n => Decimal.digits n
  | .negSucc n => '-' :: Decimal.digits (n + 1)

end Integer

namespace IntegerType

def int64 : IntegerType := ⟨true, .w64⟩

/-- How many nonnegative numbers the type has. -/
def reach (type : IntegerType) : Nat :=
  Nat.pow 2 (if type.signed then type.width.bits - 1 else type.width.bits)

def least (type : IntegerType) : Int := if type.signed then -Int.ofNat type.reach else 0

def greatest (type : IntegerType) : Int := Int.ofNat type.reach - 1

def contains (type : IntegerType) (n : Int) : Bool := type.least ≤ n && n ≤ type.greatest

def read? (type : IntegerType) (t : Text) : Option Int :=
  (Integer.read? type.signed t).filter type.contains

def label (type : IntegerType) : Text :=
  (if type.signed then 'i' else 'u') :: Decimal.digits type.width.bits

theorem read?_eq_some_iff (type : IntegerType) (t : Text) (n : Int) :
    type.read? t = some n ↔
      Integer.read? type.signed t = some n ∧ type.least ≤ n ∧ n ≤ type.greatest := by
  simp [read?, contains, Option.filter_eq_some_iff]

end IntegerType
end CommandGrammar
