import CommandGrammar.Number.Decimal

set_option autoImplicit false

namespace CommandGrammar

structure Ipv4 where
  first : UInt8
  second : UInt8
  third : UInt8
  fourth : UInt8
  deriving DecidableEq, Repr

namespace Ipv4

/-- At most three digits, no zero before others, and at most 255. -/
def readOctet? (t : Text) : Option UInt8 :=
  if 3 < t.length ∨ (t.head? = some '0' ∧ t ≠ ['0']) then none
  else ((Decimal.natural? t).filter (· < 256)).map UInt8.ofNat

def read? (t : Text) : Option Ipv4 :=
  match (t.splitOn '.').mapM readOctet? with
  | some [first, second, third, fourth] => some ⟨first, second, third, fourth⟩
  | _ => none

def octets (address : Ipv4) : List UInt8 :=
  [address.first, address.second, address.third, address.fourth]

def render (address : Ipv4) : Text :=
  ['.'].intercalate (address.octets.map fun octet => Decimal.digits octet.toNat)

def toNat (address : Ipv4) : Nat :=
  address.octets.foldl (fun high octet => 256 * high + octet.toNat) 0

end Ipv4
end CommandGrammar
