import CommandGrammar.Number.Ipv4
import CommandGrammar.Number.Shortest

set_option autoImplicit false

namespace CommandGrammar

/-- The label names the type in errors. The order may be partial. -/
structure Scalar (α : Type) where
  label : Text
  read? : Text → Option α
  render : α → Text
  le : α → α → Bool

namespace Scalar

def integer (type : IntegerType) : Scalar Int :=
  ⟨type.label, type.read?, Integer.render, fun a b => a ≤ b⟩

def float (format : BinaryFormat) : Scalar BinaryFloat :=
  ⟨format.label, BinaryFloat.read? format, BinaryFloat.render format, BinaryFloat.le⟩

def renderBool (b : Bool) : Text := if b then "true".toList else "false".toList

def readBool? (t : Text) : Option Bool :=
  if t = "true".toList then some true else if t = "false".toList then some false else none

def bool : Scalar Bool := ⟨"bool".toList, readBool?, renderBool, fun a b => !a || b⟩

def readChar? : Text → Option Char
  | [c] => some c
  | _ => none

def char : Scalar Char := ⟨"char".toList, readChar?, fun c => [c], fun a b => a ≤ b⟩

def text : Scalar Text := ⟨"alloc::string::String".toList, some, id, Text.le⟩

def ipv4 : Scalar Ipv4 :=
  ⟨"core::net::ip_addr::Ipv4Addr".toList, Ipv4.read?, Ipv4.render, fun a b => a.toNat ≤ b.toNat⟩

end Scalar

inductive ScalarType where
  | integer (type : IntegerType)
  | float32
  | float64
  | bool
  | char
  | text
  | ipv4
  deriving DecidableEq, Repr

namespace ScalarType

def int64 : ScalarType := .integer .int64

abbrev Carrier : ScalarType → Type
  | .integer _ => Int
  | .float32 => BinaryFloat
  | .float64 => BinaryFloat
  | .bool => Bool
  | .char => Char
  | .text => Text
  | .ipv4 => Ipv4

def scalar : (type : ScalarType) → Scalar type.Carrier
  | .integer type => .integer type
  | .float32 => .float .binary32
  | .float64 => .float .binary64
  | .bool => .bool
  | .char => .char
  | .text => .text
  | .ipv4 => .ipv4

end ScalarType
end CommandGrammar
