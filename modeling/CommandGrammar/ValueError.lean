import CommandGrammar.Number.Decimal

set_option autoImplicit false

namespace CommandGrammar

inductive Rejection where
  | unconvertible (type : Text)
  | outOfRange (min max : Text)
  | unmapped
  deriving DecidableEq, Repr

def Rejection.message : Rejection → Text
  | .unconvertible type => "cannot convert to ".toList ++ type
  | .outOfRange min max =>
    "outside the range [".toList ++ min ++ ", ".toList ++ max ++ "]".toList
  | .unmapped => "not one of the choices".toList

inductive ValueError where
  | flagAsValue (name : Text)
  | unconvertible (name value type : Text)
  | rejected (name value : Text) (reason : Rejection)
  | unconvertibleElement (name : Text) (index : Nat) (element type : Text)
  deriving DecidableEq, Repr

def ValueError.message : ValueError → Text
  | .flagAsValue name => "Cannot use the flag '--".toList ++ name ++ "' as a value.".toList
  | .unconvertible name value type =>
    "Cannot convert '".toList ++ value ++ "' to ".toList ++ type ++ " for '--".toList ++ name ++
      "'.".toList
  | .rejected name value reason =>
    "Invalid value '".toList ++ value ++ "' for '--".toList ++ name ++ "': ".toList ++
      reason.message ++ ".".toList
  | .unconvertibleElement name index element type =>
    "Cannot convert element ".toList ++ Decimal.digits index ++ " '".toList ++ element ++
      "' to ".toList ++ type ++ " for '--".toList ++ name ++ "'.".toList

end CommandGrammar
