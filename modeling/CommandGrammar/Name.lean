import CommandGrammar.Text.Basic

set_option autoImplicit false

namespace CommandGrammar

structure Name where
  long : Text
  short : Option Char
  deriving DecidableEq, Repr

structure NameError where
  token : Text
  deriving DecidableEq, Repr

namespace Name

/-- The regular expression that names conform to, for people who read an error. -/
def pattern : Text := "^(?P<long>[a-z][a-z0-9-]+)(?:\\[(?P<short>[A-Za-z])\\])?$".toList

def isLongChar (c : Char) : Bool := c.isLower || c.isDigit || c == '-'

def isLong : Text → Bool
  | first :: second :: rest => first.isLower && (second :: rest).all isLongChar
  | _ => false

def readShort? : Text → Option (Option Char)
  | [] => some none
  | ['[', letter, ']'] => if letter.isAlpha then some (some letter) else none
  | _ => none

def read? (token : Text) : Option Name :=
  let long := token.takeWhile isLongChar
  if isLong long then (readShort? (token.dropWhile isLongChar)).map fun short => ⟨long, short⟩
  else none

def parse (token : Text) : Except NameError Name :=
  match read? token with
  | some name => .ok name
  | none => .error ⟨token⟩

def render (name : Name) : Text :=
  match name.short with
  | none => name.long
  | some letter => name.long ++ ['[', letter, ']']

theorem parse_ok_iff (token : Text) (name : Name) :
    parse token = .ok name ↔ read? token = some name := by
  cases h : read? token <;> simp [parse, h]

theorem parse_error_iff (token : Text) (error : NameError) :
    parse token = .error error ↔ read? token = none ∧ error = ⟨token⟩ := by
  cases h : read? token <;> simp [parse, h, eq_comm]

end Name

def NameError.message (error : NameError) : Text :=
  "'".toList ++ error.token ++ "' does not conform to the name pattern '".toList ++ Name.pattern ++
    "'.".toList

end CommandGrammar
