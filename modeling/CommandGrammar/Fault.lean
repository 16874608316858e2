import CommandGrammar.Name

set_option autoImplicit false

namespace CommandGrammar

inductive Fault where
  | invalidIdentifier (token : Text) (cause : NameError)
  | argumentAfterWildcard (token : Text)
  | secondCommand (token : Text)
  | missingCommand
  deriving DecidableEq, Repr

def Fault.message : Fault → Text
  | .invalidIdentifier token cause =>
    "Invalid command identifier '".toList ++ token ++ "': ".toList ++ cause.message
  | .argumentAfterWildcard token =>
    "Unexpected argument '".toList ++ token ++ "' after the wildcard argument.".toList
  | .secondCommand token =>
    "Unexpected value '".toList ++ token ++ "' after the command name.".toList
  | .missingCommand => "Missing the command name.".toList

structure ParseError where
  source : Text
  fault : Fault
  deriving DecidableEq, Repr

def ParseError.message (error : ParseError) : Text :=
  "Definition parse error in '".toList ++ error.source ++ "': ".toList ++ error.fault.message

end CommandGrammar
