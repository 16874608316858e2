import CommandGrammar.Text.Basic

set_option autoImplicit false

namespace CommandGrammar

structure Argument where
  name : Text
  wildcard : Bool
  deriving DecidableEq, Repr

def Argument.render (argument : Argument) : Text :=
  '$' :: argument.name ++ if argument.wildcard then ['*'] else []

end CommandGrammar
