import CommandGrammar.Text.Basic

set_option autoImplicit false

namespace CommandGrammar

inductive Shape where
  | flag (name : Text)
  | value (name : Text) (default : Option Text)
  | argument (name : Text) (wildcard : Bool)
  | bare (name : Text)
  deriving DecidableEq, Repr

namespace Shape

/-- After `--` the first `=` starts the default, which is absent if empty. Without a `=` it is a
    flag, whose final `?` is not in the name. -/
def ofOption (option : Text) : Shape :=
  match Text.cutAt? '=' option with
  | some (name, default) => .value name (if default = [] then none else some default)
  | none => .flag (Text.dropFinal '?' option)

/-- A final `*` marks a wildcard; after `...$` it adds nothing, and it is never in the name. -/
def ofToken : Text → Shape
  | '-' :: '-' :: option => ofOption option
  | '.' :: '.' :: '.' :: '$' :: name => .argument (Text.dropFinal '*' name) true
  | '$' :: name => .argument (Text.dropFinal '*' name) (Text.endsIn '*' name)
  | token => .bare token

def name : Shape → Text
  | .flag name => name
  | .value name _ => name
  | .argument name _ => name
  | .bare name => name

end Shape
end CommandGrammar
