import CommandGrammar.Draft
import CommandGrammar.Text.Quoted

set_option autoImplicit false

namespace CommandGrammar.Embedding

/-- The call that reads `literal` when the program runs. -/
def call (literal : Text) : Text :=
  ":: cmdform :: Definition :: parse (".toList ++ Text.literal literal ++
    ") . expect (".toList ++
    Text.literal "internal error - the definition was validated at compile time".toList ++
    ")".toList

def expand (literal : Text) : Except ParseError Text :=
  (Definition.parse literal).map fun _ => call literal

end CommandGrammar.Embedding
