import CommandGrammar.Text.Extender
import CommandGrammar.Text.Other

set_option autoImplicit false

namespace CommandGrammar.Text

/-- The letters that are by default not drawn: the fillers of Hangul syllables. -/
def fillers : Ranges := [(0x115F, 0x1160), (0x3164, 0x3164), (0xFFA0, 0xFFA0)]

def isPrintable (c : Char) : Bool :=
  !(others.covers c || extenders.covers c || fillers.covers c)

end CommandGrammar.Text
