import CommandGrammar.Text.Ranges

set_option autoImplicit false

namespace CommandGrammar.Text

/-- The code points with the property White_Space. -/
def blanks : Ranges :=
  [(0x9, 0xD), (0x20, 0x20), (0x85, 0x85), (0xA0, 0xA0), (0x1680, 0x1680), (0x2000, 0x200A),
    (0x2028, 0x2029), (0x202F, 0x202F), (0x205F, 0x205F), (0x3000, 0x3000)]

theorem blanks_ascend : blanks.ascend 0 = true := by decide

def isBlank (c : Char) : Bool := blanks.covers c

def trimEnd (t : Text) : Text := (t.reverse.dropWhile isBlank).reverse

def trim (t : Text) : Text := trimEnd (t.dropWhile isBlank)

theorem trimEnd_nil : trimEnd [] = [] := rfl

theorem trimEnd_concat (t : Text) (c : Char) :
    trimEnd (t ++ [c]) = if isBlank c then trimEnd t else t ++ [c] := by
  by_cases h : isBlank c <;> simp [trimEnd, h]

end CommandGrammar.Text
