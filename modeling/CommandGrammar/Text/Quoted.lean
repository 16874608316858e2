import CommandGrammar.Text.Printable

set_option autoImplicit false

namespace CommandGrammar.Text

def letterEscapes : List (Char × Char) :=
  [('\x00', '0'), ('\\', '\\'), ('"', '"'), ('\t', 't'), ('\n', 'n'), ('\r', 'r')]

def escape (c : Char) : Text :=
  match letterEscapes.lookup c with
  | some letter => ['\\', letter]
  | none =>
    if isPrintable c then [c]
    else "\\u\x7b".toList ++ Nat.toDigits 16 c.toNat ++ "\x7d".toList

def quoted (t : Text) : Text := '"' :: t.flatMap escape ++ ['"']

/-- The quoted texts in brackets, with commas between them. -/
def listing (ts : List Text) : Text :=
  '[' :: [',', ' '].intercalate (ts.map quoted) ++ [']']

def isOctal (c : Char) : Bool := c.isDigit && c != '8' && c != '9'

/-- In a program a null character before an octal digit has a number of two digits, so that it
    cannot be taken for an octal escape. -/
def escapeLiteral : Text → Text
  | [] => []
  | c :: rest =>
    (if c == '\x00' && rest.head?.any isOctal then "\\x00".toList else escape c) ++
      escapeLiteral rest

def literal (t : Text) : Text := '"' :: escapeLiteral t ++ ['"']

theorem escapeLiteral_eq_flatMap (t : Text) (h : '\x00' ∉ t) : escapeLiteral t = t.flatMap escape := by
  induction t with
  | nil => rfl
  | cons c rest ih =>
    have hc : c ≠ '\x00' := fun e => h (by simp [e])
    have hr : '\x00' ∉ rest := fun m => h (List.mem_cons_of_mem c m)
    simp [escapeLiteral, hc, ih hr]

end CommandGrammar.Text
