import CommandGrammar.Text.Blank

set_option autoImplicit false

/-!
# Tokens

A grammar is one line of tokens between spaces. A backslash at the end of a piece keeps the space
after it inside the token; anywhere else a backslash stands for itself.
-/
namespace CommandGrammar.Token

def pieces (source : Text) : List Text := (source.splitOn ' ').filter (· ≠ [])

/-- A piece that ends in a backslash gives it up and takes in the next token, over one space. -/
def assemble : List Text → List Text
  | [] => []
  | piece :: rest =>
    if Text.endsIn '\\' piece then
      match assemble rest with
      | [] => [piece.dropLast]
      | next :: others => (piece.dropLast ++ ' ' :: next) :: others
    else piece :: assemble rest

def tokens (source : Text) : List Text :=
  ((assemble (pieces source)).map Text.trim).filter (· ≠ [])

def keepSpaces (t : Text) : Text := t.flatMap fun c => if c = ' ' then ['\\', ' '] else [c]

theorem keepSpaces_append (s t : Text) : keepSpaces (s ++ t) = keepSpaces s ++ keepSpaces t := by
  simp [keepSpaces]

theorem keepSpaces_eq_self (t : Text) (h : ' ' ∉ t) : keepSpaces t = t := by
  induction t with
  | nil => rfl
  | cons c rest ih =>
    have hc : c ≠ ' ' := fun e => h (by simp [e])
    have hr : ' ' ∉ rest := fun m => h (List.mem_cons_of_mem c m)
    have := ih hr
    simp_all [keepSpaces]

end CommandGrammar.Token
