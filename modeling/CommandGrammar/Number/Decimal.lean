import CommandGrammar.Text.Basic

set_option autoImplicit false

namespace CommandGrammar.Decimal

def natural? (t : Text) : Option Nat :=
  if t ≠ [] ∧ t.all Char.isDigit then some (Nat.ofDigitChars 10 t 0) else none

def digits (n : Nat) : Text := Nat.toDigits 10 n

theorem natural?_digits (n : Nat) : natural? (digits n) = some n := by
  have hd : (digits n).all Char.isDigit :=
    List.all_eq_true.2 fun _ hc => Nat.isDigit_of_mem_toDigits (by decide) (by decide) hc
  have hn : digits n ≠ [] := Nat.toDigits_ne_nil
  have hv : Nat.ofDigitChars 10 (digits n) 0 = n := Nat.ofDigitChars_toDigits (by decide) (by decide)
  simp [natural?, hd, hn, hv]

def positional (digits : Text) : Int → Text
  | .ofNat zeros => digits ++ List.replicate zeros '0'
  | .negSucc n =>
    let places := n + 1
    if digits.length ≤ places then
      '0' :: '.' :: List.replicate (places - digits.length) '0' ++ digits
    else
      digits.take (digits.length - places) ++ '.' :: digits.drop (digits.length - places)

end CommandGrammar.Decimal
