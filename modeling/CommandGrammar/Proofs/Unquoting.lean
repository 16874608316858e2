import Mathlib
import CommandGrammar.Text.Quoted

set_option autoImplicit false

/-!
# How a program reads its literals

A literal ends at the first quote that no backslash precedes. A backslash begins an escape: a
letter, a byte of two digits that is below 128, or the number of a character in braces. The reader
below knows nothing of how literals are written; what `literal` writes, it reads back.
-/
namespace CommandGrammar.Text

def hexValue? (c : Char) : Option Nat :=
  if '0' ≤ c ∧ c ≤ '9' then some (c.toNat - '0'.toNat)
  else if 'a' ≤ c ∧ c ≤ 'f' then some (c.toNat - 'a'.toNat + 10)
  else if 'A' ≤ c ∧ c ≤ 'F' then some (c.toNat - 'A'.toNat + 10)
  else none

def lettered? (letter : Char) : Option Char :=
  match letter with
  | 'n' => some '\n'
  | 'r' => some '\r'
  | 't' => some '\t'
  | '0' => some '\x00'
  | '\\' => some '\\'
  | '"' => some '"'
  | '\x27' => some '\x27'
  | _ => none

/-- Where a reader stands in a literal. -/
inductive Place where
  | plain
  | backslash
  | byte
  | byteLow (high : Nat)
  | brace
  | number (digits value : Nat)
  deriving DecidableEq, Repr

def prepend (c : Char) (read : Option (Text × Text)) : Option (Text × Text) :=
  read.map fun parts => (c :: parts.1, parts.2)

/-- The rest of a literal and what follows it. A carriage return does not stand in a literal, and
    the number of a character has six digits at most. -/
def unquoteFrom? : Place → Text → Option (Text × Text)
  | _, [] => none
  | .plain, c :: rest =>
    if c = '"' then some ([], rest)
    else if c = '\\' then unquoteFrom? .backslash rest
    else if c = '\r' then none
    else prepend c (unquoteFrom? .plain rest)
  | .backslash, c :: rest =>
    match lettered? c with
    | some d => prepend d (unquoteFrom? .plain rest)
    | none =>
      if c = 'x' then unquoteFrom? .byte rest
      else if c = 'u' then unquoteFrom? .brace rest
      else none
  | .byte, c :: rest =>
    match hexValue? c with
    | some high => if high < 8 then unquoteFrom? (.byteLow high) rest else none
    | none => none
  | .byteLow high, c :: rest =>
    match hexValue? c with
    | some low => prepend (Char.ofNat (16 * high + low)) (unquoteFrom? .plain rest)
    | none => none
  | .brace, c :: rest => if c = '\x7b' then unquoteFrom? (.number 0 0) rest else none
  | .number digits value, c :: rest =>
    match hexValue? c with
    | some d =>
      if digits < 6 then unquoteFrom? (.number (digits + 1) (16 * value + d)) rest else none
    | none =>
      if c = '\x7d' ∧ 0 < digits ∧ value.isValidChar then
        prepend (Char.ofNat value) (unquoteFrom? .plain rest)
      else none

def unquote? : Text → Option (Text × Text)
  | '"' :: rest => unquoteFrom? .plain rest
  | _ => none

theorem hexValue?_digitChar : ∀ d < 16, hexValue? d.digitChar = some d := by decide

theorem lettered?_of_lookup (c letter : Char) (h : letterEscapes.lookup c = some letter) :
    lettered? letter = some c := by
  have hall : ∀ pair ∈ letterEscapes, lettered? pair.2 = some pair.1 := by decide
  obtain ⟨before, after, he, _⟩ := List.lookup_eq_some_iff.1 h
  exact hall (c, letter) (by rw [he]; simp)

theorem ne_of_lookup_eq_none (c d letter : Char) (h : letterEscapes.lookup c = none)
    (hm : (d, letter) ∈ letterEscapes) : c ≠ d :=
  bne_iff_ne.1 (List.lookup_eq_none_iff.1 h _ hm)

/-! ## One character -/

theorem unquoteFrom?_plain (c : Char) (rest : Text) (hq : c ≠ '"') (hb : c ≠ '\\') (hr : c ≠ '\r') :
    unquoteFrom? .plain (c :: rest) = prepend c (unquoteFrom? .plain rest) := by
  rw [unquoteFrom?, if_neg hq, if_neg hb, if_neg hr]

theorem unquoteFrom?_letter (c letter : Char) (rest : Text) (h : lettered? letter = some c) :
    unquoteFrom? .plain ('\\' :: letter :: rest) = prepend c (unquoteFrom? .plain rest) := by
  rw [unquoteFrom?, if_neg (by decide), if_pos rfl, unquoteFrom?, h]

theorem unquoteFrom?_digit (digits value d : Nat) (rest : Text) (hd : d < 16) (h : digits < 6) :
    unquoteFrom? (.number digits value) (d.digitChar :: rest) =
      unquoteFrom? (.number (digits + 1) (16 * value + d)) rest := by
  rw [unquoteFrom?, hexValue?_digitChar d hd]
  exact if_pos h

theorem unquoteFrom?_number_close (c : Char) (digits : Nat) (rest : Text) (h : 0 < digits) :
    unquoteFrom? (.number digits c.toNat) ('\x7d' :: rest) =
      prepend c (unquoteFrom? .plain rest) := by
  have hx : hexValue? '\x7d' = none := by decide
  rw [unquoteFrom?, hx]
  simp only [true_and, h, Char.ofNat_toNat]
  exact if_pos c.valid

theorem unquoteFrom?_toDigits (n : Nat) (h : n < 16 ^ 6) (rest : Text) :
    unquoteFrom? (.number 0 0) (Nat.toDigits 16 n ++ rest) =
      unquoteFrom? (.number (Nat.toDigits 16 n).length n) rest := by
  have hsix : (Nat.toDigits 16 n).length ≤ 6 :=
    (Nat.length_toDigits_le_iff (by decide) (by decide)).2 h
  induction n using Nat.strongRecOn generalizing rest with
  | ind n ih =>
    by_cases hn : n < 16
    · rw [Nat.toDigits_of_lt_base hn, List.singleton_append,
        unquoteFrom?_digit 0 0 n rest hn (by decide), Nat.mul_zero, Nat.zero_add, Nat.zero_add]
      rfl
    · -- The number without its last digit is smaller, and leaves room for that digit.
      rw [Nat.toDigits_of_base_le (by decide) (Nat.not_lt.1 hn), List.length_append,
        List.length_singleton] at hsix ⊢
      have hlast : n % 16 < 16 := Nat.mod_lt n (by decide)
      rw [List.append_assoc, List.singleton_append,
        ih (n / 16) (by omega) (by omega) _ (by omega),
        unquoteFrom?_digit _ _ _ _ hlast (by omega), Nat.div_add_mod]

theorem unquoteFrom?_escape (c : Char) (rest : Text) :
    unquoteFrom? .plain (escape c ++ rest) = prepend c (unquoteFrom? .plain rest) := by
  rw [escape]
  cases hl : letterEscapes.lookup c with
  | some letter => exact unquoteFrom?_letter c letter rest (lettered?_of_lookup c letter hl)
  | none =>
    by_cases hp : isPrintable c = true
    · rw [if_pos hp]
      exact unquoteFrom?_plain c rest (ne_of_lookup_eq_none c '"' '"' hl (by decide))
        (ne_of_lookup_eq_none c '\\' '\\' hl (by decide))
        (ne_of_lookup_eq_none c '\r' 'r' hl (by decide))
    · have hlt : c.toNat < 16 ^ 6 := Nat.lt_of_le_of_lt c.toNat_le_max (by decide)
      have hpos : 0 < (Nat.toDigits 16 c.toNat).length := Nat.length_toDigits_pos
      rw [if_neg hp, List.append_assoc, List.append_assoc]
      change unquoteFrom? (.number 0 0) (Nat.toDigits 16 c.toNat ++ '\x7d' :: rest) = _
      rw [unquoteFrom?_toDigits c.toNat hlt, unquoteFrom?_number_close c _ rest hpos]

/-! ## The whole literal -/

theorem unquoteFrom?_escapeLiteral (t rest : Text) :
    unquoteFrom? .plain (escapeLiteral t ++ '"' :: rest) = some (t, rest) := by
  induction t with
  | nil => rfl
  | cons c t ih =>
    rw [escapeLiteral, List.append_assoc]
    split
    case isTrue h =>
      obtain rfl : c = '\x00' := eq_of_beq (Bool.and_eq_true_iff.1 h).1
      change prepend '\x00' (unquoteFrom? .plain (escapeLiteral t ++ '"' :: rest)) = _
      rw [ih]
      rfl
    case isFalse =>
      rw [unquoteFrom?_escape, ih]
      rfl

theorem unquote?_literal (t rest : Text) : unquote? (literal t ++ rest) = some (t, rest) := by
  rw [literal, List.cons_append, List.cons_append, List.append_assoc]
  exact unquoteFrom?_escapeLiteral t rest

/-! ## Literals without numbers -/

/-- The characters that need no number: those that a reader can see, tabs and line ends. -/
def isPlain (c : Char) : Bool := isPrintable c || c == '\t' || c == '\n' || c == '\r'

def escapePlain (c : Char) : Text :=
  if c = '\\' ∨ c = '"' then ['\\', c]
  else if c = '\t' then ['\\', 't']
  else if c = '\n' then ['\\', 'n']
  else if c = '\r' then ['\\', 'r']
  else [c]

theorem escape_of_isPlain (c : Char) (h : isPlain c = true) : escape c = escapePlain c := by
  rw [escape]
  cases hl : letterEscapes.lookup c with
  | some letter =>
    obtain ⟨before, after, he, _⟩ := List.lookup_eq_some_iff.1 hl
    have hm : (c, letter) ∈ letterEscapes := by rw [he]; simp
    fin_cases hm
    · exact absurd h (by decide +kernel)
    all_goals rfl
  | none =>
    have hb : c ≠ '\\' := ne_of_lookup_eq_none c '\\' '\\' hl (by decide)
    have hq : c ≠ '"' := ne_of_lookup_eq_none c '"' '"' hl (by decide)
    have ht : c ≠ '\t' := ne_of_lookup_eq_none c '\t' 't' hl (by decide)
    have hn : c ≠ '\n' := ne_of_lookup_eq_none c '\n' 'n' hl (by decide)
    have hr : c ≠ '\r' := ne_of_lookup_eq_none c '\r' 'r' hl (by decide)
    have hp : isPrintable c = true := by simpa [isPlain, ht, hn, hr] using h
    simp only [hp, escapePlain, hb, hq, ht, hn, hr, or_self, if_true, if_false]

theorem literal_of_isPlain (t : Text) (h : ∀ c ∈ t, isPlain c = true) :
    literal t = '"' :: t.flatMap escapePlain ++ ['"'] := by
  have hnull : '\x00' ∉ t := fun hm => absurd (h _ hm) (by decide +kernel)
  rw [literal, escapeLiteral_eq_flatMap t hnull,
    List.flatMap_congr fun c hc => escape_of_isPlain c (h c hc)]

theorem unquoteFrom?_escapePlain (c : Char) (rest : Text) :
    unquoteFrom? .plain (escapePlain c ++ rest) = prepend c (unquoteFrom? .plain rest) := by
  rw [escapePlain]
  split_ifs with hs ht hn hr
  · rcases hs with rfl | rfl
    · exact unquoteFrom?_letter '\\' '\\' rest rfl
    · exact unquoteFrom?_letter '"' '"' rest rfl
  · exact ht ▸ unquoteFrom?_letter '\t' 't' rest rfl
  · exact hn ▸ unquoteFrom?_letter '\n' 'n' rest rfl
  · exact hr ▸ unquoteFrom?_letter '\r' 'r' rest rfl
  · exact unquoteFrom?_plain c rest (fun e => hs (.inr e)) (fun e => hs (.inl e)) hr

theorem unquote?_escapePlain (t rest : Text) :
    unquote? ('"' :: t.flatMap escapePlain ++ '"' :: rest) = some (t, rest) := by
  change unquoteFrom? .plain (t.flatMap escapePlain ++ '"' :: rest) = _
  induction t with
  | nil => rfl
  | cons c t ih =>
    rw [List.flatMap_cons, List.append_assoc, unquoteFrom?_escapePlain, ih]
    rfl

end CommandGrammar.Text
