import Mathlib
import CommandGrammar.Number.Integer

set_option autoImplicit false

namespace CommandGrammar

namespace Decimal

/-- Digits in base ten, the last one last. -/
inductive Spells : Nat → Text → Prop
  | digit (d : Nat) (hd : d < 10) : Spells d [d.digitChar]
  | more (n d : Nat) (digits : Text) (h : Spells n digits) (hd : d < 10) :
      Spells (10 * n + d) (digits ++ [d.digitChar])

theorem exists_digitChar (c : Char) (h : c.isDigit = true) : ∃ d < 10, c = d.digitChar := by
  simp only [Char.isDigit, Bool.and_eq_true, decide_eq_true_eq] at h
  have hlo : 48 ≤ c.toNat := UInt32.le_iff_toNat_le.1 h.1
  have hhi : c.toNat ≤ 57 := UInt32.le_iff_toNat_le.1 h.2
  have hd : c.toNat - 48 < 10 := by omega
  refine ⟨c.toNat - 48, hd, Char.toNat_inj.1 ?_⟩
  rw [Nat.toNat_digitChar_of_lt_ten hd]
  omega

theorem all_isDigit_of_spells (n : Nat) (digits : Text) (h : Spells n digits) :
    ∀ c ∈ digits, c.isDigit = true := by
  induction h with
  | digit d hd => simp [Nat.isDigit_digitChar, hd]
  | more n d digits _ hd ih =>
    intro c hc
    rcases List.mem_append.1 hc with hm | hm
    · exact ih c hm
    · rw [List.mem_singleton.1 hm, Nat.isDigit_digitChar, decide_eq_true hd]

theorem ne_nil_of_spells (n : Nat) (digits : Text) (h : Spells n digits) : digits ≠ [] := by
  cases h with
  | digit d hd => exact List.cons_ne_nil _ _
  | more n d digits _ hd => simp

theorem value_of_spells (n : Nat) (digits : Text) (h : Spells n digits) :
    Nat.ofDigitChars 10 digits 0 = n := by
  induction h with
  | digit d hd => rw [Nat.ofDigitChars_cons_digitChar_of_lt_ten hd, Nat.ofDigitChars_nil]; omega
  | more n d digits _ hd ih =>
    rw [Nat.ofDigitChars_append, ih, Nat.ofDigitChars_cons_digitChar_of_lt_ten hd,
      Nat.ofDigitChars_nil]

theorem spells_of_all_isDigit (digits : Text) (hn : digits ≠ [])
    (hd : ∀ c ∈ digits, c.isDigit = true) : Spells (Nat.ofDigitChars 10 digits 0) digits := by
  induction digits using List.reverseRecOn with
  | nil => exact absurd rfl hn
  | append_singleton front c ih =>
    obtain ⟨d, hlt, rfl⟩ := exists_digitChar c (hd c (by simp))
    rw [Nat.ofDigitChars_append, Nat.ofDigitChars_cons_digitChar_of_lt_ten hlt,
      Nat.ofDigitChars_nil]
    by_cases hf : front = []
    · subst hf
      rw [Nat.ofDigitChars_nil, Nat.mul_zero, Nat.zero_add]
      exact .digit d hlt
    · exact .more _ d front (ih hf fun c hc => hd c (List.mem_append_left _ hc)) hlt

theorem spells_iff (n : Nat) (t : Text) : Spells n t ↔ natural? t = some n := by
  have hall : t.all Char.isDigit = true ↔ ∀ c ∈ t, c.isDigit = true := List.all_eq_true
  rw [natural?, Option.ite_none_right_eq_some, hall]
  constructor
  · intro h
    exact ⟨⟨ne_nil_of_spells n t h, all_isDigit_of_spells n t h⟩,
      congrArg some (value_of_spells n t h)⟩
  · rintro ⟨⟨hn, hd⟩, hv⟩
    cases hv
    exact spells_of_all_isDigit t hn hd

theorem spells_digits (n : Nat) : Spells n (digits n) :=
  (spells_iff n (digits n)).2 (natural?_digits n)

theorem spells_cons_zero (n : Nat) (digits : Text) (h : Spells n digits) :
    Spells n ('0' :: digits) := by
  induction h with
  | digit d hd =>
    have h := Spells.more 0 d ['0'] (.digit 0 (by omega)) hd
    rwa [Nat.mul_zero, Nat.zero_add] at h
  | more n d digits _ hd ih => exact .more n d ('0' :: digits) ih hd

theorem spells_zeros (n : Nat) (digits : Text) (h : Spells n digits) (zeros : Nat) :
    Spells n (List.replicate zeros '0' ++ digits) := by
  induction zeros with
  | zero => exact h
  | succ zeros ih => exact spells_cons_zero n _ ih

end Decimal

namespace Integer

inductive Spells (minus : Bool) : Int → Text → Prop
  | unsigned (n : Nat) (digits : Text) (h : Decimal.Spells n digits) : Spells minus n digits
  | plus (n : Nat) (digits : Text) (h : Decimal.Spells n digits) : Spells minus n ('+' :: digits)
  | minus (n : Nat) (digits : Text) (h : Decimal.Spells n digits) (hm : minus = true) :
      Spells minus (-n) ('-' :: digits)

theorem read?_unsigned (minus : Bool) (n : Nat) (digits : Text) (h : Decimal.Spells n digits) :
    read? minus digits = some (n : Int) := by
  have hd := Decimal.all_isDigit_of_spells n digits h
  rw [read?.eq_def]
  split
  · exact absurd (hd '+' List.mem_cons_self) (by decide)
  · exact absurd (hd '-' List.mem_cons_self) (by decide)
  · rw [(Decimal.spells_iff n digits).1 h]
    rfl

theorem read?_plus (minus : Bool) (digits : Text) :
    read? minus ('+' :: digits) = (Decimal.natural? digits).map Int.ofNat := rfl

theorem read?_minus (minus : Bool) (digits : Text) :
    read? minus ('-' :: digits) =
      if minus then (Decimal.natural? digits).map fun n => -Int.ofNat n else none := rfl

theorem spells_iff (minus : Bool) (n : Int) (t : Text) :
    Spells minus n t ↔ read? minus t = some n := by
  constructor
  · intro h
    cases h with
    | unsigned n _ h => exact read?_unsigned minus n t h
    | plus n digits h =>
      rw [read?_plus, (Decimal.spells_iff n digits).1 h]
      rfl
    | minus n digits h hm =>
      subst hm
      rw [read?_minus, (Decimal.spells_iff n digits).1 h]
      rfl
  · intro h
    rw [read?.eq_def] at h
    split at h
    · obtain ⟨m, hm, rfl⟩ := Option.map_eq_some_iff.1 h
      exact .plus m _ ((Decimal.spells_iff _ _).2 hm)
    · obtain ⟨hminus, h⟩ := Option.ite_none_right_eq_some.1 h
      obtain ⟨m, hm, rfl⟩ := Option.map_eq_some_iff.1 h
      exact .minus m _ ((Decimal.spells_iff _ _).2 hm) hminus
    · obtain ⟨m, hm, rfl⟩ := Option.map_eq_some_iff.1 h
      exact .unsigned m _ ((Decimal.spells_iff _ _).2 hm)

/-- Zeros before the digits do not change what is read, whatever sign stands before them. -/
theorem read?_zeros (minus : Bool) (n : Nat) (digits : Text) (h : Decimal.Spells n digits)
    (sign : Text) (hs : sign = [] ∨ sign = ['+'] ∨ sign = ['-']) (zeros : Nat) :
    read? minus (sign ++ (List.replicate zeros '0' ++ digits)) = read? minus (sign ++ digits) := by
  have hz := Decimal.spells_zeros n digits h zeros
  have hn : Decimal.natural? (List.replicate zeros '0' ++ digits) = Decimal.natural? digits :=
    ((Decimal.spells_iff n _).1 hz).trans ((Decimal.spells_iff n _).1 h).symm
  rcases hs with rfl | rfl | rfl
  · rw [List.nil_append, List.nil_append, read?_unsigned minus n _ hz, read?_unsigned minus n _ h]
  · rw [List.singleton_append, List.singleton_append, read?_plus, read?_plus, hn]
  · rw [List.singleton_append, List.singleton_append, read?_minus, read?_minus, hn]

theorem spells_unique (minus : Bool) (n m : Int) (t : Text) (hn : Spells minus n t)
    (hm : Spells minus m t) : n = m := by
  rw [spells_iff] at hn hm
  exact Option.some.inj (hn.symm.trans hm)

theorem notMem_of_spells (minus : Bool) (n : Int) (t : Text) (h : Spells minus n t) (c : Char)
    (hd : c.isDigit = false) (hp : c ≠ '+') (hm : c ≠ '-') : c ∉ t := by
  have hn : ∀ n digits, Decimal.Spells n digits → c ∉ digits := by
    intro n digits h hc
    rw [Decimal.all_isDigit_of_spells n digits h c hc] at hd
    cases hd
  cases h with
  | unsigned n _ h => exact hn n t h
  | plus n digits h => exact List.not_mem_cons_of_ne_of_not_mem hp (hn n digits h)
  | minus n digits h => exact List.not_mem_cons_of_ne_of_not_mem hm (hn n digits h)

theorem ne_nil_of_spells (minus : Bool) (n : Int) (t : Text) (h : Spells minus n t) : t ≠ [] := by
  cases h with
  | unsigned n _ h => exact Decimal.ne_nil_of_spells n t h
  | plus => exact List.cons_ne_nil _ _
  | minus => exact List.cons_ne_nil _ _

theorem spells_render (minus : Bool) (n : Int) (h : n < 0 → minus = true) :
    Spells minus n (render n) := by
  cases n with
  | ofNat n => exact .unsigned n _ (Decimal.spells_digits n)
  | negSucc n => exact .minus (n + 1) _ (Decimal.spells_digits (n + 1)) (h (Int.negSucc_lt_zero n))

end Integer

theorem IntegerType.read?_eq_some_iff_spells (type : IntegerType) (t : Text) (n : Int) :
    type.read? t = some n ↔
      Integer.Spells type.signed n t ∧ type.least ≤ n ∧ n ≤ type.greatest := by
  rw [read?_eq_some_iff, Integer.spells_iff]

theorem IntegerType.spells_render (type : IntegerType) (n : Int) (h : type.least ≤ n) :
    Integer.Spells type.signed n (Integer.render n) := by
  apply Integer.spells_render
  intro hn
  cases hs : type.signed with
  | true => rfl
  | false =>
    rw [least, hs] at h
    exact absurd h (Int.not_le.2 hn)

theorem IntegerType.read?_render (type : IntegerType) (n : Int) (hl : type.least ≤ n)
    (hg : n ≤ type.greatest) : type.read? (Integer.render n) = some n :=
  (type.read?_eq_some_iff_spells _ n).2 ⟨type.spells_render n hl, hl, hg⟩

end CommandGrammar
