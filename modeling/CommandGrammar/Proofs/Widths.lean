import Mathlib
import CommandGrammar.Proofs.Bounds
import CommandGrammar.Proofs.Numerals

set_option autoImplicit false

namespace CommandGrammar

namespace IntegerType

variable (narrow wide : IntegerType) (hs : narrow.signed = wide.signed)
  (hw : narrow.width.bits ≤ wide.width.bits)
include hs hw

theorem reach_le : narrow.reach ≤ wide.reach := by
  unfold reach
  rw [hs]
  apply Nat.pow_le_pow_right (by omega)
  split <;> omega

theorem limits_within : wide.least ≤ narrow.least ∧ narrow.greatest ≤ wide.greatest := by
  have hr := reach_le narrow wide hs hw
  unfold least greatest
  rw [hs]
  constructor
  · split
    · simp only [Int.ofNat_eq_natCast]
      omega
    · exact le_refl 0
  · simp only [Int.ofNat_eq_natCast]
    omega

end IntegerType

namespace Parameter

section Value

variable (parameter : Parameter) (hk : parameter.kind = .value)
include hk

theorem read_integer_eq_ok_iff (type : IntegerType) (n : Int) :
    parameter.read (.integer type) = .ok n ↔
      Integer.Spells type.signed n parameter.stored ∧ type.least ≤ n ∧ n ≤ type.greatest :=
  (read_eq_ok_iff parameter hk (.integer type) n).trans
    (type.read?_eq_some_iff_spells parameter.stored n)

theorem read_integer_eq_error_iff (type : IntegerType) :
    parameter.read (.integer type) =
        .error (.unconvertible parameter.name.long parameter.stored type.label) ↔
      ¬ ∃ n, Integer.Spells type.signed n parameter.stored ∧ type.least ≤ n ∧
        n ≤ type.greatest := by
  rw [read_eq_error_iff parameter hk, ← Option.not_isSome_iff_eq_none,
    Option.isSome_iff_exists]
  simp only [Scalar.integer, type.read?_eq_some_iff_spells, and_true]

/-- A number beyond the limits is an error, since its text spells no other number. -/
theorem read_integer_of_beyond (type : IntegerType) (n : Int)
    (h : Integer.Spells type.signed n parameter.stored)
    (hn : n < type.least ∨ type.greatest < n) :
    parameter.read (.integer type) =
      .error (.unconvertible parameter.name.long parameter.stored type.label) := by
  rw [read_integer_eq_error_iff parameter hk]
  rintro ⟨m, hm, hl, hg⟩
  obtain rfl := Integer.spells_unique type.signed n m parameter.stored h hm
  omega

theorem read_integer_zeros (type : IntegerType) (n : Nat) (digits : Text)
    (h : Decimal.Spells n digits) (sign : Text) (hs : sign = [] ∨ sign = ['+'] ∨ sign = ['-'])
    (zeros : Nat) (m : Int) :
    (parameter.resolve (sign ++ (List.replicate zeros '0' ++ digits))).read (.integer type) =
        .ok m ↔
      (parameter.resolve (sign ++ digits)).read (.integer type) = .ok m := by
  rw [read_integer_eq_ok_iff (parameter.resolve _) hk,
    read_integer_eq_ok_iff (parameter.resolve _) hk, stored_resolve, stored_resolve,
    Integer.spells_iff, Integer.spells_iff, Integer.read?_zeros type.signed n digits h sign hs]

theorem read_narrow_iff_readWithin_wide (narrow wide : IntegerType)
    (hs : narrow.signed = wide.signed) (hw : narrow.width.bits ≤ wide.width.bits) (n : Int) :
    parameter.read (.integer narrow) = .ok n ↔
      parameter.readWithin (.integer wide) narrow.least narrow.greatest = .ok n := by
  have hle : ∀ a b : Int, (Scalar.integer wide).le a b = true ↔ a ≤ b :=
    fun _ _ => decide_eq_true_iff
  obtain ⟨hleast, hgreatest⟩ := narrow.limits_within wide hs hw
  rw [readWithin_eq_ok_iff parameter hk, hle, hle, read_integer_eq_ok_iff parameter hk,
    read_integer_eq_ok_iff parameter hk, hs]
  constructor
  · rintro ⟨h, hl, hg⟩
    exact ⟨⟨h, hleast.trans hl, hg.trans hgreatest⟩, hl, hg⟩
  · rintro ⟨⟨h, _, _⟩, hl, hg⟩
    exact ⟨h, hl, hg⟩

/-- An integer type reads the numbers in its range from the texts that spell them, with any zeros
    before them, and from every other text an error. A narrower type of the same sign reads what the
    type reads between the limits of the narrower one, which are numbers of the type. -/
theorem read_integer_exact (type : IntegerType) :
    (∀ n, parameter.read (.integer type) = .ok n ↔
      Integer.Spells type.signed n parameter.stored ∧ type.least ≤ n ∧ n ≤ type.greatest) ∧
    (parameter.read (.integer type) =
        .error (.unconvertible parameter.name.long parameter.stored type.label) ↔
      ¬ ∃ n, Integer.Spells type.signed n parameter.stored ∧ type.least ≤ n ∧
        n ≤ type.greatest) ∧
    (∀ n, Integer.Spells type.signed n parameter.stored →
      n < type.least ∨ type.greatest < n →
      parameter.read (.integer type) =
        .error (.unconvertible parameter.name.long parameter.stored type.label)) ∧
    (∀ n digits, Decimal.Spells n digits → ∀ sign : Text,
      sign = [] ∨ sign = ['+'] ∨ sign = ['-'] → ∀ zeros m,
        (parameter.resolve (sign ++ (List.replicate zeros '0' ++ digits))).read (.integer type) =
            .ok m ↔
          (parameter.resolve (sign ++ digits)).read (.integer type) = .ok m) ∧
    ∀ narrow : IntegerType, narrow.signed = type.signed →
      narrow.width.bits ≤ type.width.bits →
      (type.least ≤ narrow.least ∧ narrow.greatest ≤ type.greatest) ∧
      ∀ n, parameter.read (.integer narrow) = .ok n ↔
        parameter.readWithin (.integer type) narrow.least narrow.greatest = .ok n := by
  refine ⟨read_integer_eq_ok_iff parameter hk type, read_integer_eq_error_iff parameter hk type,
    read_integer_of_beyond parameter hk type, read_integer_zeros parameter hk type, ?_⟩
  intro narrow hs hw
  exact ⟨narrow.limits_within type hs hw,
    read_narrow_iff_readWithin_wide parameter hk narrow type hs hw⟩

end Value

/-- The least number of eight bits, with zeros and from a wide type; the number after the greatest;
    and a sign that a type without sign does not have, even on zero. -/
theorem read_integer_exact_limits :
    let level : Parameter := .value ⟨"level".toList, none⟩ none
    let int8 : IntegerType := ⟨true, .w8⟩
    let int128 : IntegerType := ⟨true, .w128⟩
    let uint8 : IntegerType := ⟨false, .w8⟩
    let refused (value type : Text) : Except ValueError Int :=
      .error (.unconvertible "level".toList value type)
    level.kind = .value ∧ int8.least = -128 ∧ int8.greatest = 127 ∧
      (level.resolve "-128".toList).read (.integer int8) = .ok (-128) ∧
      (level.resolve "-000128".toList).read (.integer int8) = .ok (-128) ∧
      (level.resolve "-128".toList).readWithin (.integer int128) int8.least int8.greatest =
        .ok (-128) ∧
      (level.resolve "+128".toList).read (.integer int8) = refused "+128".toList "i8".toList ∧
      (level.resolve "-0".toList).read (.integer uint8) = refused "-0".toList "u8".toList := by
  have hi8 : (⟨true, .w8⟩ : IntegerType).label = "i8".toList := rfl
  have hu8 : (⟨false, .w8⟩ : IntegerType).label = "u8".toList := rfl
  intro level int8 int128 uint8 refused
  obtain ⟨hok, _, _, hzeros, _⟩ :=
    read_integer_exact (level.resolve "-128".toList) rfl int8
  obtain ⟨_, _, _, _, hwide⟩ := read_integer_exact (level.resolve "-128".toList) rfl int128
  obtain ⟨_, _, hbeyond, _⟩ := read_integer_exact (level.resolve "+128".toList) rfl int8
  obtain ⟨_, herror, _⟩ := read_integer_exact (level.resolve "-0".toList) rfl uint8
  have hleast : (level.resolve "-128".toList).read (.integer int8) = .ok (-128) :=
    (hok (-128)).2 ⟨(Integer.spells_iff true (-128) _).2 rfl, by decide, by decide⟩
  have hdigits : Decimal.Spells 128 "128".toList := (Decimal.spells_iff 128 _).2 rfl
  rw [hi8] at hbeyond
  rw [hu8] at herror
  refine ⟨rfl, rfl, rfl, hleast, ?_, ?_, ?_, ?_⟩
  · exact (hzeros 128 _ hdigits ['-'] (.inr (.inr rfl)) 3 (-128)).2 hleast
  · exact ((hwide int8 rfl (by decide)).2 (-128)).1 hleast
  · exact hbeyond 128 ((Integer.spells_iff true 128 _).2 rfl) (.inr (by decide))
  · refine herror.2 ?_
    rintro ⟨n, hn, _⟩
    rw [Integer.spells_iff] at hn
    cases hn

end Parameter
end CommandGrammar
