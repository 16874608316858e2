import Mathlib
import CommandGrammar.Proofs.Orders
import CommandGrammar.Proofs.Refusal

set_option autoImplicit false

namespace CommandGrammar.Parameter

section Value

variable (parameter : Parameter) (hk : parameter.kind = .value) {α : Type} (type : Scalar α)
include hk

theorem readWithin_of_read_error (min max : α) (error : ValueError)
    (h : parameter.read type = .error error) :
    ∃ value label, error = .unconvertible parameter.name.long value label ∧
      parameter.readWithin type min max =
        .error (.rejected parameter.name.long value (.unconvertible label)) := by
  have he := ((read_eq_error_iff parameter hk type error).1 h).2
  refine ⟨parameter.stored, type.label, he, ?_⟩
  rw [readWithin_eq_read, h, he]

theorem readWithin_of_read_ok (min max value : α) (h : parameter.read type = .ok value)
    (hb : ¬ (type.le min value = true ∧ type.le value max = true)) :
    parameter.readWithin type min max =
      .error (.rejected parameter.name.long parameter.stored
        (.outOfRange (type.render min) (type.render max))) :=
  (readWithin_eq_error_iff parameter hk type min max _).2
    (.inr ⟨value, (read_eq_ok_iff parameter hk type value).1 h, hb, rfl⟩)

/-- Values are between bounds only if they compare with both, and only if the bounds are in order. -/
theorem readWithin_of_unordered (min max value : α) (h : parameter.read type = .ok value)
    (hu : ¬ type.Comparable min value ∨ ¬ type.Comparable value max ∨
      type.Transitive ∧ ¬ type.le min max = true) :
    parameter.readWithin type min max =
      .error (.rejected parameter.name.long parameter.stored
        (.outOfRange (type.render min) (type.render max))) := by
  apply readWithin_of_read_ok parameter hk type min max value h
  rintro ⟨hmin, hmax⟩
  rcases hu with hu | hu | ⟨ht, hu⟩
  · exact hu (.inl hmin)
  · exact hu (.inl hmax)
  · exact hu (ht min value max hmin hmax)

theorem readWithin_common (h : type.Linear) (a b c d one other : α) :
    (parameter.readWithin type a b = .ok one ∧ parameter.readWithin type c d = .ok other) ↔
      one = other ∧
        parameter.readWithin type (type.greater a c) (type.lesser b d) = .ok one := by
  simp only [readWithin_eq_ok_iff parameter hk, h.greater_le_iff type, h.le_lesser_iff type]
  constructor
  · rintro ⟨⟨hr, ha, hb⟩, hr', hc, hd⟩
    obtain rfl := Except.ok.inj (hr.symm.trans hr')
    exact ⟨rfl, hr, ⟨ha, hc⟩, hb, hd⟩
  · rintro ⟨rfl, hr, ⟨ha, hc⟩, hb, hd⟩
    exact ⟨⟨hr, ha, hb⟩, hr, hc, hd⟩

theorem readWithin_widen (h : type.Transitive) (min max low high value : α)
    (hl : type.le low min = true) (hh : type.le max high = true)
    (hr : parameter.readWithin type min max = .ok value) :
    parameter.readWithin type low high = .ok value := by
  rw [readWithin_eq_ok_iff parameter hk] at hr ⊢
  obtain ⟨hr, hmin, hmax⟩ := hr
  exact ⟨hr, h low min value hl hmin, h value max high hmax hh⟩

/-- Reading within bounds finds what reading finds between them, in any order of the type. It fails
    as reading does, or else because the value is out of range: always so if it does not compare
    with a bound, or if the bounds are not in order. In a linear order two ranges accept together
    what the range from the greater lower to the lesser upper bound accepts. -/
theorem readWithin_iff_between :
    (∀ min max value, parameter.readWithin type min max = .ok value ↔
      parameter.read type = .ok value ∧ type.le min value = true ∧ type.le value max = true) ∧
    (∀ min max error, parameter.read type = .error error →
      ∃ value label, error = .unconvertible parameter.name.long value label ∧
        parameter.readWithin type min max =
          .error (.rejected parameter.name.long value (.unconvertible label))) ∧
    (∀ min max value, parameter.read type = .ok value →
      ¬ (type.le min value = true ∧ type.le value max = true) →
      parameter.readWithin type min max =
        .error (.rejected parameter.name.long parameter.stored
          (.outOfRange (type.render min) (type.render max)))) ∧
    (∀ min max value, parameter.read type = .ok value →
      (¬ type.Comparable min value ∨ ¬ type.Comparable value max ∨
        type.Transitive ∧ ¬ type.le min max = true) →
      parameter.readWithin type min max =
        .error (.rejected parameter.name.long parameter.stored
          (.outOfRange (type.render min) (type.render max)))) ∧
    (type.Linear → ∀ a b c d one other,
      (parameter.readWithin type a b = .ok one ∧ parameter.readWithin type c d = .ok other) ↔
        one = other ∧
          parameter.readWithin type (type.greater a c) (type.lesser b d) = .ok one) ∧
    (type.Transitive → ∀ min max low high value, type.le low min = true →
      type.le max high = true → parameter.readWithin type min max = .ok value →
      parameter.readWithin type low high = .ok value) :=
  ⟨readWithin_eq_ok_iff parameter hk type, readWithin_of_read_error parameter hk type,
    readWithin_of_read_ok parameter hk type, readWithin_of_unordered parameter hk type,
    readWithin_common parameter hk type, readWithin_widen parameter hk type⟩

end Value

theorem readWithin_iff_between_twoTypes :
    let level : Parameter := .value ⟨"level".toList, some 'l'⟩ none
    let seven : Parameter := level.resolve "+07".toList
    let half : Parameter := level.resolve "0.5".toList
    let type : Scalar Int := .integer .int64
    let float : Scalar BinaryFloat := .float .binary64
    let zero : BinaryFloat := .finite false 0
    let outOfRange (value min max : Text) : Except ValueError BinaryFloat :=
      .error (.rejected "level".toList value (.outOfRange min max))
    level.kind = .value ∧
      seven.readWithin type 7 7 = .ok 7 ∧
      seven.readWithin type 8 10 =
        .error (.rejected "level".toList "+07".toList (.outOfRange "8".toList "10".toList)) ∧
      half.readWithin type 0 10 =
        .error (.rejected "level".toList "0.5".toList (.unconvertible "i64".toList)) ∧
      (seven.readWithin type 0 7 = .ok 7 ∧ seven.readWithin type 7 10 = .ok 7) ∧
      type.greater 0 7 = 7 ∧ type.lesser 7 10 = 7 ∧
      seven.readWithin type 0 10 = .ok 7 ∧
      (level.resolve "NaN".toList).readWithin float zero (.infinite false) =
        outOfRange "NaN".toList "0".toList "inf".toList ∧
      half.readWithin float zero .nan = outOfRange "0.5".toList "0".toList "NaN".toList ∧
      half.readWithin float (.infinite false) zero =
        outOfRange "0.5".toList "inf".toList "0".toList := by
  intro level seven half type float zero outOfRange
  obtain ⟨hok, _, hout, _, hcommon, hwiden⟩ := readWithin_iff_between seven rfl type
  obtain ⟨_, hunread, _⟩ := readWithin_iff_between half rfl type
  obtain ⟨_, _, _, hnan, _⟩ :=
    readWithin_iff_between (level.resolve "NaN".toList) rfl float
  obtain ⟨_, _, _, hunordered, _⟩ := readWithin_iff_between half rfl float
  have hlinear : type.Linear := (ScalarType.linear_iff .int64).2 ⟨nofun, nofun⟩
  have hfloat : float.Transitive := ScalarType.transitive .float64
  have hseven : seven.readWithin type 7 7 = .ok 7 := (hok 7 7 7).2 ⟨rfl, rfl, rfl⟩
  obtain ⟨_, _, he, hwords⟩ := hunread 0 10 (.unconvertible "level".toList "0.5".toList
    "i64".toList) rfl
  cases he
  refine ⟨rfl, hseven, hout 8 10 7 rfl (by decide), hwords,
    (hcommon hlinear 0 7 7 10 7 7).2 ⟨rfl, hseven⟩, rfl, rfl,
    hwiden hlinear.trans 7 7 0 10 7 rfl rfl hseven, ?_, ?_, ?_⟩
  · refine hnan zero (.infinite false) .nan rfl (.inl ?_)
    rw [Scalar.comparable_float_iff]
    exact fun h => h.2 rfl
  · refine hunordered zero .nan (.finite false (2 ^ 1073)) (by decide +kernel) (.inr (.inl ?_))
    rw [Scalar.comparable_float_iff]
    exact fun h => h.2 rfl
  · exact hunordered (.infinite false) zero (.finite false (2 ^ 1073)) (by decide +kernel)
      (.inr (.inr ⟨hfloat, by decide⟩))

end CommandGrammar.Parameter
