import Mathlib
import CommandGrammar.Parameter.Value
import CommandGrammar.Proofs.Reachability

set_option autoImplicit false

namespace CommandGrammar
open Relation (ReflTransGen)

inductive Accessor : Type → Type 1 where
  | text : Accessor Text
  | switch : Accessor Bool
  | one {α : Type} (type : Scalar α) : Accessor α
  | within {α : Type} (type : Scalar α) (min max : α) : Accessor α
  | list {α : Type} (type : Scalar α) : Accessor (List α)
  | choice {α : Type} (choices : List (Text × α)) : Accessor α

def ValueError.name : ValueError → Text
  | .flagAsValue name => name
  | .unconvertible name _ _ => name
  | .rejected name _ _ => name
  | .unconvertibleElement name _ _ _ => name

/-- The whole text that could not be used, in the errors that hold it. -/
def ValueError.value? : ValueError → Option Text
  | .flagAsValue _ => none
  | .unconvertible _ value _ => some value
  | .rejected _ value _ => some value
  | .unconvertibleElement _ _ _ _ => none

namespace Scalar

def FirstUnread {α : Type} (type : Scalar α) (texts : List Text) (place : Nat) (text : Text) :
    Prop :=
  texts[place]? = some text ∧ type.read? text = none ∧
    ∀ earlier ∈ texts.take place, type.read? earlier ≠ none

variable {α : Type} (type : Scalar α)

theorem firstUnread_cons_of_none (first : Text) (rest : List Text) (place : Nat) (text : Text)
    (h : type.read? first = none) :
    type.FirstUnread (first :: rest) place text ↔ place = 0 ∧ text = first := by
  cases place with
  | zero =>
    simp only [FirstUnread, List.getElem?_cons_zero, Option.some.injEq, List.take_zero, true_and]
    constructor
    · rintro ⟨rfl, _, _⟩
      rfl
    · rintro rfl
      exact ⟨rfl, h, fun _ hm => by cases hm⟩
  | succ place => simp [FirstUnread, h]

theorem firstUnread_cons_of_some (first : Text) (rest : List Text) (place : Nat) (text : Text)
    (value : α) (h : type.read? first = some value) :
    type.FirstUnread (first :: rest) place text ↔
      ∃ later, place = later + 1 ∧ type.FirstUnread rest later text := by
  cases place with
  | zero =>
    refine iff_of_false ?_ ?_
    · rintro ⟨hf, hn, _⟩
      obtain rfl : first = text := Option.some.inj hf
      rw [h] at hn
      cases hn
    · rintro ⟨later, he, _⟩
      cases he
  | succ place => simp [FirstUnread, h]

end Scalar

namespace Accessor

def run {α : Type} (parameter : Parameter) : Accessor α → Except ValueError α
  | .text => parameter.text
  | .switch => parameter.readSwitch
  | .one type => parameter.read type
  | .within type min max => parameter.readWithin type min max
  | .list type => parameter.readList type
  | .choice choices => parameter.readChoice choices

/-- What is wrong with a stored text that is read in this way, and the error that says so. -/
def Refuses (name stored : Text) (error : ValueError) : {α : Type} → Accessor α → Prop
  | _, .text => False
  | _, .switch =>
    (stored ∉ Parameter.truths ∧ stored ∉ Parameter.falsehoods) ∧
      error = .unconvertible name stored "bool".toList
  | _, .one type => type.read? stored = none ∧ error = .unconvertible name stored type.label
  | _, .within type min max =>
    (type.read? stored = none ∧ error = .rejected name stored (.unconvertible type.label)) ∨
      ∃ value, type.read? stored = some value ∧
        ¬ (type.le min value = true ∧ type.le value max = true) ∧
          error = .rejected name stored (.outOfRange (type.render min) (type.render max))
  | _, .list type =>
    ∃ place element, type.FirstUnread (Parameter.elements stored) place element ∧
      error = .unconvertibleElement name place element type.label
  | _, .choice choices =>
    (∀ choice ∈ choices, choice.1 ≠ stored) ∧ error = .rejected name stored .unmapped

/-- An error for a value names the parameter, holds no other text than the stored one, and is not
    the error for flags. -/
theorem Refuses.name_and_value {α : Type} (name stored : Text) (error : ValueError)
    (accessor : Accessor α) (h : accessor.Refuses name stored error) :
    error.name = name ∧ (∀ value, error.value? = some value → value = stored) ∧
      ∀ other, error ≠ .flagAsValue other := by
  have hvalue : ∀ value, some stored = some value → value = stored :=
    fun value he => (Option.some.inj he).symm
  cases accessor with
  | text => exact h.elim
  | switch =>
    obtain ⟨_, rfl⟩ := h
    exact ⟨rfl, hvalue, nofun⟩
  | one type =>
    obtain ⟨_, rfl⟩ := h
    exact ⟨rfl, hvalue, nofun⟩
  | within type min max =>
    rcases h with ⟨_, rfl⟩ | ⟨_, _, _, rfl⟩
    · exact ⟨rfl, hvalue, nofun⟩
    · exact ⟨rfl, hvalue, nofun⟩
  | list type =>
    obtain ⟨_, _, _, rfl⟩ := h
    exact ⟨rfl, nofun, nofun⟩
  | choice choices =>
    obtain ⟨_, rfl⟩ := h
    exact ⟨rfl, hvalue, nofun⟩

end Accessor

namespace Parameter

variable (parameter : Parameter)

theorem exists_reading {α : Type} (accessor : Accessor α) :
    ∃ use, accessor.run parameter = parameter.reading use := by
  cases accessor with
  | text => exact ⟨_, text.eq_def parameter⟩
  | switch => exact ⟨_, readSwitch.eq_def parameter⟩
  | one type => exact ⟨_, read.eq_def parameter type⟩
  | within type min max => exact ⟨_, readWithin.eq_def parameter type min max⟩
  | list type => exact ⟨_, readList.eq_def parameter type⟩
  | choice choices => exact ⟨_, readChoice.eq_def parameter choices⟩

theorem run_of_flag (hk : parameter.kind = .flag) {α : Type} (accessor : Accessor α) :
    accessor.run parameter = .error (.flagAsValue parameter.name.long) := by
  obtain ⟨use, hu⟩ := parameter.exists_reading accessor
  rw [hu, reading.eq_def, hk]

/-- Reading within bounds is reading, with its error in other words, and then comparing. -/
theorem readWithin_eq_read {α : Type} (type : Scalar α) (min max : α) :
    parameter.readWithin type min max =
      match parameter.read type with
      | .error (.unconvertible name value label) =>
        .error (.rejected name value (.unconvertible label))
      | .error error => .error error
      | .ok value =>
        if type.le min value && type.le value max then .ok value
        else
          .error (.rejected parameter.name.long parameter.stored
            (.outOfRange (type.render min) (type.render max))) := by
  rw [readWithin, read, reading.eq_def, reading.eq_def]
  cases parameter.kind with
  | flag => rfl
  | value => cases type.read? parameter.stored <;> rfl

/-- Reading elements stops at the first one that is no value, and tells its place. -/
theorem readElements_eq_error_iff {α : Type} (type : Scalar α) (start : Nat) (texts : List Text)
    (bad : Nat × Text) :
    readElements type start texts = .error bad ↔
      ∃ place, bad.1 = start + place ∧ type.FirstUnread texts place bad.2 := by
  induction texts generalizing start with
  | nil => simp [readElements, Scalar.FirstUnread]
  | cons text rest ih =>
    cases hr : type.read? text with
    | none =>
      simp only [readElements, hr, type.firstUnread_cons_of_none _ _ _ _ hr]
      constructor
      · rintro ⟨⟩
        exact ⟨0, rfl, rfl, rfl⟩
      · rintro ⟨_, hs, rfl, ht⟩
        rw [← ht, ← Nat.add_zero start, ← hs]
    | some value =>
      -- What the rest of the elements give is kept as it is if it is an error.
      have hmap : ∀ read : Except (Nat × Text) (List α),
          read.map (value :: ·) = .error bad ↔ read = .error bad := by
        rintro (_ | _) <;> simp [Except.map]
      simp only [readElements, hr, type.firstUnread_cons_of_some _ _ _ _ value hr, hmap, ih]
      constructor
      · rintro ⟨later, hs, hf⟩
        exact ⟨later + 1, by omega, later, rfl, hf⟩
      · rintro ⟨_, hs, later, rfl, hf⟩
        exact ⟨later, by omega, hf⟩

section Value

variable (hk : parameter.kind = .value)
include hk

theorem reading_of_value {α : Type} (use : Text → Except ValueError α) :
    parameter.reading use = use parameter.stored := by
  rw [reading.eq_def, hk]

theorem text_of_value : parameter.text = .ok parameter.stored := parameter.reading_of_value hk _

theorem readSwitch_eq_error_iff (error : ValueError) :
    parameter.readSwitch = .error error ↔
      (parameter.stored ∉ truths ∧ parameter.stored ∉ falsehoods) ∧
        error = .unconvertible parameter.name.long parameter.stored "bool".toList := by
  rw [readSwitch, reading_of_value parameter hk]
  split
  · rename_i ht
    simp [ht]
  · split
    · rename_i hf
      simp [hf]
    · rename_i ht hf
      simp [ht, hf, eq_comm, Scalar.bool]

theorem read_eq_error_iff {α : Type} (type : Scalar α) (error : ValueError) :
    parameter.read type = .error error ↔
      type.read? parameter.stored = none ∧
        error = .unconvertible parameter.name.long parameter.stored type.label := by
  rw [read, reading_of_value parameter hk]
  cases type.read? parameter.stored with
  | none => simp [eq_comm]
  | some value => simp

theorem read_eq_ok_iff {α : Type} (type : Scalar α) (value : α) :
    parameter.read type = .ok value ↔ type.read? parameter.stored = some value := by
  rw [read, reading_of_value parameter hk]
  cases type.read? parameter.stored with
  | none => simp
  | some value => simp

theorem readWithin_eq_error_iff {α : Type} (type : Scalar α) (min max : α) (error : ValueError) :
    parameter.readWithin type min max = .error error ↔
      (type.read? parameter.stored = none ∧
        error = .rejected parameter.name.long parameter.stored (.unconvertible type.label)) ∨
      ∃ value, type.read? parameter.stored = some value ∧
        ¬ (type.le min value = true ∧ type.le value max = true) ∧
          error = .rejected parameter.name.long parameter.stored
            (.outOfRange (type.render min) (type.render max)) := by
  rw [readWithin_eq_read]
  cases hr : type.read? parameter.stored with
  | none =>
    rw [(read_eq_error_iff parameter hk type _).2 ⟨hr, rfl⟩]
    simp only [Except.error.injEq, true_and, reduceCtorEq, false_and, exists_false, or_false]
    exact eq_comm
  | some value =>
    rw [(read_eq_ok_iff parameter hk type value).2 hr]
    simp only [Option.some.injEq, exists_eq_left', reduceCtorEq, false_and, false_or,
      ← Bool.and_eq_true]
    by_cases hb : (type.le min value && type.le value max) = true
    · rw [if_pos hb]
      simp [hb]
    · rw [if_neg hb]
      simp [hb, eq_comm]

theorem readWithin_eq_ok_iff {α : Type} (type : Scalar α) (min max value : α) :
    parameter.readWithin type min max = .ok value ↔
      parameter.read type = .ok value ∧ type.le min value = true ∧ type.le value max = true := by
  rw [readWithin_eq_read]
  cases hr : parameter.read type with
  | error error =>
    obtain ⟨_, rfl⟩ := (read_eq_error_iff parameter hk type error).1 hr
    simp only [reduceCtorEq, false_and]
  | ok found =>
    simp only [Except.ok.injEq, ← Bool.and_eq_true]
    by_cases hb : (type.le min found && type.le found max) = true
    · rw [if_pos hb, Except.ok.injEq]
      exact ⟨fun he => ⟨he, he ▸ hb⟩, fun h => h.1⟩
    · rw [if_neg hb]
      refine iff_of_false (by rintro ⟨⟩) ?_
      rintro ⟨rfl, h⟩
      exact hb h

theorem readChoice_eq_error_iff {α : Type} (choices : List (Text × α)) (error : ValueError) :
    parameter.readChoice choices = .error error ↔
      (∀ choice ∈ choices, choice.1 ≠ parameter.stored) ∧
        error = .rejected parameter.name.long parameter.stored .unmapped := by
  have hl : choices.reverse.lookup parameter.stored = none ↔
      ∀ choice ∈ choices, choice.1 ≠ parameter.stored := by
    simp only [List.lookup_eq_none_iff, List.mem_reverse, bne_iff_ne]
    exact forall₂_congr fun _ _ => ne_comm
  rw [readChoice, reading_of_value parameter hk, ← hl]
  cases choices.reverse.lookup parameter.stored with
  | none => simp [eq_comm]
  | some value => simp

theorem readList_eq_error_iff {α : Type} (type : Scalar α) (error : ValueError) :
    parameter.readList type = .error error ↔
      ∃ place element, type.FirstUnread (elements parameter.stored) place element ∧
        error = .unconvertibleElement parameter.name.long place element type.label := by
  have hbad : ∀ place element,
      readElements type 0 (elements parameter.stored) = .error (place, element) ↔
        type.FirstUnread (elements parameter.stored) place element := by
    intro place element
    simp [readElements_eq_error_iff]
  simp only [← hbad]
  rw [readList, reading_of_value parameter hk]
  cases readElements type 0 (elements parameter.stored) with
  | error bad =>
    obtain ⟨place, element⟩ := bad
    constructor
    · rintro ⟨⟩
      exact ⟨place, element, rfl, rfl⟩
    · rintro ⟨_, _, ⟨⟩, rfl⟩
      rfl
  | ok values =>
    refine iff_of_false ?_ ?_
    · rintro ⟨⟩
    · rintro ⟨_, _, ⟨⟩, _⟩

/-- Whatever the way of reading a value is, it fails exactly if something is wrong with the stored
    text. -/
theorem run_eq_error_iff {α : Type} (accessor : Accessor α) (error : ValueError) :
    accessor.run parameter = .error error ↔
      accessor.Refuses parameter.name.long parameter.stored error := by
  cases accessor with
  | text => simp [Accessor.run, Accessor.Refuses, text_of_value parameter hk]
  | switch => exact readSwitch_eq_error_iff parameter hk error
  | one type => exact read_eq_error_iff parameter hk type error
  | within type min max => exact readWithin_eq_error_iff parameter hk type min max error
  | list type => exact readList_eq_error_iff parameter hk type error
  | choice choices => exact readChoice_eq_error_iff parameter hk choices error

end Value

theorem name_and_value_of_run {α : Type} (accessor : Accessor α) (error : ValueError)
    (h : accessor.run parameter = .error error) :
    error.name = parameter.name.long ∧
      ∀ value, error.value? = some value → value = parameter.stored := by
  cases hk : parameter.kind with
  | flag =>
    rw [parameter.run_of_flag hk] at h
    obtain rfl := Except.error.inj h
    exact ⟨rfl, nofun⟩
  | value =>
    have hrefuses := (parameter.run_eq_error_iff hk accessor error).1 h
    exact ⟨hrefuses.name_and_value.1, hrefuses.name_and_value.2.1⟩

theorem isEnabled_iff : parameter.isEnabled = true ↔ parameter.stored = "1".toList :=
  beq_iff_eq

theorem Step.name_and_kind (next : Parameter) (h : Step parameter next) :
    next.name = parameter.name ∧ next.kind = parameter.kind := by
  cases h <;> exact ⟨rfl, rfl⟩

theorem name_and_kind_of_run (last : Parameter) (hr : ReflTransGen Step parameter last) :
    last.name = parameter.name ∧ last.kind = parameter.kind := by
  induction hr with
  | refl => exact ⟨rfl, rfl⟩
  | tail _ hs ih =>
    obtain ⟨hn, hk⟩ := hs.name_and_kind
    exact ⟨hn.trans ih.1, hk.trans ih.2⟩

/-- However a parameter was bound and described since it was declared: a flag refuses to be read, a
    value is refused for what is wrong with its stored text and for nothing else, and the error is
    about that parameter and that text. Whether it is enabled can be told of all parameters. -/
theorem refused_of_run (declared parameter : Parameter)
    (hr : ReflTransGen Step declared parameter) :
    (declared.kind = .flag → ∀ {α : Type} (accessor : Accessor α),
      accessor.run parameter = .error (.flagAsValue declared.name.long)) ∧
    (declared.kind = .value → parameter.text = .ok parameter.stored ∧
      ∀ {α : Type} (accessor : Accessor α) (error : ValueError),
        (accessor.run parameter = .error error ↔
          accessor.Refuses declared.name.long parameter.stored error) ∧
        ∀ name, accessor.run parameter ≠ .error (.flagAsValue name)) ∧
    (∀ {α : Type} (accessor : Accessor α) (error : ValueError),
      accessor.run parameter = .error error →
        error.name = declared.name.long ∧
          ∀ value, error.value? = some value → value = parameter.stored) ∧
    (parameter.isEnabled = true ↔ parameter.stored = "1".toList) := by
  obtain ⟨hname, hkind⟩ := name_and_kind_of_run declared parameter hr
  rw [← hname, ← hkind]
  refine ⟨fun hk _ accessor => parameter.run_of_flag hk accessor, ?_,
    parameter.name_and_value_of_run, parameter.isEnabled_iff⟩
  intro hk
  refine ⟨parameter.text_of_value hk, ?_⟩
  intro α accessor error
  refine ⟨parameter.run_eq_error_iff hk accessor error, ?_⟩
  intro name hflag
  have hrefuses := (parameter.run_eq_error_iff hk accessor _).1 hflag
  exact hrefuses.name_and_value.2.2 name rfl

theorem refused_of_run_twoKinds :
    let level : Parameter := .value ⟨"level".toList, some 'l'⟩ (some "x".toList)
    let force : Parameter := .flag ⟨"force".toList, some 'f'⟩
    let bound : Parameter := (level.about "How far.".toList).resolve "12,x".toList
    let present : Parameter := force.resolve "1".toList
    (Definition.parse "scale --level[l]=x --force[f]?".toList).map Definition.parameters =
        .ok [level, force] ∧
      ReflTransGen Step level bound ∧ ReflTransGen Step force present ∧
      (Accessor.within (.integer .int64) 0 10).run bound =
        .error (.rejected "level".toList "12,x".toList (.unconvertible "i64".toList)) ∧
      (Accessor.list (.integer .int64)).run bound =
        .error (.unconvertibleElement "level".toList 1 "x".toList "i64".toList) ∧
      bound.text = .ok "12,x".toList ∧
      (∀ {α : Type} (accessor : Accessor α),
        accessor.run present = .error (.flagAsValue "force".toList)) ∧
      present.isEnabled = true := by
  intro level force bound present
  have hbound : ReflTransGen Step level bound := .tail (.single (.about _ _)) (.resolve _ _)
  have hpresent : ReflTransGen Step force present := .single (.resolve _ _)
  obtain ⟨_, hvalue, _, _⟩ := refused_of_run level bound hbound
  obtain ⟨hflag, _, _, henabled⟩ := refused_of_run force present hpresent
  obtain ⟨htext, hrefused⟩ := hvalue rfl
  have hread : ∀ earlier ∈ ["12".toList], (Scalar.integer .int64).read? earlier ≠ none := by
    decide
  exact ⟨rfl, hbound, hpresent, (hrefused _ _).1.2 (.inl ⟨rfl, rfl⟩),
    (hrefused _ _).1.2 ⟨1, "x".toList, ⟨rfl, rfl, hread⟩, rfl⟩, htext, hflag rfl, henabled.2 rfl⟩

end Parameter
end CommandGrammar
