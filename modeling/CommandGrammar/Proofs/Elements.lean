import Mathlib
import CommandGrammar.Proofs.Refusal

set_option autoImplicit false

namespace CommandGrammar

namespace Text

theorem length_splitOn (sep : Char) (t : Text) : (t.splitOn sep).length = t.count sep + 1 := by
  induction t with
  | nil => rfl
  | cons c t ih =>
    rw [List.splitOn_cons_eq_if_modifyHead, List.count_cons]
    by_cases hc : (c == sep) = true
    · rw [if_pos hc, if_pos hc, List.length_cons, ih]
    · rw [if_neg hc, if_neg hc, List.length_modifyHead, ih]

theorem notMem_of_mem_splitOn (sep : Char) (t part : Text) (h : part ∈ t.splitOn sep) :
    sep ∉ part := by
  induction t generalizing part with
  | nil =>
    rw [List.splitOn_nil, List.mem_singleton] at h
    rw [h]
    exact List.not_mem_nil
  | cons c t ih =>
    rw [List.splitOn_cons_eq_if_modifyHead] at h
    by_cases hc : (c == sep) = true
    · rw [if_pos hc] at h
      rcases List.mem_cons.1 h with rfl | hm
      · exact List.not_mem_nil
      · exact ih part hm
    · rw [if_neg hc] at h
      -- The character goes to the front of the first part.
      obtain ⟨first, others, he⟩ := List.exists_cons_of_ne_nil (List.splitOn_ne_nil sep t)
      rw [he] at h ih
      rcases List.mem_cons.1 h with rfl | hm
      · have hf := ih first List.mem_cons_self
        simp only [List.mem_cons, not_or]
        exact ⟨fun hs => hc (beq_iff_eq.2 hs.symm), hf⟩
      · exact ih part (List.mem_cons_of_mem first hm)

end Text

namespace Parameter

theorem elements_of_ne_nil (stored : Text) (h : stored ≠ []) :
    [','].intercalate (elements stored) = stored ∧ (∀ element ∈ elements stored, ',' ∉ element) ∧
      (elements stored).length = stored.count ',' + 1 := by
  rw [elements, if_neg h]
  exact ⟨List.intercalate_splitOn ',', Text.notMem_of_mem_splitOn ',' stored,
    Text.length_splitOn ',' stored⟩

/-- Reading elements succeeds with the value of each of them. -/
theorem readElements_eq_ok_iff {α : Type} (type : Scalar α) (start : Nat) (texts : List Text)
    (values : List α) :
    readElements type start texts = .ok values ↔
      List.Forall₂ (fun text value => type.read? text = some value) texts values := by
  induction texts generalizing start values with
  | nil => simp [readElements, eq_comm]
  | cons text rest ih =>
    rw [List.forall₂_cons_left_iff]
    cases hr : type.read? text with
    | none => simp [readElements, hr]
    | some value =>
      simp only [readElements, hr, Option.some.injEq]
      constructor
      · intro h
        cases hrest : readElements type (start + 1) rest with
        | error bad =>
          rw [hrest] at h
          cases h
        | ok others =>
          rw [hrest] at h
          cases h
          exact ⟨value, others, rfl, (ih (start + 1) others).1 hrest, rfl⟩
      · rintro ⟨_, others, rfl, ho, rfl⟩
        rw [(ih (start + 1) others).2 ho]
        rfl

section Value

variable (parameter : Parameter) (hk : parameter.kind = .value)
include hk

theorem readList_eq_ok_iff {α : Type} (type : Scalar α) (values : List α) :
    parameter.readList type = .ok values ↔
      List.Forall₂ (fun element value => type.read? element = some value)
        (elements parameter.stored) values := by
  rw [← readElements_eq_ok_iff type 0, readList, reading_of_value parameter hk]
  cases readElements type 0 (elements parameter.stored) with
  | error bad =>
    refine iff_of_false ?_ ?_
    · rintro ⟨⟩
    · rintro ⟨⟩
  | ok others =>
    change (Except.ok others : Except ValueError (List α)) = .ok values ↔ _
    rw [Except.ok.injEq, Except.ok.injEq]

theorem read_resolve_eq_ok_iff {α : Type} (type : Scalar α) (text : Text) (value : α) :
    (parameter.resolve text).read type = .ok value ↔ type.read? text = some value :=
  read_eq_ok_iff (parameter.resolve text) hk type value

theorem exists_read_resolve_iff {α : Type} (type : Scalar α) (text : Text) :
    (∃ value, (parameter.resolve text).read type = .ok value) ↔ type.read? text ≠ none := by
  simp only [read_resolve_eq_ok_iff parameter hk, ← Option.isSome_iff_exists,
    Option.isSome_iff_ne_none]

theorem firstUnread_iff_read_resolve {α : Type} (type : Scalar α) (texts : List Text)
    (place : Nat) (text : Text) :
    type.FirstUnread texts place text ↔
      texts[place]? = some text ∧
      (¬ ∃ value, (parameter.resolve text).read type = .ok value) ∧
      ∀ earlier other, earlier < place → texts[earlier]? = some other →
        ∃ value, (parameter.resolve other).read type = .ok value := by
  simp only [Scalar.FirstUnread, exists_read_resolve_iff parameter hk, ne_eq, not_not,
    List.mem_iff_getElem?, List.getElem?_take, Option.ite_none_right_eq_some]
  constructor
  · rintro ⟨ht, hn, he⟩
    exact ⟨ht, hn, fun earlier other hl ho => he other ⟨earlier, hl, ho⟩⟩
  · rintro ⟨ht, hn, he⟩
    refine ⟨ht, hn, ?_⟩
    rintro other ⟨earlier, hl, ho⟩
    exact he earlier other hl ho

/-- A list is read as its elements are, one by one: as the list of their values if all are read, and
    else with the error about the first that is not. The empty text has no elements, any other all
    that stands between its commas. -/
theorem readList_elementwise :
    (parameter.stored = [] → elements parameter.stored = []) ∧
    (parameter.stored ≠ [] →
      [','].intercalate (elements parameter.stored) = parameter.stored ∧
      (∀ element ∈ elements parameter.stored, ',' ∉ element) ∧
      (elements parameter.stored).length = parameter.stored.count ',' + 1) ∧
    ∀ {α : Type} (type : Scalar α),
      (∀ values, parameter.readList type = .ok values ↔
        (elements parameter.stored).length = values.length ∧
        ∀ place (he : place < (elements parameter.stored).length) (hv : place < values.length),
          (parameter.resolve (elements parameter.stored)[place]).read type = .ok values[place]) ∧
      ∀ error, parameter.readList type = .error error ↔
        ∃ place element, (elements parameter.stored)[place]? = some element ∧
          (¬ ∃ value, (parameter.resolve element).read type = .ok value) ∧
          (∀ earlier other, earlier < place →
            (elements parameter.stored)[earlier]? = some other →
              ∃ value, (parameter.resolve other).read type = .ok value) ∧
          error = .unconvertibleElement parameter.name.long place element type.label := by
  refine ⟨?_, elements_of_ne_nil parameter.stored, ?_⟩
  · intro hs
    rw [elements, if_pos hs]
  · intro α type
    refine ⟨?_, ?_⟩
    · intro values
      rw [readList_eq_ok_iff parameter hk, List.forall₂_iff_get]
      simp only [read_resolve_eq_ok_iff parameter hk, List.get_eq_getElem]
    · intro error
      rw [readList_eq_error_iff parameter hk]
      simp only [firstUnread_iff_read_resolve parameter hk, and_assoc]

end Value

theorem readList_elementwise_emptyElement :
    let parameter : Parameter :=
      (Parameter.value ⟨"levels".toList, none⟩ none).resolve "7,,x".toList
    parameter.kind = .value ∧ [','].intercalate (elements parameter.stored) = "7,,x".toList ∧
      parameter.readList .text = .ok ["7".toList, [], "x".toList] ∧
      parameter.readList (.integer .int64) =
        .error (.unconvertibleElement "levels".toList 1 [] "i64".toList) := by
  intro parameter
  obtain ⟨_, hsplit, hlist⟩ := readList_elementwise parameter rfl
  refine ⟨rfl, (hsplit (by decide)).1, ((hlist .text).1 _).2 ⟨rfl, fun _ _ _ => rfl⟩, ?_⟩
  refine ((hlist (.integer .int64)).2 _).2 ⟨1, [], rfl, ?_, ?_, rfl⟩
  · rintro ⟨_, ⟨⟩⟩
  · intro earlier other hl ho
    obtain rfl : earlier = 0 := by omega
    cases ho
    exact ⟨7, rfl⟩

end Parameter
end CommandGrammar
