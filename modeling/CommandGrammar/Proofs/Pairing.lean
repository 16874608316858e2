import Mathlib

set_option autoImplicit false

namespace CommandGrammar
open List (Forall₂)

variable {α β : Type} (R : α → β → Prop)

theorem forall₂_concat_iff (xs : List α) (x : α) (zs : List β) :
    Forall₂ R (xs ++ [x]) zs ↔ ∃ ys y, zs = ys ++ [y] ∧ Forall₂ R xs ys ∧ R x y := by
  constructor
  · intro h
    rw [← List.forall₂_reverse_iff, List.reverse_append, List.reverse_singleton,
      List.singleton_append, List.forall₂_cons_left_iff] at h
    obtain ⟨y, ys, hy, hys, he⟩ := h
    refine ⟨ys.reverse, y, ?_, ?_, hy⟩
    · rw [← List.reverse_cons, ← he, List.reverse_reverse]
    · rwa [← List.forall₂_reverse_iff, List.reverse_reverse]
  · rintro ⟨ys, y, rfl, hys, hy⟩
    exact List.rel_append hys (.cons hy .nil)

theorem exists_forall₂ (xs : List α) (h : ∀ x ∈ xs, ∃ y, R x y) : ∃ ys, Forall₂ R xs ys := by
  induction xs with
  | nil => exact ⟨[], .nil⟩
  | cons x xs ih =>
    obtain ⟨y, hy⟩ := h x List.mem_cons_self
    obtain ⟨ys, hys⟩ := ih fun z hz => h z (List.mem_cons_of_mem x hz)
    exact ⟨y :: ys, .cons hy hys⟩

theorem exists_of_forall₂ (xs : List α) (ys : List β) (h : Forall₂ R xs ys) (x : α) (hx : x ∈ xs) :
    ∃ y ∈ ys, R x y := by
  induction h with
  | nil => simp at hx
  | cons hr _ ih =>
    rcases List.mem_cons.1 hx with rfl | hm
    · exact ⟨_, List.mem_cons_self, hr⟩
    · obtain ⟨y, hy, hxy⟩ := ih hm
      exact ⟨y, List.mem_cons_of_mem _ hy, hxy⟩

theorem pairwise_iff_of_forall₂ (P : α → Prop) (Q : β → Prop) (hpq : ∀ x y, R x y → (P x ↔ Q y))
    (xs : List α) (ys : List β) (h : Forall₂ R xs ys) :
    xs.Pairwise (fun x _ => P x) ↔ ys.Pairwise (fun y _ => Q y) := by
  induction h with
  | nil => simp
  | @cons x y xs ys hr ht ih =>
    have he := hpq x y hr
    rw [List.pairwise_cons, List.pairwise_cons, ih]
    refine and_congr_left fun _ => ?_
    cases ht with
    | nil => simp
    | cons _ _ =>
      constructor
      · intro hp _ _
        exact he.1 (hp _ List.mem_cons_self)
      · intro hq _ _
        exact he.2 (hq _ List.mem_cons_self)

theorem forall₂_map_self (f : β → α) (ys : List β) (h : ∀ y ∈ ys, R (f y) y) :
    Forall₂ R (ys.map f) ys := by
  rw [List.forall₂_map_left_iff, List.forall₂_same]
  exact h

end CommandGrammar
