import Mathlib
import CommandGrammar.Text.Basic

set_option autoImplicit false

namespace CommandGrammar.Text

theorem endsIn_iff (c : Char) (t : Text) : endsIn c t = true ↔ t.getLast? = some c := by
  simp [endsIn]

theorem exists_concat_of_endsIn (c : Char) (t : Text) (h : endsIn c t = true) :
    ∃ s, t = s ++ [c] :=
  ⟨t.dropLast, (List.dropLast_append_getLast? c ((endsIn_iff c t).1 h)).symm⟩

theorem endsIn_of_notMem (c : Char) (t : Text) (h : c ∉ t) : endsIn c t = false := by
  rw [← Bool.not_eq_true]
  intro he
  obtain ⟨s, rfl⟩ := exists_concat_of_endsIn c t he
  exact h (List.mem_append_right s List.mem_cons_self)

theorem dropFinal_eq_self (c : Char) (t : Text) (h : endsIn c t = false) : dropFinal c t = t := by
  rw [dropFinal, h]
  rfl

theorem endsIn_cons (c d : Char) (t : Text) (h : t ≠ []) :
    endsIn c (d :: t) = endsIn c t := by
  rw [endsIn, endsIn, List.getLast?_cons_of_ne_nil h]

theorem endsIn_append (c d : Char) (s t : Text) (h : d ≠ c) :
    endsIn c (s ++ d :: t) = endsIn c t := by
  cases t using List.reverseRecOn with
  | nil =>
    rw [endsIn_concat]
    simpa [endsIn] using h
  | append_singleton t e =>
    rw [← List.cons_append, ← List.append_assoc, endsIn_concat, endsIn_concat]

theorem dropFinal_append (c d : Char) (s t : Text) (h : d ≠ c) :
    dropFinal c (s ++ d :: t) = s ++ d :: dropFinal c t := by
  cases ht : endsIn c t with
  | false =>
    rw [dropFinal_eq_self c t ht, dropFinal_eq_self]
    rwa [endsIn_append c d s t h]
  | true =>
    obtain ⟨stem, rfl⟩ := exists_concat_of_endsIn c t ht
    rw [← List.cons_append, ← List.append_assoc, dropFinal_concat, dropFinal_concat]

end CommandGrammar.Text
