import Mathlib
import CommandGrammar.Text.Blank
import CommandGrammar.Proofs.Endings

set_option autoImplicit false

namespace CommandGrammar.Text

/-- No blank at either end. -/
structure Firm (t : Text) : Prop where
  head : ∀ c, t.head? = some c → isBlank c = false
  last : ∀ c, t.getLast? = some c → isBlank c = false

theorem firm_of_forall (t : Text) (h : ∀ c ∈ t, isBlank c = false) : Firm t :=
  ⟨fun c hc => h c (List.mem_of_mem_head? hc), fun c hc => h c (List.mem_of_getLast? hc)⟩

theorem trimEnd_eq_self (t : Text) (h : ∀ c, t.getLast? = some c → isBlank c = false) :
    trimEnd t = t := by
  induction t using List.reverseRecOn with
  | nil => rfl
  | append_singleton s c _ =>
    have hc : isBlank c = false := h c (by simp)
    rw [trimEnd_concat, hc]
    rfl

theorem dropWhile_eq_self (t : Text) (h : ∀ c, t.head? = some c → isBlank c = false) :
    t.dropWhile isBlank = t := by
  cases t with
  | nil => rfl
  | cons c rest =>
    have hc : isBlank c = false := h c rfl
    rw [List.dropWhile_cons, hc]
    rfl

theorem trim_eq_self (t : Text) (h : Firm t) : trim t = t := by
  rw [trim, dropWhile_eq_self t h.head, trimEnd_eq_self t h.last]

theorem map_trim_eq_self (ts : List Text) (h : ∀ t ∈ ts, Firm t) : ts.map trim = ts := by
  have he : ts.map trim = ts.map id := List.map_congr_left fun t hm => trim_eq_self t (h t hm)
  rw [he, List.map_id]

theorem Firm.endsIn_of_isBlank (t : Text) (h : Firm t) (c : Char) (hc : isBlank c = true) :
    endsIn c t = false := by
  rw [← Bool.not_eq_true, endsIn_iff]
  intro hl
  rw [h.last c hl] at hc
  cases hc

theorem isPrefix_trimEnd (t : Text) : trimEnd t <+: t := by
  rw [trimEnd]
  have h := List.dropWhile_suffix isBlank (l := t.reverse)
  rw [← List.reverse_prefix, List.reverse_reverse] at h
  exact h

theorem isInfix_trim (t : Text) : trim t <:+: t := by
  rw [trim]
  exact (isPrefix_trimEnd _).isInfix.trans (List.dropWhile_suffix isBlank).isInfix

theorem trimEnd_append (s t : Text) (hs : ∀ c, s.getLast? = some c → isBlank c = false) :
    trimEnd (s ++ t) = s ++ trimEnd t := by
  induction t using List.reverseRecOn with
  | nil => rw [List.append_nil, trimEnd_nil, List.append_nil, trimEnd_eq_self s hs]
  | append_singleton t c ih =>
    rw [← List.append_assoc, trimEnd_concat, trimEnd_concat]
    cases isBlank c with
    | true => exact ih
    | false => exact List.append_assoc s t [c]

theorem last_trimEnd (t : Text) (c : Char) (h : (trimEnd t).getLast? = some c) :
    isBlank c = false := by
  induction t using List.reverseRecOn with
  | nil => simp [trimEnd_nil] at h
  | append_singleton s d ih =>
    rw [trimEnd_concat] at h
    cases hd : isBlank d with
    | true =>
      rw [hd] at h
      exact ih h
    | false =>
      have he : d = c := by simpa [hd] using h
      exact he ▸ hd

theorem head_dropWhile (t : Text) (c : Char) (h : (t.dropWhile isBlank).head? = some c) :
    isBlank c = false := by
  have hn := List.head?_dropWhile_not isBlank t
  rw [h] at hn
  exact hn

theorem trim_concat (t : Text) (c : Char) (hc : isBlank c = true) : trim (t ++ [c]) = trim t := by
  rw [trim, trim, List.dropWhile_append]
  cases hd : t.dropWhile isBlank with
  | nil => simp [hc]
  | cons d rest =>
    rw [List.isEmpty_cons, if_neg (by decide), trimEnd_concat, if_pos hc]

theorem firm_trim (t : Text) : Firm (trim t) := by
  refine ⟨?_, last_trimEnd _⟩
  intro c h
  obtain ⟨rest, he⟩ := isPrefix_trimEnd (t.dropWhile isBlank)
  apply head_dropWhile t c
  rw [trim] at h
  rw [← he, List.head?_append, h]
  rfl

theorem firm_iff (t : Text) : Firm t ↔ trim t = t :=
  ⟨trim_eq_self t, fun h => h ▸ firm_trim t⟩

instance : DecidablePred Firm := fun t => decidable_of_iff _ (firm_iff t).symm

end CommandGrammar.Text
