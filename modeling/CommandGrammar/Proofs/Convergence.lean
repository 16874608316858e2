import Mathlib
import CommandGrammar.Proofs.Rereading

set_option autoImplicit false

namespace CommandGrammar.Definition

theorem Rereads.render_eq (definition again : Definition) (h : definition.WellFormed)
    (hr : Rereads definition again) :
    again.render = Token.line ((Token.assemble definition.words).map Text.trim) := by
  rw [render_eq_line again hr.wellFormed, hr.words definition again h]

theorem Rereads.render_unchanged (definition again : Definition) (h : definition.WellFormed)
    (hr : Rereads definition again) (hp : Text.endsIn '\\' definition.render = false) :
    again.render = definition.render := by
  have hline := render_eq_line definition h
  rw [hline] at hp
  have hsolid := Token.solid_assemble definition.words (solid_of_mem_words definition h) hp
  have htrim := Text.map_trim_eq_self _ fun word hm => (hsolid word hm).toFirm
  rw [hr.render_eq definition again h, htrim, Token.line_assemble, Text.dropFinal_eq_self _ _ hp,
    hline]

theorem Rereads.render_shorter (definition again : Definition) (h : definition.WellFormed)
    (hr : Rereads definition again) (hb : Text.endsIn '\\' definition.render = true) :
    again.render.length < definition.render.length := by
  have hlt := Token.length_line_map_trim_le (Token.assemble definition.words)
  have hline := render_eq_line definition h
  obtain ⟨stem, he⟩ := Text.exists_concat_of_endsIn '\\' _ hb
  rw [← hr.render_eq definition again h, Token.line_assemble, ← hline, he,
    Text.dropFinal_concat] at hlt
  rw [he, List.length_append]
  exact Nat.lt_succ_of_le hlt

theorem two_le_length_render (definition : Definition) (h : definition.WellFormed) :
    2 ≤ definition.render.length := by
  have hc := Name.two_le_length definition.command h.command
  have hk := Token.keepSpaces_eq_self _ (Name.notMem_of_isLong _ h.command ' ' (by decide))
  rw [render_eq_line definition h, words, List.cons_append, Token.line_cons, hk,
    List.length_append]
  omega

def reread (definition : Definition) : Definition :=
  match definition.reparse with
  | .ok again => again
  | .error _ => definition

def rereads (definition : Definition) : Nat → Definition
  | 0 => definition
  | k + 1 => (definition.rereads k).reread

theorem rereads_reread (definition : Definition) (h : definition.WellFormed) :
    Rereads definition definition.reread := by
  obtain ⟨again, hr⟩ := exists_rereads definition h
  have he : definition.reread = again := by
    rw [reread, reparse, hr.parse]
  rw [he]
  exact hr

theorem wellFormed_rereads (definition : Definition) (h : definition.WellFormed) (k : Nat) :
    (definition.rereads k).WellFormed := by
  induction k with
  | zero => exact h
  | succ k ih => exact (rereads_reread _ ih).wellFormed

theorem rereads_step (definition : Definition) (h : definition.WellFormed) (k : Nat) :
    Rereads (definition.rereads k) (definition.rereads (k + 1)) :=
  rereads_reread _ (wellFormed_rereads definition h k)

/-- As long as the lines end in a backslash, each is shorter than the one before. -/
theorem length_render_rereads (definition : Definition) (h : definition.WellFormed) (k : Nat)
    (hb : ∀ j < k, Text.endsIn '\\' (definition.rereads j).render = true) :
    (definition.rereads k).render.length + k ≤ definition.render.length := by
  induction k with
  | zero => exact Nat.le_refl _
  | succ k ih =>
    have hlt := (rereads_step definition h k).render_shorter _ _ (wellFormed_rereads definition h k)
      (hb k (Nat.lt_succ_self k))
    have ih := ih fun j hj => hb j (Nat.lt_succ_of_lt hj)
    omega

theorem exists_plain_line (definition : Definition) (h : definition.WellFormed) :
    ∃ k, k + 1 ≤ definition.render.length ∧
      Text.endsIn '\\' (definition.rereads k).render = false := by
  by_contra hn
  simp only [not_exists, not_and] at hn
  -- The last of these lines would be too short to hold a command.
  have hlen := length_render_rereads definition h (definition.render.length - 1) <| by
    intro j hj
    exact Bool.not_eq_false _ ▸ hn j (by omega)
  have h2 := two_le_length_render definition h
  have hk := two_le_length_render _ (wellFormed_rereads definition h (definition.render.length - 1))
  omega

theorem render_rereads_stable (definition : Definition) (h : definition.WellFormed) (k : Nat)
    (hp : Text.endsIn '\\' (definition.rereads k).render = false) (n : Nat) :
    (definition.rereads (k + n)).render = (definition.rereads k).render := by
  induction n with
  | zero => rfl
  | succ n ih =>
    have hu := (rereads_step definition h (k + n)).render_unchanged _ _
      (wellFormed_rereads definition h (k + n)) (by rw [ih, hp])
    rw [← Nat.add_assoc, hu, ih]

theorem rereads_stable (definition : Definition) (h : definition.WellFormed) (k : Nat)
    (hp : Text.endsIn '\\' (definition.rereads k).render = false) (n : Nat) :
    definition.rereads (k + n + 1) = definition.rereads (k + 1) := by
  have hn := (rereads_step definition h (k + n)).parse
  rw [render_rereads_stable definition h k hp n, (rereads_step definition h k).parse] at hn
  exact (Except.ok.inj hn).symm

/-- Printing and reading again never fails, keeps a line that does not end in a backslash, shortens
    one that does, and changes nothing after so many readings as the first line has characters. -/
theorem rereads_converge (source : Text) (definition : Definition)
    (h : parse source = .ok definition) :
    ∃ steps : Nat → Definition, steps 0 = definition ∧
      (∀ k, parse (steps k).render = .ok (steps (k + 1))) ∧
      (∀ k, ((steps (k + 1)).render = (steps k).render ↔
          (steps k).render.getLast? ≠ some '\\') ∧
        ((steps k).render.getLast? = some '\\' →
          (steps (k + 1)).render.length < (steps k).render.length)) ∧
      ∀ k, definition.render.length ≤ k → steps k = steps definition.render.length := by
  have hw := wellFormed_of_parse source definition h
  have hstep := rereads_step definition hw
  have hwell := wellFormed_rereads definition hw
  refine ⟨definition.rereads, rfl, fun k => (hstep k).parse, ?_, ?_⟩
  · intro k
    have hshort : (definition.rereads k).render.getLast? = some '\\' →
        (definition.rereads (k + 1)).render.length < (definition.rereads k).render.length :=
      fun hl => (hstep k).render_shorter _ _ (hwell k) ((Text.endsIn_iff _ _).2 hl)
    refine ⟨⟨?_, ?_⟩, hshort⟩
    · intro he hl
      have hlt := hshort hl
      rw [he] at hlt
      exact Nat.lt_irrefl _ hlt
    · intro hl
      rw [ne_eq, ← Text.endsIn_iff, Bool.not_eq_true] at hl
      exact (hstep k).render_unchanged _ _ (hwell k) hl
  · obtain ⟨m, hm, hp⟩ := exists_plain_line definition hw
    have hafter : ∀ k, definition.render.length ≤ k →
        definition.rereads k = definition.rereads (m + 1) := by
      intro k hk
      obtain ⟨n, rfl⟩ : ∃ n, k = m + n + 1 := ⟨k - m - 1, by omega⟩
      exact rereads_stable definition hw m hp n
    intro k hk
    rw [hafter k hk, hafter _ (Nat.le_refl _)]

theorem rereads_converge_backslashLine :
    let definition : Definition :=
      ⟨"copy --to=a\\ \\\\".toList, "copy".toList, [],
        [.value ⟨"to".toList, none⟩ (some "a \\".toList)], none⟩
    parse definition.source = .ok definition ∧ ∃ steps : Nat → Definition,
      steps 0 = definition ∧ (steps 1).render.length < definition.render.length ∧
        ∀ k, definition.render.length ≤ k → steps k = steps definition.render.length := by
  intro definition
  have hp : parse definition.source = .ok definition := rfl
  obtain ⟨steps, h0, _, hlines, hend⟩ := rereads_converge _ definition hp
  refine ⟨hp, steps, h0, ?_, hend⟩
  have hlt := (hlines 0).2
  rw [h0] at hlt
  exact hlt rfl

end CommandGrammar.Definition
