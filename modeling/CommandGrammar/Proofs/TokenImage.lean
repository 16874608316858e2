import Mathlib
import CommandGrammar.Proofs.Assembly

set_option autoImplicit false

namespace CommandGrammar.Token

/-- The words with their spaces kept, `lead` spaces before them and after each word as many as are
    given with it. -/
def spread (lead : Nat) (words : List (Text × Nat)) : Text :=
  List.replicate lead ' ' ++
    words.flatMap fun word => keepSpaces word.1 ++ List.replicate word.2 ' '

theorem pieces_spaces (n : Nat) (rest : Text) :
    pieces (List.replicate n ' ' ++ rest) = pieces rest := by
  induction n with
  | zero => rfl
  | succ n ih =>
    rw [List.replicate_succ, List.cons_append, pieces_space, ih]

theorem spread_cons (lead : Nat) (word : Text × Nat) (words : List (Text × Nat)) :
    spread lead (word :: words) =
      List.replicate lead ' ' ++ (keepSpaces word.1 ++ spread word.2 words) := by
  rw [spread, spread, List.flatMap_cons, List.append_assoc]

theorem spread_tail (gap : Nat) (words : List (Text × Nat)) (h : words ≠ [] → gap ≠ 0) :
    spread gap words = [] ∨ (spread gap words).head? = some ' ' := by
  cases gap with
  | zero =>
    have hw : words = [] := by
      by_contra hn
      exact h hn rfl
    exact .inl (by rw [hw]; rfl)
  | succ gap => exact .inr rfl

theorem assemble_spread (lead : Nat) (words : List (Text × Nat))
    (hw : ∀ word ∈ words, word.1 ≠ [] ∧ Text.endsIn ' ' word.1 = false)
    (hg : ∀ word ∈ words.dropLast, word.2 ≠ 0) :
    assemble (pieces (spread lead words)) = assemble (words.map Prod.fst) := by
  induction words generalizing lead with
  | nil =>
    rw [spread, pieces_spaces]
    rfl
  | cons word words ih =>
    obtain ⟨⟨hn, hs⟩, hw⟩ := List.forall_mem_cons.1 hw
    have htail := spread_tail word.2 words fun hne =>
      hg word (by simp [List.dropLast_cons_of_ne_nil hne])
    have hg' : ∀ other ∈ words.dropLast, other.2 ≠ 0 := by
      intro other hm
      have hne : words ≠ [] := by
        rintro rfl
        cases hm
      exact hg other (by simp [List.dropLast_cons_of_ne_nil hne, hm])
    rw [spread_cons, pieces_spaces, assemble_keepSpaces word.1 _ hn hs htail, ih word.2 hw hg',
      List.map_cons, assemble_cons]

/-- A tab after each word keeps its last character from the space, and is then trimmed. -/
theorem tokens_tabbed (words : List Text) (h : ∀ word ∈ words, word ≠ [] ∧ Text.Firm word) :
    tokens (line (words.map (· ++ ['\t']))) = words := by
  apply tokens_of_map_trim
  · exact fun word hm => (h word hm).1
  · rw [assemble_line, assemble_of_plain, List.map_map]
    · have ht : words.map (Text.trim ∘ (· ++ ['\t'])) = words.map id := by
        apply List.map_congr_left
        intro word hm
        exact (Text.trim_concat word '\t' (by decide)).trans (Text.trim_eq_self word (h word hm).2)
      rw [ht, List.map_id]
    · rw [List.forall_mem_map]
      intro word _
      exact Text.endsIn_concat '\\' '\t' word
    · rw [List.forall_mem_map]
      intro word _
      exact ⟨by simp, Text.endsIn_concat ' ' '\t' word⟩

theorem tokens_spread (lead : Nat) (words : List (Text × Nat))
    (hw : ∀ word ∈ words, word.1 ≠ [] ∧ Text.Firm word.1 ∧ Text.endsIn '\\' word.1 = false)
    (hg : ∀ word ∈ words.dropLast, word.2 ≠ 0) :
    tokens (spread lead words) = words.map Prod.fst := by
  apply tokens_of_map_trim
  · rw [List.forall_mem_map]
    exact fun word hm => (hw word hm).1
  · rw [assemble_spread lead words _ hg, assemble_of_plain]
    · apply Text.map_trim_eq_self
      rw [List.forall_mem_map]
      exact fun word hm => (hw word hm).2.1
    · rw [List.forall_mem_map]
      exact fun word hm => (hw word hm).2.2
    · intro word hm
      exact ⟨(hw word hm).1, (hw word hm).2.1.endsIn_of_isBlank _ ' ' (by decide)⟩

/-- Lists of tokens are the lists of firm texts that are not empty. If no text ends in a backslash,
    keeping the spaces in the texts and setting spaces between them gives a line of these tokens. -/
theorem tokens_image :
    (∀ words, (∃ source, tokens source = words) ↔ ∀ word ∈ words, word ≠ [] ∧ Text.Firm word) ∧
      ∀ (lead : Nat) (words : List (Text × Nat)),
        (∀ word ∈ words, word.1 ≠ [] ∧ Text.Firm word.1 ∧ word.1.getLast? ≠ some '\\') →
        (∀ word ∈ words.dropLast, word.2 ≠ 0) →
          tokens (spread lead words) = words.map Prod.fst := by
  refine ⟨?_, ?_⟩
  · intro words
    constructor
    · rintro ⟨source, rfl⟩
      exact firm_of_mem_tokens source
    · intro h
      exact ⟨_, tokens_tabbed words h⟩
  · intro lead words hw hg
    refine tokens_spread lead words ?_ hg
    intro word hm
    obtain ⟨hn, hf, hb⟩ := hw word hm
    refine ⟨hn, hf, ?_⟩
    rwa [ne_eq, ← Text.endsIn_iff, Bool.not_eq_true] at hb

theorem tokens_image_spacedWords :
    (∃ source, tokens source = ["c:\\".toList, "a  b".toList]) ∧
      tokens (spread 2 [("a  b\\ c".toList, 3), ("\\x\ty".toList, 0)]) =
        ["a  b\\ c".toList, "\\x\ty".toList] := by
  obtain ⟨himage, hspread⟩ := tokens_image
  exact ⟨(himage _).2 (by decide), hspread 2 _ (by decide) (by decide)⟩

end CommandGrammar.Token
