import Mathlib
import CommandGrammar.Token
import CommandGrammar.Proofs.Endings
import CommandGrammar.Proofs.Trimming

set_option autoImplicit false

/-!
# Lines of words

A word may hold spaces; written on a line, a backslash stands before each of them. Reading the line
gives the words back, but a word that ends in a backslash gives it up and takes in the next word,
as a piece does. Writing the read words loses no more than a backslash at the end of the line.
-/
namespace CommandGrammar.Token

def line (words : List Text) : Text := [' '].intercalate (words.map keepSpaces)

/-- Sets a word before the assembled ones. -/
def attach (word : Text) (assembled : List Text) : List Text :=
  if Text.endsIn '\\' word then
    match assembled with
    | [] => [word.dropLast]
    | next :: others => (word.dropLast ++ ' ' :: next) :: others
  else word :: assembled

theorem assemble_cons (word : Text) (words : List Text) :
    assemble (word :: words) = attach word (assemble words) := rfl

theorem attach_of_plain (word : Text) (assembled : List Text) (h : Text.endsIn '\\' word = false) :
    attach word assembled = word :: assembled := by
  rw [attach.eq_def, h]
  rfl

theorem attach_nil (word : Text) : attach word [] = [Text.dropFinal '\\' word] := by
  rw [attach.eq_def, Text.dropFinal]
  split <;> rfl

theorem attach_concat_nil (stem : Text) : attach (stem ++ ['\\']) [] = [stem] := by
  rw [attach_nil, Text.dropFinal_concat]

theorem attach_concat_cons (stem next : Text) (others : List Text) :
    attach (stem ++ ['\\']) (next :: others) = (stem ++ ' ' :: next) :: others := by
  simp [attach, Text.endsIn_concat]

theorem attach_ne_nil (word : Text) (assembled : List Text) : attach word assembled ≠ [] := by
  rw [attach.eq_def]
  split
  · cases assembled <;> exact List.cons_ne_nil _ _
  · exact List.cons_ne_nil _ _

theorem assemble_ne_nil (words : List Text) (h : words ≠ []) : assemble words ≠ [] := by
  cases words with
  | nil => exact absurd rfl h
  | cons word words => exact attach_ne_nil word _

theorem attach_cons (c : Char) (word : Text) (assembled : List Text) (h : word ≠ []) :
    attach (c :: word) assembled = (attach word assembled).modifyHead (c :: ·) := by
  rw [attach.eq_def, attach.eq_def, Text.endsIn_cons '\\' c word h, List.dropLast_cons_of_ne_nil h]
  split
  · cases assembled <;> rfl
  · rfl

theorem pieces_append (front back : Text) :
    pieces (front ++ ' ' :: back) = pieces front ++ pieces back := by
  rw [pieces, List.splitOn_append_cons_self, List.filter_append]
  rfl

theorem pieces_space (rest : Text) : pieces (' ' :: rest) = pieces rest := pieces_append [] rest

theorem pieces_word (piece tail : Text) (hp : piece ≠ []) (hs : ' ' ∉ piece)
    (ht : tail = [] ∨ tail.head? = some ' ') : pieces (piece ++ tail) = piece :: pieces tail := by
  cases tail with
  | nil => simp [pieces, List.splitOn_eq_singleton hs, hp]
  | cons c rest =>
    obtain rfl : c = ' ' := by simpa using ht
    rw [pieces_space, pieces, List.splitOn_append_cons_self_of_not_mem hs]
    simp [pieces, hp]

theorem pieces_cons (c d : Char) (rest : Text) (hc : c ≠ ' ') (hd : d ≠ ' ') :
    ∃ piece others, piece ≠ [] ∧ pieces (d :: rest) = piece :: others ∧
      pieces (c :: d :: rest) = (c :: piece) :: others := by
  obtain ⟨first, others, he⟩ := List.exists_cons_of_ne_nil (List.splitOn_ne_nil ' ' rest)
  refine ⟨d :: first, others.filter (· ≠ []), List.cons_ne_nil _ _, ?_, ?_⟩
  · simp [pieces, List.splitOn_cons_eq_if_modifyHead, he, hd]
  · simp [pieces, List.splitOn_cons_eq_if_modifyHead, he, hc, hd]

theorem keepSpaces_cons (c : Char) (t : Text) :
    keepSpaces (c :: t) = (if c = ' ' then ['\\', ' '] else [c]) ++ keepSpaces t := rfl

theorem exists_keepSpaces_cons (c : Char) (t : Text) :
    ∃ d rest, keepSpaces (c :: t) = d :: rest ∧ d ≠ ' ' := by
  rw [keepSpaces_cons]
  by_cases h : c = ' '
  · exact ⟨'\\', ' ' :: keepSpaces t, by simp [h], by decide⟩
  · exact ⟨c, keepSpaces t, by simp [h], h⟩

theorem assemble_keepSpaces (word tail : Text) (hw : word ≠ [])
    (hs : Text.endsIn ' ' word = false) (ht : tail = [] ∨ tail.head? = some ' ') :
    assemble (pieces (keepSpaces word ++ tail)) = attach word (assemble (pieces tail)) := by
  induction word with
  | nil => exact absurd rfl hw
  | cons c word ih =>
    cases word with
    | nil =>
      have hc : c ≠ ' ' := by simpa [Text.endsIn] using hs
      have hk : keepSpaces [c] = [c] := keepSpaces_eq_self [c] (by simpa using hc.symm)
      rw [hk, pieces_word [c] tail (List.cons_ne_nil _ _) (by simpa using hc.symm) ht,
        assemble_cons]
    | cons d word =>
      have hne : d :: word ≠ [] := List.cons_ne_nil d word
      have ih := ih hne (by rwa [Text.endsIn_cons _ _ _ hne] at hs)
      rw [attach_cons c (d :: word) _ hne, ← ih, keepSpaces_cons]
      by_cases hc : c = ' '
      · -- The backslash is a piece by itself, and its token opens with the space.
        rw [if_pos hc]
        change assemble (pieces (['\\'] ++ ' ' :: (keepSpaces (d :: word) ++ tail))) = _
        rw [pieces_word ['\\'] _ (by decide) (by decide) (.inr rfl), pieces_space, assemble_cons, ih]
        cases ha : attach (d :: word) (assemble (pieces tail)) with
        | nil => exact absurd ha (attach_ne_nil _ _)
        | cons next others =>
          rw [hc]
          exact attach_concat_cons [] next others
      · obtain ⟨e, rest, he, hne⟩ := exists_keepSpaces_cons d word
        obtain ⟨piece, others, hp, h1, h2⟩ := pieces_cons c e (rest ++ tail) hc hne
        rw [if_neg hc, he]
        change assemble (pieces (c :: e :: (rest ++ tail))) = _
        rw [h2, List.cons_append, h1, assemble_cons, assemble_cons, attach_cons c piece _ hp]

theorem line_cons (word : Text) (words : List Text) :
    line (word :: words) = keepSpaces word ++ if words = [] then [] else ' ' :: line words := by
  cases words with
  | nil => simp [line]
  | cons next words => simp [line, List.intercalate_cons_cons]

/-- From a line of words come the words, assembled as if each of them were a piece. -/
theorem assemble_line (words : List Text)
    (h : ∀ word ∈ words, word ≠ [] ∧ Text.endsIn ' ' word = false) :
    assemble (pieces (line words)) = assemble words := by
  induction words with
  | nil => rfl
  | cons word words ih =>
    obtain ⟨hw, hs⟩ := h word List.mem_cons_self
    have ih := ih fun other ho => h other (List.mem_cons_of_mem _ ho)
    rw [line_cons, assemble_cons, ← ih]
    by_cases he : words = []
    · rw [if_pos he, assemble_keepSpaces word [] hw hs (.inl rfl), he]
      rfl
    · rw [if_neg he, assemble_keepSpaces word _ hw hs (.inr rfl), pieces_space]

theorem assemble_append_of_plain (plain words : List Text)
    (h : ∀ word ∈ plain, Text.endsIn '\\' word = false) :
    assemble (plain ++ words) = plain ++ assemble words := by
  induction plain with
  | nil => rfl
  | cons word plain ih =>
    rw [List.cons_append, assemble_cons, attach_of_plain _ _ (h word List.mem_cons_self),
      ih fun other ho => h other (List.mem_cons_of_mem _ ho), List.cons_append]

theorem assemble_of_plain (words : List Text) (h : ∀ word ∈ words, Text.endsIn '\\' word = false) :
    assemble words = words := by
  have he := assemble_append_of_plain words [] h
  rwa [List.append_nil, assemble, List.append_nil] at he

theorem endsIn_keepSpaces (word : Text) :
    Text.endsIn '\\' (keepSpaces word) = Text.endsIn '\\' word := by
  cases word using List.reverseRecOn with
  | nil => rfl
  | append_singleton stem c =>
    rw [keepSpaces_append, Text.endsIn_concat]
    by_cases hc : c = ' '
    · have hk : keepSpaces stem ++ keepSpaces [c] = keepSpaces stem ++ ['\\'] ++ [' '] := by
        rw [hc, List.append_assoc]
        rfl
      rw [hk, Text.endsIn_concat, hc]
    · have hk : keepSpaces [c] = [c] := keepSpaces_eq_self [c] (by simpa using Ne.symm hc)
      rw [hk, Text.endsIn_concat]

theorem line_attach (word : Text) (assembled : List Text) :
    line (attach word assembled) =
      if assembled = [] then Text.dropFinal '\\' (keepSpaces word)
      else keepSpaces word ++ ' ' :: line assembled := by
  cases hw : Text.endsIn '\\' word with
  | false =>
    rw [attach_of_plain word _ hw, line_cons]
    rw [← endsIn_keepSpaces] at hw
    rw [Text.dropFinal_eq_self _ _ hw]
    by_cases ha : assembled = []
    · rw [if_pos ha, if_pos ha, List.append_nil]
    · rw [if_neg ha, if_neg ha]
  | true =>
    obtain ⟨stem, rfl⟩ := Text.exists_concat_of_endsIn _ _ hw
    have hk : keepSpaces (stem ++ ['\\']) = keepSpaces stem ++ ['\\'] := keepSpaces_append _ _
    rw [hk]
    cases assembled with
    | nil =>
      rw [attach_concat_nil, if_pos rfl, Text.dropFinal_concat, line_cons, if_pos rfl,
        List.append_nil]
    | cons next others =>
      rw [attach_concat_cons, if_neg (List.cons_ne_nil _ _), line_cons, line_cons,
        keepSpaces_append, keepSpaces_cons, if_pos rfl]
      simp

/-- Only a backslash at the end of the line is lost. -/
theorem line_assemble (words : List Text) :
    line (assemble words) = Text.dropFinal '\\' (line words) := by
  induction words with
  | nil => rfl
  | cons word words ih =>
    rw [assemble_cons, line_attach, line_cons]
    by_cases hw : words = []
    · subst hw
      rw [assemble, if_pos rfl, if_pos rfl, List.append_nil]
    · rw [if_neg (assemble_ne_nil words hw), if_neg hw, ih,
        Text.dropFinal_append '\\' ' ' _ _ (by decide)]

/-- The characters of the words, and one more for each word. -/
def weight (words : List Text) : Nat := (words.map fun word => word.length + 1).sum

theorem weight_cons (word : Text) (words : List Text) :
    weight (word :: words) = word.length + 1 + weight words := by
  rw [weight, List.map_cons, List.sum_cons, weight]

theorem weight_attach (word : Text) (assembled : List Text) :
    weight (attach word assembled) + (if Text.endsIn '\\' word then 1 else 0) =
      word.length + 1 + weight assembled := by
  cases hw : Text.endsIn '\\' word with
  | false =>
    rw [attach_of_plain word _ hw, weight_cons]
    rfl
  | true =>
    obtain ⟨stem, rfl⟩ := Text.exists_concat_of_endsIn _ _ hw
    cases assembled with
    | nil =>
      rw [attach_concat_nil, weight_cons, List.length_append]
      rfl
    | cons next others =>
      rw [attach_concat_cons, weight_cons, weight_cons]
      simp only [List.length_append, List.length_cons, List.length_nil, ↓reduceIte]
      omega

theorem weight_assemble (words : List Text) :
    weight (assemble words) + words.countP (Text.endsIn '\\') = weight words := by
  induction words with
  | nil => rfl
  | cons word words ih =>
    have ha := weight_attach word (assemble words)
    rw [assemble_cons, weight_cons, List.countP_cons]
    omega

theorem weight_map_trim_le (words : List Text) : weight (words.map Text.trim) ≤ weight words := by
  induction words with
  | nil => exact Nat.le_refl _
  | cons word words ih =>
    have hl := (Text.isInfix_trim word).length_le
    rw [List.map_cons, weight_cons, weight_cons]
    omega

theorem length_keepSpaces_trim_le (word : Text) :
    (keepSpaces (Text.trim word)).length ≤ (keepSpaces word).length := by
  obtain ⟨front, back, he⟩ := Text.isInfix_trim word
  have hk := congrArg (fun t => (keepSpaces t).length) he
  simp only [keepSpaces_append, List.length_append] at hk
  omega

theorem length_line_map_trim_le (words : List Text) :
    (line (words.map Text.trim)).length ≤ (line words).length := by
  induction words with
  | nil => exact Nat.le_refl _
  | cons word words ih =>
    have hk := length_keepSpaces_trim_le word
    rw [List.map_cons, line_cons, line_cons, List.length_append, List.length_append]
    by_cases hw : words = []
    · subst hw
      simpa using hk
    · rw [if_neg hw, if_neg (by simpa using hw), List.length_cons, List.length_cons]
      omega

structure Solid (word : Text) : Prop extends Text.Firm word where
  ne_nil : word ≠ []
  opening : word.head? ≠ some '\\'

theorem solid_concat (stem next : Text) (hw : Solid (stem ++ ['\\'])) (hn : Solid next) :
    Solid (stem ++ ' ' :: next) := by
  have hs : stem ≠ [] := by
    rintro rfl
    exact hw.opening rfl
  obtain ⟨c, rest, rfl⟩ := List.exists_cons_of_ne_nil hs
  refine ⟨⟨?_, ?_⟩, List.cons_ne_nil _ _, ?_⟩
  · intro d hd
    exact hw.head d hd
  · intro d hd
    apply hn.last d
    obtain ⟨e, tail, rfl⟩ := List.exists_cons_of_ne_nil hn.ne_nil
    rwa [List.getLast?_append_of_ne_nil _ (List.cons_ne_nil _ _),
      List.getLast?_cons_of_ne_nil (List.cons_ne_nil _ _)] at hd
  · exact hw.opening

theorem solid_assemble (words : List Text) (h : ∀ word ∈ words, Solid word)
    (hl : Text.endsIn '\\' (line words) = false) : ∀ word ∈ assemble words, Solid word := by
  induction words with
  | nil =>
    intro word hm
    cases hm
  | cons word words ih =>
    have hw := h word List.mem_cons_self
    rw [line_cons] at hl
    by_cases he : words = []
    · subst he
      rw [if_pos rfl, List.append_nil, endsIn_keepSpaces] at hl
      rw [assemble_cons, attach_of_plain word _ hl]
      intro other hm
      exact List.mem_singleton.1 hm ▸ hw
    · rw [if_neg he, Text.endsIn_append '\\' ' ' _ _ (by decide)] at hl
      have ih := ih (fun other ho => h other (List.mem_cons_of_mem _ ho)) hl
      rw [assemble_cons]
      cases hb : Text.endsIn '\\' word with
      | false =>
        rw [attach_of_plain word _ hb]
        intro other hm
        rcases List.mem_cons.1 hm with rfl | hm
        · exact hw
        · exact ih other hm
      | true =>
        obtain ⟨stem, rfl⟩ := Text.exists_concat_of_endsIn _ _ hb
        obtain ⟨next, others, ha⟩ := List.exists_cons_of_ne_nil (assemble_ne_nil words he)
        rw [ha] at ih ⊢
        rw [attach_concat_cons]
        intro other hm
        rcases List.mem_cons.1 hm with rfl | hm
        · exact solid_concat stem next hw (ih next List.mem_cons_self)
        · exact ih other (List.mem_cons_of_mem _ hm)

theorem tokens_of_map_trim (source : Text) (words : List Text) (hn : ∀ word ∈ words, word ≠ [])
    (h : (assemble (pieces source)).map Text.trim = words) : tokens source = words := by
  rw [tokens, h, List.filter_eq_self]
  intro word hm
  simpa using hn word hm

theorem firm_of_mem_tokens (source token : Text) (h : token ∈ tokens source) :
    token ≠ [] ∧ Text.Firm token := by
  rw [tokens, List.mem_filter] at h
  obtain ⟨hm, hn⟩ := h
  obtain ⟨word, _, rfl⟩ := List.mem_map.1 hm
  exact ⟨by simpa using hn, Text.firm_trim word⟩

end CommandGrammar.Token
