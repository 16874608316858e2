import Mathlib
import CommandGrammar.Proofs.NameForm

set_option autoImplicit false

/-!
# The pattern of names

The pattern that an error tells people about is a regular expression, and a name is read exactly if
the whole text matches it. What its two groups capture is the name, and the name's writing is the
text: neither loses anything, so reading names and writing them are inverse.
-/
namespace CommandGrammar

inductive Regex where
  | escaped (c : Char)
  | oneOf (ranges : List (Char × Char))
  | sequence (first second : Regex)
  | repeated (item : Regex)
  | optional (item : Regex)
  | group (label : Text) (item : Regex)

namespace Regex

def renderRange (range : Char × Char) : Text :=
  if range.1 = range.2 then [range.1] else [range.1, '-', range.2]

/-- What is repeated has to be a single character of a class, to need no brackets. -/
def render : Regex → Text
  | .escaped c => ['\\', c]
  | .oneOf ranges => '[' :: ranges.flatMap renderRange ++ [']']
  | .sequence first second => first.render ++ second.render
  | .repeated item => item.render ++ ['+']
  | .optional item => "(?:".toList ++ item.render ++ ")?".toList
  | .group label item => "(?P<".toList ++ label ++ '>' :: item.render ++ [')']

def InClass (ranges : List (Char × Char)) (c : Char) : Prop :=
  ∃ range ∈ ranges, range.1 ≤ c ∧ c ≤ range.2

/-- The pattern matches the whole text, and its groups capture these texts; of a group that is
    repeated the last text comes first. -/
inductive Matches : Regex → Text → List (Text × Text) → Prop
  | escaped (c : Char) : Matches (.escaped c) [c] []
  | oneOf (ranges : List (Char × Char)) (c : Char) (h : InClass ranges c) :
      Matches (.oneOf ranges) [c] []
  | sequence (first second : Regex) (s t : Text) (captured next : List (Text × Text))
      (hs : Matches first s captured) (ht : Matches second t next) :
      Matches (.sequence first second) (s ++ t) (captured ++ next)
  | once (item : Regex) (t : Text) (captured : List (Text × Text))
      (h : Matches item t captured) : Matches (.repeated item) t captured
  | again (item : Regex) (s t : Text) (captured next : List (Text × Text))
      (hs : Matches item s captured) (ht : Matches (.repeated item) t next) :
      Matches (.repeated item) (s ++ t) (next ++ captured)
  | absent (item : Regex) : Matches (.optional item) [] []
  | present (item : Regex) (t : Text) (captured : List (Text × Text))
      (h : Matches item t captured) : Matches (.optional item) t captured
  | group (label : Text) (item : Regex) (t : Text) (captured : List (Text × Text))
      (h : Matches item t captured) : Matches (.group label item) t ((label, t) :: captured)

theorem matches_escaped_iff (c : Char) (t : Text) (captured : List (Text × Text)) :
    (escaped c).Matches t captured ↔ t = [c] ∧ captured = [] := by
  constructor
  · rintro ⟨⟩
    exact ⟨rfl, rfl⟩
  · rintro ⟨rfl, rfl⟩
    exact .escaped c

theorem matches_oneOf_iff (ranges : List (Char × Char)) (t : Text)
    (captured : List (Text × Text)) :
    (oneOf ranges).Matches t captured ↔
      ∃ c, InClass ranges c ∧ t = [c] ∧ captured = [] := by
  constructor
  · rintro ⟨⟩
    rename_i c h
    exact ⟨c, h, rfl, rfl⟩
  · rintro ⟨c, h, rfl, rfl⟩
    exact .oneOf ranges c h

theorem matches_sequence_iff (first second : Regex) (t : Text) (captured : List (Text × Text)) :
    (sequence first second).Matches t captured ↔
      ∃ front back earlier later, first.Matches front earlier ∧ second.Matches back later ∧
        t = front ++ back ∧ captured = earlier ++ later := by
  constructor
  · rintro ⟨⟩
    exact ⟨_, _, _, _, ‹_›, ‹_›, rfl, rfl⟩
  · rintro ⟨front, back, earlier, later, hf, hb, rfl, rfl⟩
    exact .sequence first second front back earlier later hf hb

theorem matches_optional_iff (item : Regex) (t : Text) (captured : List (Text × Text)) :
    (optional item).Matches t captured ↔ (t = [] ∧ captured = []) ∨ item.Matches t captured := by
  constructor
  · rintro ⟨⟩
    · exact .inl ⟨rfl, rfl⟩
    · exact .inr ‹_›
  · rintro (⟨rfl, rfl⟩ | h)
    · exact .absent item
    · exact .present item t captured h

theorem matches_group_iff (label : Text) (item : Regex) (t : Text)
    (captured : List (Text × Text)) :
    (group label item).Matches t captured ↔
      ∃ inner, item.Matches t inner ∧ captured = (label, t) :: inner := by
  constructor
  · rintro ⟨⟩
    exact ⟨_, ‹_›, rfl⟩
  · rintro ⟨inner, h, rfl⟩
    exact .group label item t inner h

theorem matches_repeated_oneOf_iff (ranges : List (Char × Char)) (t : Text)
    (captured : List (Text × Text)) :
    (repeated (oneOf ranges)).Matches t captured ↔
      t ≠ [] ∧ (∀ c ∈ t, InClass ranges c) ∧ captured = [] := by
  constructor
  · intro h
    -- The induction is on the match; only its two cases for repetitions can occur.
    generalize hp : repeated (oneOf ranges) = pattern at h
    induction h with
    | once item t captured h =>
      cases hp
      obtain ⟨c, hc, rfl, rfl⟩ := (matches_oneOf_iff _ _ _).1 h
      exact ⟨List.cons_ne_nil _ _, List.forall_mem_singleton.2 hc, rfl⟩
    | again item s t captured next hs _ _ ih =>
      cases hp
      obtain ⟨c, hc, rfl, rfl⟩ := (matches_oneOf_iff _ _ _).1 hs
      obtain ⟨_, ht, rfl⟩ := ih rfl
      exact ⟨List.cons_ne_nil _ _, List.forall_mem_cons.2 ⟨hc, ht⟩, rfl⟩
    | _ => cases hp
  · rintro ⟨hne, hall, rfl⟩
    induction t with
    | nil => exact absurd rfl hne
    | cons c rest ih =>
      obtain ⟨hc, hrest⟩ := List.forall_mem_cons.1 hall
      by_cases hr : rest = []
      · rw [hr]
        exact .once _ _ _ (.oneOf ranges c hc)
      · exact .again _ [c] rest [] [] (.oneOf ranges c hc) (ih hr hrest)

end Regex

namespace Name
open Regex

def longRegex : Regex :=
  .sequence (.oneOf [('a', 'z')]) (.repeated (.oneOf [('a', 'z'), ('0', '9'), ('-', '-')]))

def shortRegex : Regex :=
  .sequence (.escaped '[')
    (.sequence (.group "short".toList (.oneOf [('A', 'Z'), ('a', 'z')])) (.escaped ']'))

/-- The pattern of names without the marks for the two ends of the text. -/
def regex : Regex := .sequence (.group "long".toList longRegex) (.optional shortRegex)

theorem pattern_eq_render : pattern = '^' :: regex.render ++ ['$'] := rfl

theorem inClass_first_iff (c : Char) : InClass [('a', 'z')] c ↔ 'a' ≤ c ∧ c ≤ 'z' := by
  simp [InClass]

theorem inClass_rest_iff (c : Char) : InClass [('a', 'z'), ('0', '9'), ('-', '-')] c ↔
    ('a' ≤ c ∧ c ≤ 'z') ∨ ('0' ≤ c ∧ c ≤ '9') ∨ c = '-' := by
  have hyphen : '-' ≤ c ∧ c ≤ '-' ↔ c = '-' := and_comm.trans le_antisymm_iff.symm
  simp [InClass, hyphen]

theorem inClass_letter_iff (c : Char) : InClass [('A', 'Z'), ('a', 'z')] c ↔ IsLetter c := by
  simp [InClass, IsLetter]

theorem matches_longRegex_iff (t : Text) (captured : List (Text × Text)) :
    longRegex.Matches t captured ↔ IsIdentifier t ∧ captured = [] := by
  rw [longRegex, matches_sequence_iff]
  constructor
  · rintro ⟨front, back, earlier, later, hf, hb, rfl, rfl⟩
    obtain ⟨first, hc, rfl, rfl⟩ := (matches_oneOf_iff _ _ _).1 hf
    obtain ⟨hne, hall, rfl⟩ := (matches_repeated_oneOf_iff _ _ _).1 hb
    exact ⟨⟨first, back, rfl, (inClass_first_iff first).1 hc, hne,
      fun c hm => (inClass_rest_iff c).1 (hall c hm)⟩, rfl⟩
  · rintro ⟨⟨first, rest, rfl, hf, hne, hr⟩, rfl⟩
    have hfirst : (oneOf [('a', 'z')]).Matches [first] [] :=
      .oneOf _ first ((inClass_first_iff first).2 hf)
    have hrest := (matches_repeated_oneOf_iff _ rest []).2
      ⟨hne, fun c hm => (inClass_rest_iff c).2 (hr c hm), rfl⟩
    exact ⟨[first], rest, [], [], hfirst, hrest, rfl, rfl⟩

theorem matches_shortRegex_iff (t : Text) (captured : List (Text × Text)) :
    shortRegex.Matches t captured ↔
      ∃ letter, IsLetter letter ∧ t = ['[', letter, ']'] ∧
        captured = [("short".toList, [letter])] := by
  simp only [shortRegex, matches_sequence_iff, matches_escaped_iff, matches_group_iff,
    matches_oneOf_iff, inClass_letter_iff]
  constructor
  · rintro ⟨_, _, _, _, ⟨rfl, rfl⟩, ⟨_, _, _, _, ⟨_, ⟨letter, hl, rfl, rfl⟩, rfl⟩, ⟨rfl, rfl⟩, rfl,
      rfl⟩, rfl, rfl⟩
    exact ⟨letter, hl, rfl, rfl⟩
  · rintro ⟨letter, hl, rfl, rfl⟩
    exact ⟨['['], _, [], _, ⟨rfl, rfl⟩,
      ⟨[letter], [']'], _, [], ⟨[], ⟨letter, hl, rfl, rfl⟩, rfl⟩, ⟨rfl, rfl⟩, rfl, rfl⟩, rfl, rfl⟩

def captures (name : Name) : List (Text × Text) :=
  ("long".toList, name.long) ::
    (name.short.map fun letter => ("short".toList, [letter])).toList

theorem matches_regex_iff (t : Text) (captured : List (Text × Text)) :
    regex.Matches t captured ↔
      ∃ name : Name, name.Conforms ∧ t = name.render ∧ captured = name.captures := by
  rw [regex, matches_sequence_iff]
  constructor
  · rintro ⟨long, back, earlier, later, hf, hb, rfl, rfl⟩
    obtain ⟨inner, hlong, rfl⟩ := (matches_group_iff _ _ _ _).1 hf
    obtain ⟨hl, rfl⟩ := (matches_longRegex_iff _ _).1 hlong
    rcases (matches_optional_iff _ _ _).1 hb with ⟨rfl, rfl⟩ | hshort
    · exact ⟨⟨long, none⟩, ⟨hl, fun _ h => by cases h⟩, List.append_nil long, rfl⟩
    · obtain ⟨letter, hs, rfl, rfl⟩ := (matches_shortRegex_iff _ _).1 hshort
      exact ⟨⟨long, some letter⟩, ⟨hl, fun _ h => Option.some.inj h ▸ hs⟩, rfl, rfl⟩
  · rintro ⟨⟨long, short⟩, ⟨hl, hs⟩, rfl, rfl⟩
    have hf := Matches.group "long".toList longRegex long []
      ((matches_longRegex_iff long []).2 ⟨hl, rfl⟩)
    cases short with
    | none =>
      exact ⟨long, [], _, [], hf, .absent shortRegex, (List.append_nil long).symm, rfl⟩
    | some letter =>
      have hb := (matches_shortRegex_iff _ _).2 ⟨letter, hs letter rfl, rfl, rfl⟩
      exact ⟨long, _, _, _, hf, .present _ _ _ hb, rfl, rfl⟩

theorem parse_eq_ok_iff_conforms (token : Text) (name : Name) :
    parse token = .ok name ↔ name.Conforms ∧ token = name.render := by
  rw [parse_ok_iff, read?_eq_some_iff_render, conforms_iff]

theorem parse_eq_error_iff_conforms (token : Text) (error : NameError) :
    parse token = .error error ↔
      (∀ name : Name, name.Conforms → token ≠ name.render) ∧ error = ⟨token⟩ := by
  rw [parse_error_iff, read?_eq_none_iff, IsWritten]
  simp only [conforms_iff, not_exists, not_and, ne_eq]

theorem lookup_long_captures (name : Name) :
    name.captures.lookup "long".toList = some name.long := rfl

theorem lookup_short_captures (name : Name) :
    (name.captures.lookup "short".toList).bind List.head? = name.short := by
  rw [captures]
  cases name.short <;> rfl

theorem parse_eq_ok_iff_matches (token : Text) (name : Name) :
    parse token = .ok name ↔
      ∃ captured, regex.Matches token captured ∧
        captured.lookup "long".toList = some name.long ∧
          (captured.lookup "short".toList).bind List.head? = name.short := by
  rw [parse_eq_ok_iff_conforms]
  constructor
  · rintro ⟨hc, rfl⟩
    exact ⟨name.captures, (matches_regex_iff _ _).2 ⟨name, hc, rfl, rfl⟩,
      lookup_long_captures name, lookup_short_captures name⟩
  · rintro ⟨captured, hm, hl, hs⟩
    obtain ⟨other, hc, rfl, rfl⟩ := (matches_regex_iff _ _).1 hm
    rw [lookup_long_captures, Option.some_inj] at hl
    rw [lookup_short_captures] at hs
    obtain ⟨long, short⟩ := name
    obtain rfl : other.long = long := hl
    obtain rfl : other.short = short := hs
    exact ⟨hc, rfl⟩

/-- A text is a name exactly if it is the writing of a name that conforms to the grammar, which is
    to say that it matches the pattern; the text and the name then determine each other. Any other
    text is refused and kept in the error. -/
theorem parse_inverse_render :
    (∀ token name, parse token = .ok name ↔ name.Conforms ∧ token = name.render) ∧
    (∀ token error, parse token = .error error ↔
      (∀ name : Name, name.Conforms → token ≠ name.render) ∧ error = ⟨token⟩) ∧
    (∀ token name, parse token = .ok name → name.render = token) ∧
    (∀ name : Name, name.Conforms → parse name.render = .ok name) ∧
    (∀ first second name, parse first = .ok name → parse second = .ok name → first = second) ∧
    pattern = '^' :: regex.render ++ ['$'] ∧
    ∀ token name, parse token = .ok name ↔
      ∃ captured, regex.Matches token captured ∧
        captured.lookup "long".toList = some name.long ∧
          (captured.lookup "short".toList).bind List.head? = name.short := by
  refine ⟨parse_eq_ok_iff_conforms, parse_eq_error_iff_conforms, ?_, ?_, ?_, pattern_eq_render,
    parse_eq_ok_iff_matches⟩
  · intro token name h
    exact ((parse_eq_ok_iff_conforms token name).1 h).2.symm
  · intro name h
    exact (parse_eq_ok_iff_conforms _ name).2 ⟨h, rfl⟩
  · intro first second name hf hs
    rw [((parse_eq_ok_iff_conforms first name).1 hf).2,
      ((parse_eq_ok_iff_conforms second name).1 hs).2]

/-- A short form in brackets is captured; a line break after the brackets is no part of a name. -/
theorem parse_inverse_render_bracketed :
    let name : Name := ⟨"dry-run2".toList, some 'N'⟩
    name.Conforms ∧ parse "dry-run2[N]".toList = .ok name ∧ parse name.render = .ok name ∧
      (∃ captured, regex.Matches "dry-run2[N]".toList captured ∧
        captured.lookup "long".toList = some "dry-run2".toList) ∧
      (∀ token, parse token = .ok name → token = "dry-run2[N]".toList) ∧
      ∀ other : Name, other.Conforms → "dry-run2[N]\n".toList ≠ other.render := by
  intro name
  have hp : parse "dry-run2[N]".toList = .ok name := rfl
  have hr : parse "dry-run2[N]\n".toList = .error ⟨"dry-run2[N]\n".toList⟩ := rfl
  obtain ⟨hok, herror, _, hback, hunique, _, hmatches⟩ := parse_inverse_render
  have hc := ((hok _ _).1 hp).1
  obtain ⟨captured, hm, hl, _⟩ := (hmatches _ _).1 hp
  exact ⟨hc, hp, hback name hc, ⟨captured, hm, hl⟩, fun token h => hunique token _ name h hp,
    ((herror _ _).1 hr).1⟩

end Name
end CommandGrammar
