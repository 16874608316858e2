import Mathlib
import CommandGrammar.Name
import CommandGrammar.Text.Blank

set_option autoImplicit false

namespace CommandGrammar.Name

structure WellFormed (name : Name) : Prop where
  long : isLong name.long = true
  short : ∀ letter, name.short = some letter → letter.isAlpha = true

theorem isLong_iff (long : Text) : isLong long = true ↔
    ∃ first rest, long = first :: rest ∧ first.isLower = true ∧ rest ≠ [] ∧
      ∀ c ∈ rest, isLongChar c = true := by
  constructor
  · intro h
    match long, h with
    | first :: second :: rest, h =>
      rw [isLong, Bool.and_eq_true, List.all_eq_true] at h
      exact ⟨first, second :: rest, rfl, h.1, List.cons_ne_nil _ _, h.2⟩
  · rintro ⟨first, rest, rfl, hf, hn, hr⟩
    cases rest with
    | nil => exact absurd rfl hn
    | cons second rest =>
      rw [isLong, hf, Bool.true_and, List.all_eq_true]
      exact hr

theorem two_le_length (long : Text) (h : isLong long = true) : 2 ≤ long.length := by
  obtain ⟨first, rest, rfl, _, hne, _⟩ := (isLong_iff long).1 h
  have hr := List.length_pos_of_ne_nil hne
  rw [List.length_cons]
  omega

theorem isLongChar_of_isLower (c : Char) (h : c.isLower = true) : isLongChar c = true := by
  simp [isLongChar, h]

theorem isLongChar_of_mem (long : Text) (h : isLong long = true) (c : Char) (hc : c ∈ long) :
    isLongChar c = true := by
  obtain ⟨first, rest, rfl, hf, _, hr⟩ := (isLong_iff long).1 h
  rcases List.mem_cons.1 hc with rfl | hm
  · exact isLongChar_of_isLower c hf
  · exact hr c hm

theorem readShort?_eq_some_iff (rest : Text) (short : Option Char) :
    readShort? rest = some short ↔
      (∀ letter, short = some letter → letter.isAlpha = true) ∧
        rest = match short with
          | none => []
          | some letter => ['[', letter, ']'] := by
  cases short with
  | none =>
    rw [readShort?.eq_def]
    split
    · simp
    · simp
    · rename_i hn _
      simpa using hn
  | some letter =>
    rw [readShort?.eq_def]
    split
    · simp
    · rename_i other
      by_cases ha : other.isAlpha = true
      · simp only [ha, ↓reduceIte, Option.some.injEq]
        constructor
        · rintro rfl
          exact ⟨by simpa using ha, rfl⟩
        · rintro ⟨_, he⟩
          simpa using he
      · simp only [ha, Bool.false_eq_true, ↓reduceIte, reduceCtorEq, false_iff, not_and]
        intro hl he
        have ho : other = letter := by simpa using he
        exact ha (ho ▸ hl letter rfl)
    · rename_i hn
      simp only [reduceCtorEq, false_iff, not_and]
      intro _ he
      exact hn letter he

def suffix (name : Name) : Text :=
  match name.short with
  | none => []
  | some letter => ['[', letter, ']']

theorem render_eq (name : Name) : name.render = name.long ++ name.suffix := by
  rw [render, suffix]
  cases name.short <;> simp

theorem takeWhile_suffix (name : Name) : name.suffix.takeWhile isLongChar = [] := by
  rw [suffix]
  cases name.short <;> simp [show isLongChar '[' = false by decide]

theorem dropWhile_suffix (name : Name) : name.suffix.dropWhile isLongChar = name.suffix := by
  have h := List.takeWhile_append_dropWhile (p := isLongChar) (l := name.suffix)
  rwa [takeWhile_suffix, List.nil_append] at h

theorem read?_eq_some_iff_render (token : Text) (name : Name) :
    read? token = some name ↔ name.WellFormed ∧ token = name.render := by
  constructor
  · intro h
    rw [read?] at h
    split at h
    · rename_i hl
      obtain ⟨short, hs, rfl⟩ := Option.map_eq_some_iff.1 h
      obtain ⟨ha, he⟩ := (readShort?_eq_some_iff _ short).1 hs
      refine ⟨⟨hl, ha⟩, ?_⟩
      rw [render_eq, suffix, ← he]
      exact List.takeWhile_append_dropWhile.symm
    · exact absurd h (by simp)
  · rintro ⟨⟨hl, hs⟩, rfl⟩
    have hall := isLongChar_of_mem name.long hl
    have htake : name.render.takeWhile isLongChar = name.long := by
      rw [render_eq, List.takeWhile_append_of_pos hall, takeWhile_suffix, List.append_nil]
    have hdrop : name.render.dropWhile isLongChar = name.suffix := by
      rw [render_eq, List.dropWhile_append_of_pos hall, dropWhile_suffix]
    have hshort : readShort? name.suffix = some name.short :=
      (readShort?_eq_some_iff _ _).2 ⟨hs, rfl⟩
    rw [read?]
    simp only [htake, hdrop, hl, hshort, ↓reduceIte, Option.map_some]

theorem parse_render (name : Name) (h : name.WellFormed) : parse name.render = .ok name :=
  (parse_ok_iff _ _).2 ((read?_eq_some_iff_render _ _).2 ⟨h, rfl⟩)

def IsWritten (text : Text) : Prop := ∃ name : Name, name.WellFormed ∧ text = name.render

theorem read?_eq_none_iff (text : Text) : read? text = none ↔ ¬ IsWritten text := by
  rw [← Option.not_isSome_iff_eq_none, Option.isSome_iff_exists]
  simp only [IsWritten, read?_eq_some_iff_render]

theorem render_injective (first second : Name) (hf : first.WellFormed) (hs : second.WellFormed)
    (h : first.render = second.render) : first = second := by
  have hr := (read?_eq_some_iff_render _ _).2 ⟨hf, rfl⟩
  rw [h, (read?_eq_some_iff_render _ _).2 ⟨hs, rfl⟩] at hr
  exact (Option.some.inj hr).symm

def isNameChar (c : Char) : Bool := isLongChar c || c.isAlpha || c == '[' || c == ']'

theorem isNameChar_of_mem (name : Name) (h : name.WellFormed) (c : Char) (hc : c ∈ name.render) :
    isNameChar c = true := by
  rw [render_eq, List.mem_append] at hc
  rcases hc with hl | hs
  · simp [isNameChar, isLongChar_of_mem name.long h.long c hl]
  · rw [suffix] at hs
    cases hn : name.short with
    | none => simp [hn] at hs
    | some letter =>
      have ha := h.short letter hn
      rw [hn] at hs
      rcases (by simpa using hs : c = '[' ∨ c = letter ∨ c = ']') with rfl | rfl | rfl
      · rfl
      · simp [isNameChar, ha]
      · rfl

theorem notMem_render (name : Name) (h : name.WellFormed) (c : Char) (hc : isNameChar c = false) :
    c ∉ name.render := by
  intro hm
  rw [isNameChar_of_mem name h c hm] at hc
  exact absurd hc (by decide)

theorem isNameChar_range (c : Char) (h : isNameChar c = true) : 45 ≤ c.toNat ∧ c.toNat ≤ 122 := by
  simp only [isNameChar, isLongChar, Char.isAlpha, Char.isLower, Char.isUpper, Char.isDigit,
    Bool.or_eq_true, Bool.and_eq_true, decide_eq_true_eq, beq_iff_eq, UInt32.le_iff_toNat_le,
    ge_iff_le] at h
  -- The classes are stated on code points, where arithmetic can be done.
  change (((((97 ≤ c.toNat ∧ c.toNat ≤ 122) ∨ (48 ≤ c.toNat ∧ c.toNat ≤ 57)) ∨ c = '-') ∨
    ((65 ≤ c.toNat ∧ c.toNat ≤ 90) ∨ (97 ≤ c.toNat ∧ c.toNat ≤ 122))) ∨ c = '[') ∨ c = ']' at h
  rcases h with ((((h | h) | rfl) | (h | h)) | rfl) | rfl
  · omega
  · omega
  · decide
  · omega
  · omega
  · decide
  · decide

theorem isBlank_of_isNameChar (c : Char) (h : isNameChar c = true) : Text.isBlank c = false := by
  have hc := isNameChar_range c h
  by_contra hb
  obtain ⟨range, hm, hlo, hhi⟩ :=
    (Text.Ranges.covers_iff c 0 Text.blanks Text.blanks_ascend).1 (Bool.not_eq_false _ ▸ hb)
  simp only [Text.blanks, List.mem_cons, List.not_mem_nil, or_false] at hm
  rcases hm with rfl | rfl | rfl | rfl | rfl | rfl | rfl | rfl | rfl | rfl <;> omega

theorem wellFormed_of_isLong (long : Text) (h : isLong long = true) :
    WellFormed ⟨long, none⟩ :=
  ⟨h, fun _ hl => by cases hl⟩

theorem notMem_of_isLong (long : Text) (h : isLong long = true) (c : Char)
    (hc : isNameChar c = false) : c ∉ long :=
  notMem_render ⟨long, none⟩ (wellFormed_of_isLong long h) c hc

theorem isBlank_of_mem_isLong (long : Text) (h : isLong long = true) (c : Char) (hc : c ∈ long) :
    Text.isBlank c = false := by
  refine isBlank_of_isNameChar c ?_
  exact isNameChar_of_mem ⟨long, none⟩ (wellFormed_of_isLong long h) c hc

/-- A lowercase letter, then one or more lowercase letters, digits or hyphens. -/
def IsIdentifier (t : Text) : Prop :=
  ∃ first rest, t = first :: rest ∧ ('a' ≤ first ∧ first ≤ 'z') ∧ rest ≠ [] ∧
    ∀ c ∈ rest, ('a' ≤ c ∧ c ≤ 'z') ∨ ('0' ≤ c ∧ c ≤ '9') ∨ c = '-'

def IsLetter (c : Char) : Prop := ('A' ≤ c ∧ c ≤ 'Z') ∨ ('a' ≤ c ∧ c ≤ 'z')

/-- The long form is an identifier, and the short form a letter if there is one. -/
structure Conforms (name : Name) : Prop where
  long : IsIdentifier name.long
  short : ∀ letter, name.short = some letter → IsLetter letter

theorem isLower_iff (c : Char) : c.isLower = true ↔ 'a' ≤ c ∧ c ≤ 'z' := by
  rw [Char.isLower, Bool.and_eq_true, decide_eq_true_eq, decide_eq_true_eq]
  exact Iff.rfl

theorem isAlpha_iff (c : Char) : c.isAlpha = true ↔ IsLetter c := by
  rw [Char.isAlpha, Bool.or_eq_true, isLower_iff, Char.isUpper, decide_eq_true_eq]
  exact Iff.rfl

theorem isLongChar_iff (c : Char) : isLongChar c = true ↔
    ('a' ≤ c ∧ c ≤ 'z') ∨ ('0' ≤ c ∧ c ≤ '9') ∨ c = '-' := by
  rw [isLongChar, Bool.or_eq_true, Bool.or_eq_true, isLower_iff, Char.isDigit, Bool.and_eq_true,
    decide_eq_true_eq, decide_eq_true_eq, beq_iff_eq, or_assoc]
  exact Iff.rfl

theorem isLong_iff_isIdentifier (t : Text) : isLong t = true ↔ IsIdentifier t := by
  simp only [isLong_iff, IsIdentifier, isLower_iff, isLongChar_iff]

theorem conforms_iff (name : Name) : name.Conforms ↔ name.WellFormed := by
  constructor
  · rintro ⟨hl, hs⟩
    exact ⟨(isLong_iff_isIdentifier _).2 hl, fun letter h => (isAlpha_iff letter).2 (hs letter h)⟩
  · rintro ⟨hl, hs⟩
    exact ⟨(isLong_iff_isIdentifier _).1 hl, fun letter h => (isAlpha_iff letter).1 (hs letter h)⟩

end CommandGrammar.Name
