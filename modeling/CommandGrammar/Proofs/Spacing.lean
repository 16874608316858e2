import Mathlib
import CommandGrammar.Draft
import CommandGrammar.Proofs.Scanning
import CommandGrammar.Proofs.TokenImage

set_option autoImplicit false

/-!
# Spaces between tokens

A line may be cut at a space unless the piece before it ends in a backslash: the tokens of both
parts are then the tokens of the line. How many spaces stand in one place never counts, not even
behind a backslash, because tokens come from the pieces alone; and two lines have the same pieces
exactly if they differ in nothing but the numbers of spaces.
-/
namespace CommandGrammar
open Relation (EqvGen)

namespace Token

theorem assemble_append (front back : List Text) (h : isOpen front = false) :
    assemble (front ++ back) = assemble front ++ assemble back := by
  induction front with
  | nil => rfl
  | cons piece front ih =>
    rw [List.cons_append, assemble_cons, assemble_cons]
    by_cases hf : front = []
    · subst hf
      have hp : Text.endsIn '\\' piece = false := h
      rw [attach_of_plain piece _ hp, attach_of_plain piece _ hp]
      rfl
    · rw [isOpen_cons piece front hf] at h
      rw [ih h, attach_append piece _ _ (assemble_ne_nil front hf)]

theorem isOpen_eq_false_iff (pieces : List Text) :
    isOpen pieces = false ↔
      ∀ piece, pieces.getLast? = some piece → piece.getLast? ≠ some '\\' := by
  rw [isOpen]
  cases pieces.getLast? with
  | none => simp
  | some piece => simp [Text.endsIn]

theorem tokens_append (x y : Text) (h : isOpen (pieces x) = false) :
    tokens (x ++ ' ' :: y) = tokens x ++ tokens y := by
  rw [tokens, pieces_append, assemble_append _ _ h, List.map_append, List.filter_append]
  rfl

theorem pieces_append_spaces (x : Text) (n : Nat) :
    pieces (x ++ List.replicate n ' ') = pieces x := by
  cases n with
  | zero => rw [List.replicate_zero, List.append_nil]
  | succ n =>
    have hs := pieces_spaces n []
    rw [List.append_nil] at hs
    rw [List.replicate_succ, pieces_append, hs]
    exact List.append_nil _

theorem tokens_of_pieces_eq (x y : Text) (h : pieces x = pieces y) : tokens x = tokens y := by
  rw [tokens, tokens, h]

inductive Widens : Text → Text → Prop
  | inside (x y : Text) : Widens (x ++ ' ' :: y) (x ++ ' ' :: ' ' :: y)
  | before (x : Text) : Widens x (' ' :: x)
  | after (x : Text) : Widens x (x ++ [' '])

/-- The texts differ only in how many spaces stand between their pieces and at their ends. -/
def Respaced : Text → Text → Prop := EqvGen Widens

theorem Widens.pieces_eq (x y : Text) (h : Widens x y) : pieces x = pieces y := by
  cases h with
  | inside x y => rw [pieces_append, pieces_append, pieces_space]
  | before => exact (pieces_space x).symm
  | after => exact (pieces_append_spaces x 1).symm

/-- Behind a piece and a space both ends are inside the text. -/
theorem Widens.append (front x y : Text) (h : Widens x y) :
    Widens (front ++ ' ' :: x) (front ++ ' ' :: y) := by
  cases h with
  | inside x y =>
    have hw := Widens.inside (front ++ ' ' :: x) y
    rwa [List.append_assoc, List.append_assoc] at hw
  | before => exact .inside front x
  | after =>
    have hw := Widens.after (front ++ ' ' :: x)
    rwa [List.append_assoc] at hw

theorem Respaced.append (front x y : Text) (h : Respaced x y) :
    Respaced (front ++ ' ' :: x) (front ++ ' ' :: y) := by
  induction h with
  | rel x y hw => exact .rel _ _ (hw.append front)
  | refl x => exact .refl _
  | symm x y _ ih => exact .symm _ _ ih
  | trans x y z _ _ hxy hyz => exact .trans _ _ _ hxy hyz

theorem Respaced.pieces_eq (x y : Text) (h : Respaced x y) : pieces x = pieces y := by
  induction h with
  | rel x y hw => exact hw.pieces_eq
  | refl x => rfl
  | symm x y _ ih => exact ih.symm
  | trans x y z _ _ hxy hyz => exact hxy.trans hyz

theorem respaced_filter (texts : List Text) :
    Respaced ([' '].intercalate (texts.filter (· ≠ []))) ([' '].intercalate texts) := by
  induction texts with
  | nil => exact .refl []
  | cons text rest ih =>
    by_cases hr : rest = []
    · subst hr
      by_cases hn : text = []
      · subst hn
        exact .refl []
      · rw [List.filter_cons_of_pos (by simpa using hn)]
        exact .refl _
    · -- Behind an empty text the spaces of both sides meet, before the end one is left over.
      have hj : [' '].intercalate (text :: rest) = text ++ ' ' :: [' '].intercalate rest := by
        obtain ⟨next, others, rfl⟩ := List.exists_cons_of_ne_nil hr
        rw [List.intercalate_cons_cons, List.append_assoc]
        rfl
      rw [hj]
      by_cases hn : text = []
      · subst hn
        rw [List.filter_cons_of_neg (by simp)]
        exact .trans _ _ _ ih (.rel _ _ (.before _))
      · rw [List.filter_cons_of_pos (by simpa using hn)]
        have hm := ih.append text
        cases hf : rest.filter (· ≠ []) with
        | nil =>
          rw [hf] at hm
          rw [List.intercalate_singleton]
          exact .trans _ _ _ (.rel _ _ (.after text)) hm
        | cons next others =>
          rw [hf] at hm
          rwa [List.intercalate_cons_cons, List.append_assoc]

/-- A text differs only in spaces from its pieces over single ones. -/
theorem respaced_pieces (x : Text) : Respaced ([' '].intercalate (pieces x)) x := by
  have h := respaced_filter (x.splitOn ' ')
  rwa [List.intercalate_splitOn] at h

theorem respaced_iff (x y : Text) : Respaced x y ↔ pieces x = pieces y := by
  constructor
  · exact Respaced.pieces_eq x y
  · intro h
    have hx := respaced_pieces x
    rw [h] at hx
    exact .trans _ _ _ (.symm _ _ hx) (respaced_pieces y)

end Token

namespace Definition

/-- The source is kept and not read: the same tokens have the same content or the same fault. -/
theorem ofTokens_of_sources (source other : Text) (tokens : List Text) :
    (∃ command arguments parameters,
      ofTokens source tokens = .ok ⟨source, command, arguments, parameters, none⟩ ∧
        ofTokens other tokens = .ok ⟨other, command, arguments, parameters, none⟩) ∨
    ∃ fault, ofTokens source tokens = .error ⟨source, fault⟩ ∧
      ofTokens other tokens = .error ⟨other, fault⟩ := by
  rw [ofTokens, ofTokens]
  cases Draft.empty.addAll tokens with
  | error fault => exact .inr ⟨fault, rfl, rfl⟩
  | ok draft =>
    obtain ⟨command, arguments, parameters⟩ := draft
    cases command with
    | none => exact .inr ⟨.missingCommand, rfl, rfl⟩
    | some command => exact .inl ⟨command, arguments, parameters, rfl, rfl⟩

/-- Tokens of a line are those of its parts if the cut is not behind a backslash; a second space, or
    spaces at the ends, change no token; and texts that differ only in spaces are read alike. -/
theorem parse_of_respaced :
    (∀ x y : Text,
      (∀ piece, (Token.pieces x).getLast? = some piece → piece.getLast? ≠ some '\\') →
        Token.tokens (x ++ ' ' :: y) = Token.tokens x ++ Token.tokens y) ∧
    (∀ x y : Text, Token.tokens (x ++ ' ' :: ' ' :: y) = Token.tokens (x ++ ' ' :: y)) ∧
    (∀ (before after : Nat) (x : Text),
      Token.tokens (List.replicate before ' ' ++ x ++ List.replicate after ' ') =
        Token.tokens x) ∧
    ∀ x y : Text, Token.Respaced x y →
      (∃ command arguments parameters,
        parse x = .ok ⟨x, command, arguments, parameters, none⟩ ∧
          parse y = .ok ⟨y, command, arguments, parameters, none⟩) ∨
      ∃ fault, parse x = .error ⟨x, fault⟩ ∧ parse y = .error ⟨y, fault⟩ := by
  refine ⟨?_, ?_, ?_, ?_⟩
  · intro x y h
    exact Token.tokens_append x y ((Token.isOpen_eq_false_iff _).2 h)
  · intro x y
    exact (Token.tokens_of_pieces_eq _ _ (Token.Widens.inside x y).pieces_eq).symm
  · intro before after x
    apply Token.tokens_of_pieces_eq
    rw [List.append_assoc, Token.pieces_spaces, Token.pieces_append_spaces]
  · intro x y h
    have ht := Token.tokens_of_pieces_eq x y (h.pieces_eq)
    rw [parse, parse, ← ht]
    exact ofTokens_of_sources x y (Token.tokens x)

theorem parse_of_respaced_escapedLine :
    let front : Text := "copy --to=c:\\ d".toList
    let back : Text := "$x  \\".toList
    let wide : Text := "  copy   --to=c:\\   d ".toList
    let parameter : Parameter := .value ⟨"to".toList, none⟩ (some "c: d".toList)
    (∀ piece, (Token.pieces front).getLast? = some piece → piece.getLast? ≠ some '\\') ∧
      Token.tokens (front ++ ' ' :: back) = Token.tokens front ++ ["$x".toList] ∧
      Token.Respaced front wide ∧
      parse front = .ok ⟨front, "copy".toList, [], [parameter], none⟩ ∧
      parse wide = .ok ⟨wide, "copy".toList, [], [parameter], none⟩ := by
  intro front back wide parameter
  have hlast : ∀ piece, (Token.pieces front).getLast? = some piece →
      piece.getLast? ≠ some '\\' := by
    rintro _ ⟨⟩
    decide
  have hspaces : Token.Respaced front wide := (Token.respaced_iff _ _).2 rfl
  have hp : parse front = .ok ⟨front, "copy".toList, [], [parameter], none⟩ := rfl
  obtain ⟨happend, _, _, hparse⟩ := parse_of_respaced
  refine ⟨hlast, happend front back hlast, hspaces, hp, ?_⟩
  rcases hparse front wide hspaces with ⟨command, arguments, parameters, hf, hw⟩ | ⟨_, hf, _⟩
  · rw [hp] at hf
    cases hf
    exact hw
  · rw [hp] at hf
    cases hf

end Definition
end CommandGrammar
