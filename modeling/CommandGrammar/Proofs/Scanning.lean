import Mathlib
import CommandGrammar.Proofs.Assembly

set_option autoImplicit false

namespace CommandGrammar.Token

/-- The tokens so far, and whether the next piece belongs to the last of them. -/
structure Scan where
  tokens : List Text
  escaped : Bool
  deriving DecidableEq, Repr

namespace Scan

def start : Scan := ⟨[], false⟩

def feed (scan : Scan) (text : Text) : Scan :=
  if text = [] then scan
  else
    let kept := Text.dropFinal '\\' text
    ⟨if scan.escaped then scan.tokens.modifyLast (· ++ ' ' :: kept) else scan.tokens ++ [kept],
      Text.endsIn '\\' text⟩

def run (texts : List Text) : Scan := texts.foldl feed start

theorem run_concat (texts : List Text) (text : Text) :
    run (texts ++ [text]) = (run texts).feed text := by
  rw [run, List.foldl_concat, run]

end Scan

/-- Whether the last piece wants another one. -/
def isOpen (pieces : List Text) : Bool := pieces.getLast?.any (Text.endsIn '\\')

theorem isOpen_concat (pieces : List Text) (piece : Text) :
    isOpen (pieces ++ [piece]) = Text.endsIn '\\' piece := by
  rw [isOpen, List.getLast?_concat, Option.any_some]

theorem isOpen_cons (piece : Text) (pieces : List Text) (h : pieces ≠ []) :
    isOpen (piece :: pieces) = isOpen pieces := by
  rw [isOpen, isOpen, List.getLast?_cons_of_ne_nil h]

theorem assemble_singleton (piece : Text) : assemble [piece] = [Text.dropFinal '\\' piece] :=
  attach_nil piece

theorem attach_append (word : Text) (front back : List Text) (h : front ≠ []) :
    attach word (front ++ back) = attach word front ++ back := by
  obtain ⟨next, others, rfl⟩ := List.exists_cons_of_ne_nil h
  rw [attach.eq_def, attach.eq_def]
  split <;> rfl

theorem attach_modifyLast (word next : Text) (assembled : List Text) (h : assembled ≠ []) :
    attach word (assembled.modifyLast (· ++ ' ' :: next)) =
      (attach word assembled).modifyLast (· ++ ' ' :: next) := by
  obtain ⟨front, last, rfl⟩ := (List.eq_nil_or_concat' assembled).resolve_left h
  rw [List.modifyLast_concat]
  cases front with
  | nil =>
    cases hw : Text.endsIn '\\' word with
    | false =>
      rw [attach_of_plain word _ hw, attach_of_plain word _ hw]
      exact (List.modifyLast_concat (· ++ ' ' :: next) last [word]).symm
    | true =>
      obtain ⟨stem, rfl⟩ := Text.exists_concat_of_endsIn _ _ hw
      have hl := List.modifyLast_concat (· ++ ' ' :: next) (stem ++ ' ' :: last) []
      rw [List.nil_append, List.nil_append, attach_concat_cons, attach_concat_cons]
      simpa using hl.symm
  | cons first front =>
    rw [attach_append _ _ _ (List.cons_ne_nil _ _), attach_append _ _ _ (List.cons_ne_nil _ _),
      List.modifyLast_concat]

theorem assemble_concat (pieces : List Text) (piece : Text) :
    assemble (pieces ++ [piece]) =
      if isOpen pieces then
        (assemble pieces).modifyLast (· ++ ' ' :: Text.dropFinal '\\' piece)
      else assemble pieces ++ [Text.dropFinal '\\' piece] := by
  induction pieces with
  | nil => exact assemble_singleton piece
  | cons first pieces ih =>
    rw [List.cons_append, assemble_cons, assemble_cons, ih]
    cases pieces with
    | nil =>
      have ho : isOpen [first] = Text.endsIn '\\' first := isOpen_concat [] first
      rw [ho, ← assemble_cons, assemble_singleton]
      change attach first [Text.dropFinal '\\' piece] = _
      cases hw : Text.endsIn '\\' first with
      | false =>
        rw [attach_of_plain first _ hw, Text.dropFinal_eq_self _ _ hw]
        rfl
      | true =>
        obtain ⟨stem, rfl⟩ := Text.exists_concat_of_endsIn _ _ hw
        rw [attach_concat_cons, Text.dropFinal_concat, if_pos rfl]
        exact (List.modifyLast_concat (· ++ ' ' :: Text.dropFinal '\\' piece) stem []).symm
    | cons second pieces =>
      have hne := List.cons_ne_nil second pieces
      have ha := assemble_ne_nil _ hne
      rw [isOpen_cons first _ hne]
      split
      · exact attach_modifyLast first _ _ ha
      · exact attach_append first _ _ ha

namespace Scan

structure Reads (pieces : List Text) (scan : Scan) : Prop where
  tokens : scan.tokens = assemble pieces
  escaped : scan.escaped = isOpen pieces

theorem reads_start : Reads [] start := ⟨rfl, rfl⟩

theorem Reads.feed (pieces : List Text) (scan : Scan) (text : Text) (h : Reads pieces scan)
    (hn : text ≠ []) : Reads (pieces ++ [text]) (scan.feed text) := by
  rw [Scan.feed, if_neg hn]
  refine ⟨?_, (isOpen_concat pieces text).symm⟩
  rw [assemble_concat, ← h.tokens, ← h.escaped]

theorem reads_run (texts : List Text) : Reads (texts.filter (· ≠ [])) (run texts) := by
  induction texts using List.reverseRecOn with
  | nil => exact reads_start
  | append_singleton texts text ih =>
    rw [run_concat, List.filter_append]
    by_cases hn : text = []
    · subst hn
      simpa [feed] using ih
    · simpa [hn] using ih.feed _ _ text hn

theorem Reads.tokens_ne_nil (pieces : List Text) (scan : Scan) (h : Reads pieces scan)
    (he : scan.escaped = true) : scan.tokens ≠ [] := by
  rw [h.tokens]
  apply assemble_ne_nil
  rintro rfl
  rw [h.escaped] at he
  cases he

end Scan
end CommandGrammar.Token
