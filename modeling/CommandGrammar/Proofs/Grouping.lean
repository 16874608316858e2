import Mathlib
import CommandGrammar.Proofs.Scanning

set_option autoImplicit false

namespace CommandGrammar

namespace Text

def ink (t : Text) : Text := t.filter fun c => c ≠ '\\' ∧ isBlank c = false

theorem ink_append (s t : Text) : ink (s ++ t) = ink s ++ ink t := List.filter_append _ _

theorem ink_flatten (ts : List Text) : ink ts.flatten = (ts.map ink).flatten :=
  List.filter_flatten

theorem ink_cons_of_isBlank (c : Char) (t : Text) (h : isBlank c = true) :
    ink (c :: t) = ink t := by
  rw [ink, List.filter_cons_of_neg (by simp [h])]
  rfl

theorem ink_dropWhile (t : Text) : ink (t.dropWhile isBlank) = ink t := by
  induction t with
  | nil => rfl
  | cons c t ih =>
    cases hc : isBlank c with
    | true => rw [List.dropWhile_cons_of_pos hc, ih, ink_cons_of_isBlank c t hc]
    | false => rw [List.dropWhile_cons_of_neg (by simp [hc])]

theorem ink_reverse (t : Text) : ink t.reverse = (ink t).reverse := List.filter_reverse

theorem ink_trim (t : Text) : ink (trim t) = ink t := by
  rw [trim, trimEnd, ink_reverse, ink_dropWhile, ink_reverse, List.reverse_reverse, ink_dropWhile]

theorem ink_dropFinal (t : Text) : ink (dropFinal '\\' t) = ink t := by
  cases ht : endsIn '\\' t with
  | false => rw [dropFinal_eq_self '\\' t ht]
  | true =>
    obtain ⟨stem, rfl⟩ := exists_concat_of_endsIn '\\' t ht
    rw [dropFinal_concat, ink_append]
    exact (List.append_nil _).symm

theorem ink_intercalate (ts : List Text) : ink ([' '].intercalate ts) = (ts.map ink).flatten := by
  induction ts with
  | nil => rfl
  | cons t ts ih =>
    cases ts with
    | nil => simp
    | cons next ts =>
      have hs : ink [' '] = [] := ink_cons_of_isBlank ' ' [] (by decide)
      rw [List.intercalate_cons_cons, ink_append, ink_append, ih, hs, List.append_nil]
      rfl

end Text

namespace Token

/-- `groups` are the pieces in their order; all pieces of a group but its last end in a backslash,
    and so may the last piece of all. -/
inductive Grouped : List Text → List (List Text) → Prop
  | nil : Grouped [] []
  | unfinished (group : List Text) (hn : group ≠ [])
      (ho : ∀ piece ∈ group, Text.endsIn '\\' piece = true) : Grouped group [group]
  | cons (group : List Text) (last : Text) (rest : List Text) (groups : List (List Text))
      (ho : ∀ piece ∈ group, Text.endsIn '\\' piece = true) (hl : Text.endsIn '\\' last = false)
      (h : Grouped rest groups) : Grouped (group ++ last :: rest) ((group ++ [last]) :: groups)

def groups (pieces : List Text) : List (List Text) :=
  pieces.splitBy fun piece _ => Text.endsIn '\\' piece

def joined (group : List Text) : Text := [' '].intercalate (group.map (Text.dropFinal '\\'))

theorem exists_grouped (pieces : List Text) : ∃ groups, Grouped pieces groups := by
  induction pieces with
  | nil => exact ⟨[], .nil⟩
  | cons piece pieces ih =>
    obtain ⟨groups, hg⟩ := ih
    cases hp : Text.endsIn '\\' piece with
    | false =>
      exact ⟨_, .cons [] piece pieces groups (fun other hm => by cases hm) hp hg⟩
    | true =>
      -- The piece goes to the front of the first group, if there is one.
      cases hg with
      | nil => exact ⟨_, .unfinished [piece] (List.cons_ne_nil _ _) (by simpa using hp)⟩
      | unfinished _ hn ho =>
        exact ⟨_, .unfinished (piece :: pieces) (List.cons_ne_nil _ _)
          (List.forall_mem_cons.2 ⟨hp, ho⟩)⟩
      | cons group last rest groups ho hl h =>
        exact ⟨_, .cons (piece :: group) last rest groups
          (List.forall_mem_cons.2 ⟨hp, ho⟩) hl h⟩

theorem isChain_concat (group : List Text) (last : Text)
    (ho : ∀ piece ∈ group, Text.endsIn '\\' piece = true) :
    (group ++ [last]).IsChain fun piece _ => Text.endsIn '\\' piece = true := by
  apply List.Pairwise.isChain
  rw [List.pairwise_append]
  exact ⟨List.pairwise_of_forall_mem_list fun piece hm _ _ => ho piece hm,
    List.pairwise_singleton _ _, fun piece hm _ _ => ho piece hm⟩

theorem Grouped.eq_groups (pieces : List Text) (gs : List (List Text)) (h : Grouped pieces gs) :
    gs = groups pieces := by
  induction h with
  | nil => rfl
  | unfinished group hn ho =>
    refine (List.splitBy_of_isChain hn ?_).symm
    exact (List.pairwise_of_forall_mem_list fun piece hm _ _ => ho piece hm).isChain
  | cons group last rest gs ho hl _ ih =>
    have hs := List.splitBy_of_isChain (by simp) (isChain_concat group last ho)
    have hclosed : ∀ piece ∈ (group ++ [last]).getLast?, ∀ next ∈ rest.head?,
        Text.endsIn '\\' piece = false := by
      intro piece hp _ _
      obtain rfl : last = piece := by simpa using hp
      exact hl
    have ha := List.splitBy_append (r := fun piece _ => Text.endsIn '\\' piece) hclosed
    rw [hs, ← List.append_cons] at ha
    rw [groups, ha, ih]
    rfl

theorem grouped_iff (pieces : List Text) (gs : List (List Text)) :
    Grouped pieces gs ↔ gs = groups pieces := by
  constructor
  · exact Grouped.eq_groups pieces gs
  · rintro rfl
    obtain ⟨gs, hg⟩ := exists_grouped pieces
    exact hg.eq_groups pieces gs ▸ hg

theorem flatten_groups (pieces : List Text) : (groups pieces).flatten = pieces :=
  List.flatten_splitBy _ pieces

theorem joined_singleton (piece : Text) : joined [piece] = Text.dropFinal '\\' piece := by
  rw [joined, List.map_singleton, List.intercalate_singleton]

theorem joined_cons (piece : Text) (group : List Text) (hn : group ≠ []) :
    joined (piece :: group) = Text.dropFinal '\\' piece ++ ' ' :: joined group := by
  obtain ⟨next, others, rfl⟩ := List.exists_cons_of_ne_nil hn
  rw [joined, List.map_cons, List.map_cons, List.intercalate_cons_cons, List.append_assoc]
  rfl

theorem assemble_open_cons (piece : Text) (group rest others : List Text)
    (ho : Text.endsIn '\\' piece = true) (hn : group ≠ [])
    (h : assemble (group ++ rest) = joined group :: others) :
    assemble (piece :: (group ++ rest)) = joined (piece :: group) :: others := by
  obtain ⟨stem, rfl⟩ := Text.exists_concat_of_endsIn _ _ ho
  rw [assemble_cons, h, attach_concat_cons, joined_cons _ _ hn, Text.dropFinal_concat]

theorem assemble_unfinished (group : List Text) (hn : group ≠ [])
    (ho : ∀ piece ∈ group, Text.endsIn '\\' piece = true) : assemble group = [joined group] := by
  induction group with
  | nil => exact absurd rfl hn
  | cons piece group ih =>
    obtain ⟨hp, ho⟩ := List.forall_mem_cons.1 ho
    by_cases hg : group = []
    · rw [hg, assemble_singleton, joined_singleton]
    · have h := assemble_open_cons piece group [] [] hp hg (by rw [List.append_nil, ih hg ho])
      rwa [List.append_nil] at h

theorem assemble_closed (group : List Text) (last : Text) (rest : List Text)
    (ho : ∀ piece ∈ group, Text.endsIn '\\' piece = true)
    (hl : Text.endsIn '\\' last = false) :
    assemble (group ++ last :: rest) = joined (group ++ [last]) :: assemble rest := by
  rw [List.append_cons]
  induction group with
  | nil =>
    rw [List.nil_append, joined_singleton, Text.dropFinal_eq_self _ _ hl]
    exact attach_of_plain last _ hl
  | cons piece group ih =>
    obtain ⟨hp, ho⟩ := List.forall_mem_cons.1 ho
    exact assemble_open_cons piece (group ++ [last]) rest _ hp (by simp) (ih ho)

theorem Grouped.assemble_eq (pieces : List Text) (gs : List (List Text)) (h : Grouped pieces gs) :
    assemble pieces = gs.map joined := by
  induction h with
  | nil => rfl
  | unfinished group hn ho => exact assemble_unfinished group hn ho
  | cons group last rest gs ho hl _ ih =>
    rw [assemble_closed group last rest ho hl, ih, List.map_cons]

theorem assemble_eq_groups (pieces : List Text) :
    assemble pieces = (groups pieces).map joined :=
  Grouped.assemble_eq pieces _ ((grouped_iff pieces _).2 rfl)

theorem ink_joined (group : List Text) : Text.ink (joined group) = Text.ink group.flatten := by
  rw [joined, Text.ink_intercalate, List.map_map, Text.ink_flatten]
  congr 1
  exact List.map_congr_left fun piece _ => Text.ink_dropFinal piece

theorem ink_pieces (source : Text) : Text.ink (pieces source).flatten = Text.ink source := by
  have hs : [' '].intercalate (source.splitOn ' ') = source := List.intercalate_splitOn ' '
  have hi := Text.ink_intercalate (source.splitOn ' ')
  rw [hs, ← Text.ink_flatten] at hi
  rw [hi, pieces, List.flatten_filter_ne_nil]

theorem ink_tokens (source : Text) : Text.ink (tokens source).flatten = Text.ink source := by
  have hg : ∀ group, Text.ink (Text.trim (joined group)) = Text.ink group.flatten := by
    intro group
    rw [Text.ink_trim, ink_joined]
  rw [tokens, List.flatten_filter_ne_nil, assemble_eq_groups, Text.ink_flatten, List.map_map,
    List.map_map]
  calc
    ((groups (pieces source)).map fun group => Text.ink (Text.trim (joined group))).flatten =
        ((groups (pieces source)).map fun group => Text.ink group.flatten).flatten :=
      congrArg List.flatten (List.map_congr_left fun group _ => hg group)
    _ = Text.ink ((groups (pieces source)).map List.flatten).flatten := by
      rw [Text.ink_flatten, List.map_map]
      rfl
    _ = Text.ink (pieces source).flatten := by
      rw [← List.flatten_flatten, flatten_groups]
    _ = Text.ink source := ink_pieces source

/-- Tokens are the groups of pieces, joined and trimmed. One pass over the line from the front finds
    them, always has a token to go on with when it needs one, and loses only backslashes and
    blanks. -/
theorem tokens_eq_groups (source : Text) :
    (∀ gs, Grouped (pieces source) gs ↔ gs = groups (pieces source)) ∧
      (groups (pieces source)).flatten = pieces source ∧
      tokens source =
        ((groups (pieces source)).map fun group => Text.trim (joined group)).filter (· ≠ []) ∧
      tokens source =
        ((Scan.run (source.splitOn ' ')).tokens.map Text.trim).filter (· ≠ []) ∧
      (∀ texts, (Scan.run texts).escaped = true → (Scan.run texts).tokens ≠ []) ∧
      Text.ink (tokens source).flatten = Text.ink source := by
  refine ⟨grouped_iff _, flatten_groups _, ?_, ?_, ?_, ink_tokens source⟩
  · rw [tokens, assemble_eq_groups, List.map_map]
    rfl
  · rw [tokens, (Scan.reads_run _).tokens]
    rfl
  · intro texts
    exact (Scan.reads_run texts).tokens_ne_nil

/-- Three pieces of which the second is nothing but a backslash, and a piece whose backslash has no
    piece to go on with. -/
theorem tokens_eq_groups_escapedLine :
    let line : Text := "a\\ \\  \\b  c\\\\ ".toList
    groups (pieces line) =
        [["a\\".toList, "\\".toList, "\\b".toList], ["c\\\\".toList]] ∧
      tokens line = ["a  \\b".toList, "c\\".toList] ∧
      (Scan.run (line.splitOn ' ')).escaped = true ∧ (Scan.run (line.splitOn ' ')).tokens ≠ [] := by
  intro line
  have hg : groups (pieces line) =
      [["a\\".toList, "\\".toList, "\\b".toList], ["c\\\\".toList]] := rfl
  have he : (Scan.run (line.splitOn ' ')).escaped = true := rfl
  obtain ⟨_, _, ht, _, hlast, _⟩ := tokens_eq_groups line
  rw [hg] at ht
  exact ⟨hg, ht, he, hlast _ he⟩

end Token
end CommandGrammar
