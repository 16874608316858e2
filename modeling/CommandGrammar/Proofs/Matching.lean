import Mathlib
import CommandGrammar.CommandLine

set_option autoImplicit false

/-!
# Matching a command line

The lines of output come from the positional words alone and the bound parameters from the options
alone, so it does not count how the two are mixed. The first option that no parameter answers to
ends the matching; of the words before it the positional ones count, and after it none. Where no two
parameters share a name, a parameter in force is bound by the first option that names it.
-/
namespace CommandGrammar

namespace Word

def isOption (token : Text) : Bool := token.head? == some '-'

inductive Stripped : Text → Text → Prop
  | double (text : Text) : Stripped ('-' :: '-' :: text) text
  | single (text : Text) (h : isOption text = false) : Stripped ('-' :: text) text

/-- The first `=` ends the name; without one the value is `1`. -/
inductive Spells : Word → Text → Prop
  | setting (token name value : Text) (hs : Stripped token (name ++ '=' :: value))
      (hn : '=' ∉ name) : Spells (.option name value) token
  | presence (token name : Text) (hs : Stripped token name) (hn : '=' ∉ name) :
      Spells (.option name ['1']) token
  | positional (token : Text) (h : isOption token = false) : Spells (.positional token) token

theorem isOption_iff (token : Text) : isOption token = true ↔ ∃ text, token = '-' :: text := by
  rw [isOption, beq_iff_eq, List.head?_eq_some_iff]

theorem exists_stripped (token : Text) (h : isOption token = true) :
    ∃ text, Stripped token text := by
  obtain ⟨text, rfl⟩ := (isOption_iff token).1 h
  cases ht : isOption text with
  | false => exact ⟨text, .single text ht⟩
  | true =>
    obtain ⟨rest, rfl⟩ := (isOption_iff text).1 ht
    exact ⟨rest, .double rest⟩

theorem isOption_of_stripped (token text : Text) (h : Stripped token text) :
    isOption token = true := by
  cases h <;> rfl

theorem ofToken_of_stripped (token text : Text) (h : Stripped token text) :
    ofToken token = ofBinding text := by
  cases h with
  | double => rfl
  | single _ h =>
    rw [ofToken.eq_def]
    split
    · rename_i he
      cases he
      cases h
    · rename_i he
      cases he
      rfl
    · rename_i hn
      exact absurd rfl (hn _)

theorem ofToken_positional (token : Text) (h : isOption token = false) :
    ofToken token = .positional token := by
  rw [ofToken.eq_def]
  split
  · cases h
  · cases h
  · rfl

theorem ofToken_of_spells (word : Word) (token : Text) (h : Spells word token) :
    ofToken token = word := by
  cases h with
  | setting _ name value hs hn =>
    rw [ofToken_of_stripped token _ hs, ofBinding, Text.cutAt?_append '=' name value hn]
  | presence _ name hs hn =>
    rw [ofToken_of_stripped token name hs, ofBinding, (Text.cutAt?_eq_none_iff '=' name).2 hn]
  | positional _ h => exact ofToken_positional token h

theorem exists_spells (token : Text) (h : isOption token = true) :
    ∃ name value, Spells (.option name value) token := by
  obtain ⟨text, hs⟩ := exists_stripped token h
  by_cases hc : '=' ∈ text
  · obtain ⟨name, value, rfl, hn⟩ := List.eq_append_cons_of_mem hc
    exact ⟨name, value, .setting token name value hs hn⟩
  · exact ⟨text, ['1'], .presence token text hs hc⟩

theorem isOption_of_spells (name value token : Text) (h : Spells (.option name value) token) :
    isOption token = true := by
  cases h with
  | setting _ _ _ hs _ => exact isOption_of_stripped token _ hs
  | presence _ _ hs _ => exact isOption_of_stripped token _ hs

/-- An option that goes by one of the names. -/
def Names (names : List Text) (token : Text) : Prop :=
  ∃ name ∈ names, ∃ value, Spells (.option name value) token

def Strange (names : List Text) (token : Text) : Prop :=
  ∃ name value, Spells (.option name value) token ∧ name ∉ names

theorem names_or_strange (names : List Text) (token : Text) (h : isOption token = true) :
    Names names token ∨ Strange names token := by
  obtain ⟨name, value, hs⟩ := exists_spells token h
  by_cases hn : name ∈ names
  · exact .inl ⟨name, hn, value, hs⟩
  · exact .inr ⟨name, value, hs, hn⟩

theorem isOption_of_strange (names : List Text) (token : Text) (h : Strange names token) :
    isOption token = true := by
  obtain ⟨name, value, hs, _⟩ := h
  exact isOption_of_spells name value token hs

theorem not_names_of_strange (names : List Text) (token : Text) (h : Strange names token) :
    ¬ Names names token := by
  obtain ⟨name, value, hs, hn⟩ := h
  rintro ⟨other, hm, next, hs'⟩
  have he := (ofToken_of_spells _ token hs).symm.trans (ofToken_of_spells _ token hs')
  exact hn ((Word.option.inj he).1 ▸ hm)

end Word

namespace CommandLine

def options (tokens : List Text) : List Text := tokens.filter Word.isOption

def positionals (tokens : List Text) : List Text := tokens.filter (!Word.isOption ·)

/-- No option among the tokens goes by a name other than these. -/
def Named (names tokens : List Text) : Prop :=
  ∀ token ∈ tokens, Word.isOption token = true → Word.Names names token

theorem named_nil (names : List Text) : Named names [] := by
  intro token hm
  cases hm

theorem named_cons_iff (names : List Text) (token : Text) (rest : List Text) :
    Named names (token :: rest) ↔
      (Word.isOption token = true → Word.Names names token) ∧ Named names rest :=
  List.forall_mem_cons

theorem named_iff_options (names tokens : List Text) :
    Named names tokens ↔ ∀ token ∈ options tokens, Word.Names names token := by
  simp [Named, options]

theorem positionals_cons (token : Text) (rest : List Text) :
    positionals (token :: rest) =
      if Word.isOption token then positionals rest else token :: positionals rest := by
  cases h : Word.isOption token <;> simp [positionals, h]

theorem named_or_exists_strange (names tokens : List Text) :
    Named names tokens ∨ ∃ before token after, tokens = before ++ token :: after ∧
      Named names before ∧ Word.Strange names token := by
  induction tokens with
  | nil => exact .inl (named_nil names)
  | cons token rest ih =>
    by_cases hs : Word.Strange names token
    · exact .inr ⟨[], token, rest, rfl, named_nil names, hs⟩
    · have ht : Word.isOption token = true → Word.Names names token :=
        fun h => (Word.names_or_strange names token h).resolve_right hs
      rcases ih with hr | ⟨before, first, after, rfl, hb, hf⟩
      · exact .inl ((named_cons_iff names token rest).2 ⟨ht, hr⟩)
      · exact .inr ⟨token :: before, first, after, rfl,
          (named_cons_iff names token before).2 ⟨ht, hb⟩, hf⟩

end CommandLine

def Parameter.names (parameter : Parameter) : List Text :=
  parameter.name.long :: (parameter.name.short.map fun letter => [letter]).toList

theorem Parameter.answersTo_iff (name : Text) (parameter : Parameter) :
    parameter.answersTo name = true ↔ name ∈ parameter.names := by
  rw [answersTo, Bool.or_eq_true, beq_iff_eq, beq_iff_eq, names, List.mem_cons, Option.mem_toList,
    or_comm]
  exact or_congr_left eq_comm

namespace Definition

def names (definition : Definition) : List Text := definition.parameters.flatMap Parameter.names

/-- No two parameters share a name. -/
def Unambiguous (definition : Definition) : Prop :=
  definition.parameters.Pairwise fun first second => ∀ name ∈ first.names, name ∉ second.names

theorem parameterNamed?_eq_none_iff (definition : Definition) (name : Text) :
    definition.parameterNamed? name = none ↔ name ∉ definition.names := by
  simp [parameterNamed?, names, Parameter.answersTo_iff]

theorem exists_parameterNamed? (definition : Definition) (name : Text)
    (h : name ∈ definition.names) :
    ∃ parameter, definition.parameterNamed? name = some parameter := by
  rw [← Option.ne_none_iff_exists', ne_eq, parameterNamed?_eq_none_iff, not_not]
  exact h

theorem mem_of_parameterNamed? (definition : Definition) (name : Text) (parameter : Parameter)
    (h : definition.parameterNamed? name = some parameter) :
    parameter ∈ definition.parameters ∧ name ∈ parameter.names :=
  ⟨List.mem_of_find?_eq_some h, (Parameter.answersTo_iff name parameter).1 (List.find?_some h)⟩

theorem Unambiguous.eq (definition : Definition) (h : definition.Unambiguous)
    (first second : Parameter) (hf : first ∈ definition.parameters)
    (hs : second ∈ definition.parameters) (name : Text) (hnf : name ∈ first.names)
    (hns : name ∈ second.names) : first = second := by
  by_contra hne
  have : Std.Symm fun first second : Parameter => ∀ name ∈ first.names, name ∉ second.names :=
    ⟨fun _ _ hd other hs hf => hd other hf hs⟩
  exact h.forall hf hs hne name hnf hns

end Definition

namespace CommandLine

variable (definition : Definition)

def settings (position : Nat) : List Text → List Line
  | [] => []
  | value :: rest =>
    ((definition.argumentAt? position).map (setting ·.name value)).toList ++
      settings (position + 1) rest

def bound? (token : Text) : Option Parameter :=
  match Word.ofToken token with
  | .option name value => (definition.parameterNamed? name).map (·.resolve value)
  | .positional _ => none

def bound (tokens : List Text) : List Parameter := tokens.filterMap (bound? definition)

theorem bindFrom_positional (position : Nat) (token : Text) (rest : List Text)
    (h : Word.isOption token = false) (argument : Argument)
    (ha : definition.argumentAt? position = some argument) :
    bindFrom definition position (token :: rest) =
      (setting argument.name token :: (bindFrom definition (position + 1) rest).1,
        (bindFrom definition (position + 1) rest).2) := by
  rw [bindFrom, Word.ofToken_positional token h]
  simp only [ha]

theorem bindFrom_option (position : Nat) (token : Text) (rest : List Text) (name value : Text)
    (hs : Word.Spells (.option name value) token) (parameter : Parameter)
    (hp : definition.parameterNamed? name = some parameter) :
    bindFrom definition position (token :: rest) =
      ((bindFrom definition position rest).1,
        (bindFrom definition position rest).2.map (parameter.resolve value :: ·)) := by
  rw [bindFrom, Word.ofToken_of_spells _ token hs]
  simp only [hp]

theorem bindFrom_strange (position : Nat) (token : Text) (rest : List Text)
    (h : Word.Strange definition.names token) :
    bindFrom definition position (token :: rest) = (unknownParameter definition token, none) := by
  obtain ⟨name, value, hs, hn⟩ := h
  rw [bindFrom, Word.ofToken_of_spells _ token hs]
  simp only [(definition.parameterNamed?_eq_none_iff name).2 hn]

theorem bound?_option (token name value : Text) (hs : Word.Spells (.option name value) token) :
    bound? definition token = (definition.parameterNamed? name).map (·.resolve value) := by
  rw [bound?, Word.ofToken_of_spells _ token hs]

theorem bound?_positional (token : Text) (h : Word.isOption token = false) :
    bound? definition token = none := by
  rw [bound?, Word.ofToken_positional token h]

theorem bound_options (tokens : List Text) :
    bound definition (options tokens) = bound definition tokens := by
  rw [bound, options, List.filterMap_filter, bound]
  apply List.filterMap_congr
  intro token _
  cases ho : Word.isOption token with
  | true => rfl
  | false => simp [bound?_positional definition token ho]

section Places
variable (summary : Parameter → Line)
variable (hd : ∀ position, ∃ argument, definition.argumentAt? position = some argument)
include hd

/-- Options bind parameters and leave the position; positional words do the opposite. -/
theorem bindFrom_append (position : Nat) (before rest : List Text)
    (hb : Named definition.names before) :
    bindFrom definition position (before ++ rest) =
      let after := bindFrom definition (position + (positionals before).length) rest
      (settings definition position (positionals before) ++ after.1,
        after.2.map (bound definition before ++ ·)) := by
  -- Each word ahead of `rest` moves either the position or the bound parameters.
  induction before generalizing position with
  | nil => simp [positionals, settings, bound]
  | cons token before ih =>
    obtain ⟨ht, hb⟩ := (named_cons_iff _ token before).1 hb
    rw [List.cons_append]
    cases ho : Word.isOption token with
    | true =>
      obtain ⟨name, hn, value, hs⟩ := ht ho
      obtain ⟨parameter, hp⟩ := definition.exists_parameterNamed? name hn
      have hpositionals : positionals (token :: before) = positionals before := by
        rw [positionals_cons, if_pos ho]
      have hbound : bound definition (token :: before) =
          parameter.resolve value :: bound definition before := by
        rw [bound, List.filterMap_cons_some (by rw [bound?_option _ token name value hs, hp]; rfl)]
        rfl
      rw [bindFrom_option _ position token _ name value hs parameter hp, ih position hb,
        hpositionals, hbound]
      simp [Function.comp_def]
    | false =>
      obtain ⟨argument, ha⟩ := hd position
      have hpositionals : positionals (token :: before) = token :: positionals before := by
        rw [positionals_cons, ho, if_neg Bool.false_ne_true]
      have hbound : bound definition (token :: before) = bound definition before := by
        rw [bound, List.filterMap_cons_none (bound?_positional _ token ho)]
        rfl
      rw [bindFrom_positional _ position token _ ho argument ha, ih (position + 1) hb,
        hpositionals, hbound]
      simp [settings, ha, Nat.add_assoc, Nat.add_comm 1]

theorem bindFrom_named (tokens : List Text) (h : Named definition.names tokens) :
    bindFrom definition 0 tokens =
      (settings definition 0 (positionals tokens), some (bound definition tokens)) := by
  have ha := bindFrom_append definition hd 0 tokens [] h
  simpa [bindFrom] using ha

/-- All words have a place: the lines of the positional ones, then the summary. -/
theorem lines_of_named (tokens : List Text) (h : Named definition.names tokens) :
    lines definition summary tokens =
      settings definition 0 (positionals tokens) ++
        definition.parameters.map fun parameter =>
          summary (inForce (bound definition tokens) parameter) := by
  rw [lines, bindFrom_named definition hd tokens h]

theorem lines_congr (first second : List Text) (h : Named definition.names first)
    (hp : positionals first = positionals second) (ho : options first = options second) :
    lines definition summary first = lines definition summary second := by
  have hsecond : Named definition.names second := by
    rwa [named_iff_options, ← ho, ← named_iff_options]
  rw [lines_of_named definition summary hd first h,
    lines_of_named definition summary hd second hsecond, hp, ← bound_options, ho, bound_options]

/-- A strange option ends the matching, so there is no summary. -/
theorem lines_of_strange (before : List Text) (token : Text) (after : List Text)
    (hb : Named definition.names before) (ht : Word.Strange definition.names token) :
    lines definition summary (before ++ token :: after) =
      settings definition 0 (positionals before) ++ unknownParameter definition token := by
  rw [lines, bindFrom_append definition hd 0 before _ hb, bindFrom_strange _ _ token after ht]
  rfl

end Places

/-- The value of the first option that goes by one of the names. -/
inductive FirstValue (names tokens : List Text) : Option Text → Prop
  | unset (h : ∀ token ∈ tokens, ¬ Word.Names names token) : FirstValue names tokens none
  | set (before : List Text) (token : Text) (after : List Text) (name value : Text)
      (he : tokens = before ++ token :: after) (hb : ∀ earlier ∈ before, ¬ Word.Names names earlier)
      (hn : name ∈ names) (hs : Word.Spells (.option name value) token) :
      FirstValue names tokens (some value)

theorem exists_firstValue (names tokens : List Text) : ∃ value, FirstValue names tokens value := by
  induction tokens with
  | nil => exact ⟨none, .unset fun token hm => nomatch hm⟩
  | cons token rest ih =>
    by_cases hn : Word.Names names token
    · obtain ⟨name, hm, value, hs⟩ := hn
      exact ⟨some value, .set [] token rest name value rfl (fun earlier hm => nomatch hm) hm hs⟩
    · obtain ⟨value, hv⟩ := ih
      cases hv with
      | unset h => exact ⟨none, .unset (List.forall_mem_cons.2 ⟨hn, h⟩)⟩
      | set before first after name value he hb hm hs =>
        exact ⟨some value, .set (token :: before) first after name value (congrArg _ he)
          (List.forall_mem_cons.2 ⟨hn, hb⟩) hm hs⟩

theorem exists_of_mem_bound (tokens : List Text) (parameter : Parameter)
    (h : parameter ∈ bound definition tokens) :
    ∃ token ∈ tokens, ∃ name value declared, Word.Spells (.option name value) token ∧
      definition.parameterNamed? name = some declared ∧ parameter = declared.resolve value := by
  obtain ⟨token, hm, hb⟩ := List.mem_filterMap.1 h
  cases ho : Word.isOption token with
  | false =>
    rw [bound?_positional definition token ho] at hb
    cases hb
  | true =>
    obtain ⟨name, value, hs⟩ := Word.exists_spells token ho
    rw [bound?_option definition token name value hs] at hb
    obtain ⟨declared, hd, rfl⟩ := Option.map_eq_some_iff.1 hb
    exact ⟨token, hm, name, value, declared, hs, hd, rfl⟩

theorem find?_bound_eq_none (hu : definition.Unambiguous) (declared : Parameter)
    (hm : declared ∈ definition.parameters) (tokens : List Text)
    (h : ∀ token ∈ tokens, ¬ Word.Names declared.names token) :
    (bound definition tokens).find? (·.name.long == declared.name.long) = none := by
  rw [List.find?_eq_none]
  intro parameter hb hl
  obtain ⟨token, ht, name, value, other, hs, hp, rfl⟩ := exists_of_mem_bound definition _ _ hb
  obtain ⟨hother, hname⟩ := definition.mem_of_parameterNamed? name other hp
  have hl : other.name.long = declared.name.long := beq_iff_eq.1 hl
  have he : other = declared := hu.eq definition other declared hother hm other.name.long
    List.mem_cons_self (by rw [hl]; exact List.mem_cons_self)
  exact h token ht ⟨name, he ▸ hname, value, hs⟩

theorem inForce_bound (hu : definition.Unambiguous) (declared : Parameter)
    (hm : declared ∈ definition.parameters) (tokens : List Text) (value : Option Text)
    (h : FirstValue declared.names tokens value) :
    inForce (bound definition tokens) declared = value.elim declared declared.resolve := by
  rw [inForce]
  cases h with
  | unset h => rw [find?_bound_eq_none definition hu declared hm tokens h]; rfl
  | set before token after name value he hb hn hs =>
    obtain ⟨parameter, hp⟩ := definition.exists_parameterNamed? name
      (List.mem_flatMap.2 ⟨declared, hm, hn⟩)
    obtain ⟨hparameter, hname⟩ := definition.mem_of_parameterNamed? name parameter hp
    obtain rfl : parameter = declared := hu.eq definition _ _ hparameter hm name hname hn
    have ht : bound? definition token = some (parameter.resolve value) := by
      rw [bound?_option definition token name value hs, hp]
      rfl
    have hnone : (before.filterMap (bound? definition)).find?
        (·.name.long == parameter.name.long) = none :=
      find?_bound_eq_none definition hu parameter hm before hb
    rw [he, bound, List.filterMap_append, List.filterMap_cons_some ht, List.find?_append, hnone]
    simp [Parameter.resolve]

end CommandLine
end CommandGrammar
