import Mathlib
import CommandGrammar.Shape
import CommandGrammar.Proofs.Endings

set_option autoImplicit false

namespace CommandGrammar.Shape

inductive Spells : Shape → Text → Prop
  | flag (name : Text) (hc : '=' ∉ name) (hm : Text.endsIn '?' name = false) :
      Spells (.flag name) ('-' :: '-' :: name)
  | markedFlag (name : Text) (hc : '=' ∉ name) :
      Spells (.flag name) ('-' :: '-' :: (name ++ ['?']))
  | value (name default : Text) (hc : '=' ∉ name) (hd : default ≠ []) :
      Spells (.value name (some default)) ('-' :: '-' :: (name ++ '=' :: default))
  | emptyValue (name : Text) (hc : '=' ∉ name) :
      Spells (.value name none) ('-' :: '-' :: (name ++ ['=']))
  | argument (name : Text) (hm : Text.endsIn '*' name = false) :
      Spells (.argument name false) ('$' :: name)
  | markedArgument (name : Text) : Spells (.argument name true) ('$' :: (name ++ ['*']))
  | variadic (name : Text) (hm : Text.endsIn '*' name = false) :
      Spells (.argument name true) ('.' :: '.' :: '.' :: '$' :: name)
  | markedVariadic (name : Text) :
      Spells (.argument name true) ('.' :: '.' :: '.' :: '$' :: (name ++ ['*']))
  | bare (token : Text) (ho : ¬ ['-', '-'] <+: token) (ha : ¬ ['$'] <+: token)
      (hv : ¬ ['.', '.', '.', '$'] <+: token) : Spells (.bare token) token

theorem ofOption_cut (name default : Text) (h : '=' ∉ name) :
    ofOption (name ++ '=' :: default) =
      .value name (if default = [] then none else some default) := by
  rw [ofOption, Text.cutAt?_append '=' name default h]

theorem ofOption_uncut (option : Text) (h : '=' ∉ option) :
    ofOption option = .flag (Text.dropFinal '?' option) := by
  rw [ofOption, (Text.cutAt?_eq_none_iff '=' option).2 h]

theorem ofToken_bare (token : Text) (ho : ¬ ['-', '-'] <+: token) (ha : ¬ ['$'] <+: token)
    (hv : ¬ ['.', '.', '.', '$'] <+: token) : ofToken token = .bare token := by
  rw [ofToken.eq_def]
  split
  · exact absurd ⟨_, rfl⟩ ho
  · exact absurd ⟨_, rfl⟩ hv
  · exact absurd ⟨_, rfl⟩ ha
  · rfl

theorem spells_ofOption (option : Text) : Spells (ofOption option) ('-' :: '-' :: option) := by
  by_cases hc : '=' ∈ option
  · obtain ⟨name, default, rfl, hn⟩ := List.eq_append_cons_of_mem hc
    rw [ofOption_cut name default hn]
    by_cases hd : default = []
    · subst hd
      exact .emptyValue name hn
    · rw [if_neg hd]
      exact .value name default hn hd
  · rw [ofOption_uncut option hc]
    cases hm : Text.endsIn '?' option with
    | false =>
      rw [Text.dropFinal_eq_self '?' option hm]
      exact .flag option hc hm
    | true =>
      obtain ⟨name, rfl⟩ := Text.exists_concat_of_endsIn '?' option hm
      rw [Text.dropFinal_concat]
      exact .markedFlag name fun h => hc (List.mem_append_left _ h)

theorem spells_variadic (name : Text) :
    Spells (.argument (Text.dropFinal '*' name) true) ('.' :: '.' :: '.' :: '$' :: name) := by
  cases hm : Text.endsIn '*' name with
  | false =>
    rw [Text.dropFinal_eq_self '*' name hm]
    exact .variadic name hm
  | true =>
    obtain ⟨stem, rfl⟩ := Text.exists_concat_of_endsIn '*' name hm
    rw [Text.dropFinal_concat]
    exact .markedVariadic stem

theorem spells_argument (name : Text) :
    Spells (.argument (Text.dropFinal '*' name) (Text.endsIn '*' name)) ('$' :: name) := by
  cases hm : Text.endsIn '*' name with
  | false =>
    rw [Text.dropFinal_eq_self '*' name hm]
    exact .argument name hm
  | true =>
    obtain ⟨stem, rfl⟩ := Text.exists_concat_of_endsIn '*' name hm
    rw [Text.dropFinal_concat]
    exact .markedArgument stem

theorem spells_ofToken (token : Text) : Spells (ofToken token) token := by
  by_cases ho : ['-', '-'] <+: token
  · obtain ⟨option, rfl⟩ := ho
    exact spells_ofOption option
  · by_cases hv : ['.', '.', '.', '$'] <+: token
    · obtain ⟨name, rfl⟩ := hv
      exact spells_variadic name
    · by_cases ha : ['$'] <+: token
      · obtain ⟨name, rfl⟩ := ha
        exact spells_argument name
      · rw [ofToken_bare token ho ha hv]
        exact .bare token ho ha hv

theorem ofToken_of_spells (shape : Shape) (token : Text) (h : Spells shape token) :
    ofToken token = shape := by
  cases h with
  | flag name hc hm =>
    change ofOption name = _
    rw [ofOption_uncut name hc, Text.dropFinal_eq_self '?' name hm]
  | markedFlag name hc =>
    change ofOption (name ++ ['?']) = _
    rw [ofOption_uncut _ (by simp [hc]), Text.dropFinal_concat]
  | value name default hc hd =>
    change ofOption (name ++ '=' :: default) = _
    rw [ofOption_cut name default hc, if_neg hd]
  | emptyValue name hc =>
    change ofOption (name ++ '=' :: []) = _
    rw [ofOption_cut name [] hc, if_pos rfl]
  | argument name hm =>
    change Shape.argument (Text.dropFinal '*' name) (Text.endsIn '*' name) = _
    rw [Text.dropFinal_eq_self '*' name hm, hm]
  | markedArgument name =>
    change Shape.argument (Text.dropFinal '*' (name ++ ['*'])) (Text.endsIn '*' (name ++ ['*'])) = _
    rw [Text.dropFinal_concat, Text.endsIn_concat]
    rfl
  | variadic name hm =>
    change Shape.argument (Text.dropFinal '*' name) true = _
    rw [Text.dropFinal_eq_self '*' name hm]
  | markedVariadic name =>
    change Shape.argument (Text.dropFinal '*' (name ++ ['*'])) true = _
    rw [Text.dropFinal_concat]
  | bare token ho ha hv => exact ofToken_bare token ho ha hv

/-- Reading a token finds the one shape that it spells. -/
theorem spells_iff (shape : Shape) (token : Text) : Spells shape token ↔ ofToken token = shape := by
  constructor
  · exact ofToken_of_spells shape token
  · rintro rfl
    exact spells_ofToken token

end CommandGrammar.Shape

namespace CommandGrammar

inductive TokenClass where
  | option
  | argument
  | bare
  deriving DecidableEq

namespace TokenClass

def ofToken : Text → TokenClass
  | '-' :: '-' :: _ => .option
  | '.' :: '.' :: '.' :: '$' :: _ => .argument
  | '$' :: _ => .argument
  | _ => .bare

def ofShape : Shape → TokenClass
  | .flag _ | .value _ _ => .option
  | .argument _ _ => .argument
  | .bare _ => .bare

theorem ofShape_ofOption (option : Text) : ofShape (Shape.ofOption option) = .option := by
  rw [Shape.ofOption]
  split <;> rfl

theorem ofShape_ofToken (token : Text) : ofShape (Shape.ofToken token) = ofToken token := by
  rw [Shape.ofToken.eq_def]
  split
  · exact ofShape_ofOption _
  · rfl
  · rfl
  · rename_i ho hv ha
    rw [ofToken.eq_def]
    split
    · exact absurd rfl (ho _)
    · exact absurd rfl (hv _)
    · exact absurd rfl (ha _)
    · rfl

theorem ofToken_of_spells (shape : Shape) (token : Text) (h : Shape.Spells shape token) :
    ofToken token = ofShape shape := by
  rw [← ofShape_ofToken, Shape.ofToken_of_spells shape token h]

theorem exists_spells (token : Text) :
    match ofToken token with
    | .option =>
      (∃ text, Shape.Spells (.flag text) token) ∨
        ∃ text default, Shape.Spells (.value text default) token
    | .argument => ∃ text wildcard, Shape.Spells (.argument text wildcard) token
    | .bare => ∃ text, Shape.Spells (.bare text) token := by
  have hs := Shape.spells_ofToken token
  rw [← ofShape_ofToken]
  cases he : Shape.ofToken token with
  | flag text => exact .inl ⟨text, he ▸ hs⟩
  | value text default => exact .inr ⟨text, default, he ▸ hs⟩
  | argument text wildcard => exact ⟨text, wildcard, he ▸ hs⟩
  | bare text => exact ⟨text, he ▸ hs⟩

/-- The tokens of one class, in their order. -/
def select (kind : TokenClass) (tokens : List Text) : List Text :=
  tokens.filter (ofToken · = kind)

theorem select_append (kind : TokenClass) (first second : List Text) :
    kind.select (first ++ second) = kind.select first ++ kind.select second := by
  rw [select, List.filter_append]
  rfl

theorem select_singleton (kind : TokenClass) (token : Text) :
    kind.select [token] = if ofToken token = kind then [token] else [] := by
  by_cases h : ofToken token = kind <;> simp [select, h]

theorem select_concat_of_ne (kind : TokenClass) (tokens : List Text) (token : Text)
    (h : ofToken token ≠ kind) : kind.select (tokens ++ [token]) = kind.select tokens := by
  rw [select_append, select_singleton, if_neg h, List.append_nil]

theorem select_concat_of_eq (kind : TokenClass) (tokens : List Text) (token : Text)
    (h : ofToken token = kind) :
    kind.select (tokens ++ [token]) = kind.select tokens ++ [token] := by
  rw [select_append, select_singleton, if_pos h]

theorem select_of_forall (kind own : TokenClass) (tokens : List Text)
    (h : ∀ token ∈ tokens, ofToken token = own) :
    kind.select tokens = if own = kind then tokens else [] := by
  rw [select]
  split
  · rename_i he
    refine List.filter_eq_self.2 ?_
    intro token ht
    simp [h token ht, he]
  · rename_i hn
    refine List.filter_eq_nil_iff.2 ?_
    intro token ht
    simp [h token ht, hn]

theorem mem_select (kind : TokenClass) (tokens : List Text) (token : Text) :
    token ∈ kind.select tokens ↔ token ∈ tokens ∧ ofToken token = kind := by
  simp [select]

end TokenClass
end CommandGrammar
