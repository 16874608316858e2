import Mathlib
import CommandGrammar.Proofs.Describing
import CommandGrammar.Proofs.Rereading

set_option autoImplicit false

namespace CommandGrammar
open Relation (ReflTransGen)

namespace Parameter

inductive Step : Parameter → Parameter → Prop
  | resolve (parameter : Parameter) (text : Text) : Step parameter (parameter.resolve text)
  | about (parameter : Parameter) (text : Text) : Step parameter (parameter.about text)

/-- What holds of a parameter whether or not it is bound. -/
structure Sound (parameter : Parameter) : Prop where
  long : Name.IsIdentifier parameter.name.long
  short : ∀ letter, parameter.name.short = some letter → Name.IsLetter letter
  flag : parameter.kind = .flag → ∀ default, parameter.binding = .unresolved default →
    default = none
  value : parameter.kind = .value → ∀ text, parameter.binding = .unresolved (some text) →
    text ≠ [] ∧ ∀ c, text.getLast? = some c → Text.isBlank c = false

theorem WellFormed.sound (parameter : Parameter) (h : parameter.WellFormed) : parameter.Sound := by
  have hd : ∀ default, parameter.binding = .unresolved default → parameter.default? = default := by
    intro default hb
    rw [default?, hb]
  obtain ⟨hlong, hshort⟩ := (Name.conforms_iff parameter.name).2 h.name
  refine ⟨hlong, hshort, ?_, ?_⟩
  · intro hk default hb
    rw [← hd default hb, h.flag hk]
  · intro _ text hb
    exact h.default text (hd _ hb)

theorem Sound.step (parameter next : Parameter) (h : parameter.Sound)
    (hs : Step parameter next) : next.Sound := by
  cases hs with
  | resolve text =>
    -- A bound parameter declares no default any more.
    refine ⟨h.long, h.short, ?_, ?_⟩
    · intro _ default hb
      cases hb
    · intro _ text hb
      cases hb
  | about text => exact ⟨h.long, h.short, h.flag, h.value⟩

theorem Sound.run (parameter last : Parameter) (h : parameter.Sound)
    (hr : ReflTransGen Step parameter last) : last.Sound := by
  induction hr with
  | refl => exact h
  | tail _ hs ih => exact ih.step _ _ hs

theorem WellFormed.about (parameter : Parameter) (text : Text) (h : parameter.WellFormed) :
    (parameter.about text).WellFormed :=
  ⟨h.name, h.unresolved, h.flag, h.default⟩

end Parameter

namespace Definition

inductive Step : Definition → Definition → Prop
  | about (definition : Definition) (text : Text) : Step definition (definition.about text)
  | describe (definition : Definition) (name text : Text) :
      Step definition (definition.describe name text)
  | reparse (definition again : Definition) (h : definition.reparse = .ok again) :
      Step definition again

structure Sound (definition : Definition) : Prop where
  command : Name.IsIdentifier definition.command
  arguments : ∀ argument ∈ definition.arguments, Name.IsIdentifier argument.name
  oneWildcard : definition.arguments.countP (·.wildcard) ≤ 1
  lastWildcard : ∀ argument ∈ definition.arguments.dropLast, argument.wildcard = false
  unresolved : ∀ parameter ∈ definition.parameters, parameter.isResolved = false
  parameters : ∀ parameter ∈ definition.parameters, parameter.Sound

theorem wildcard_of_pairwise (arguments : List Argument)
    (h : arguments.Pairwise fun earlier _ => earlier.wildcard = false) :
    arguments.countP (·.wildcard) ≤ 1 ∧
      ∀ argument ∈ arguments.dropLast, argument.wildcard = false := by
  cases arguments using List.reverseRecOn with
  | nil => exact ⟨Nat.zero_le 1, fun argument hm => by cases hm⟩
  | append_singleton front last =>
    obtain ⟨_, hf⟩ := (Draft.pairwise_concat_iff front last).1 h
    rw [List.any_eq_false] at hf
    have hn : ∀ argument ∈ front, argument.wildcard = false := by
      intro argument hm
      exact Bool.not_eq_true _ ▸ hf argument hm
    rw [List.dropLast_concat, List.countP_append, List.countP_eq_zero.2 hf, Nat.zero_add]
    exact ⟨List.countP_le_length, hn⟩

theorem WellFormed.sound (definition : Definition) (h : definition.WellFormed) :
    definition.Sound := by
  obtain ⟨hone, hlast⟩ := wildcard_of_pairwise _ h.wildcard
  refine ⟨(Name.isLong_iff_isIdentifier _).1 h.command, ?_, hone, hlast, ?_, ?_⟩
  · intro argument hm
    exact (Name.isLong_iff_isIdentifier _).1 (h.arguments argument hm)
  · intro parameter hm
    exact (h.parameters parameter hm).unresolved
  · intro parameter hm
    exact (h.parameters parameter hm).sound

/-- A parameter after one of them is described is one of those before, or that one described. -/
theorem mem_describe (definition : Definition) (name text : Text) (parameter : Parameter)
    (h : parameter ∈ (definition.describe name text).parameters) :
    parameter ∈ definition.parameters ∨
      ∃ earlier ∈ definition.parameters, parameter = earlier.about text := by
  obtain ⟨index, hi⟩ := List.mem_iff_getElem?.1 h
  rw [getElem?_describe] at hi
  obtain ⟨earlier, he, hp⟩ := Option.map_eq_some_iff.1 hi
  have hm := List.mem_of_getElem? he
  split at hp
  · exact .inr ⟨earlier, hm, hp.symm⟩
  · exact .inl (hp ▸ hm)

theorem WellFormed.step (definition next : Definition) (h : definition.WellFormed)
    (hs : Step definition next) : next.WellFormed := by
  cases hs with
  | about text => exact ⟨h.command, h.arguments, h.wildcard, h.parameters⟩
  | describe name text =>
    refine ⟨h.command, h.arguments, h.wildcard, ?_⟩
    intro parameter hm
    rcases mem_describe definition name text parameter hm with hp | ⟨earlier, hp, rfl⟩
    · exact h.parameters parameter hp
    · exact (h.parameters earlier hp).about earlier text
  | reparse _ hr => exact wellFormed_of_parse definition.render next hr

theorem WellFormed.run (definition last : Definition) (h : definition.WellFormed)
    (hr : ReflTransGen Step definition last) : last.WellFormed := by
  induction hr with
  | refl => exact h
  | tail _ hs ih => exact ih.step _ _ hs

/-- Whatever is done to a definition that was read, and to a parameter taken from it, keeps their
    form; and the definition's own line can always be read again. -/
theorem sound_of_reachable (source : Text) (first last : Definition)
    (h : parse source = .ok first) (hr : ReflTransGen Step first last) :
    last.Sound ∧ (∃ again, last.reparse = .ok again) ∧
      ∀ taken ∈ last.parameters, ∀ parameter,
        ReflTransGen Parameter.Step taken parameter → parameter.Sound := by
  have hw := (wellFormed_of_parse source first h).run first last hr
  have hsound := hw.sound
  obtain ⟨again, hagain⟩ := exists_rereads last hw
  refine ⟨hsound, ⟨again, hagain.parse⟩, ?_⟩
  intro taken hm parameter hp
  exact (hsound.parameters taken hm).run taken parameter hp

/-- Reading the line again, the default takes in the flag after it; then both are described, and the
    parameter is bound to a text with a blank at its end. -/
theorem sound_of_reachable_mergedLine :
    let first : Definition :=
      ⟨"copy $files* --to[t]=c:\\\t --force[f]?".toList, "copy".toList, [⟨"files".toList, true⟩],
        [.value ⟨"to".toList, some 't'⟩ (some "c:\\".toList),
          .flag ⟨"force".toList, some 'f'⟩], none⟩
    let merged : Parameter := .value ⟨"to".toList, some 't'⟩ (some "c: --force[f]?".toList)
    let again : Definition :=
      ⟨"copy $files* --to[t]=c:\\ --force[f]?".toList, "copy".toList, [⟨"files".toList, true⟩],
        [merged], none⟩
    let last : Definition := (again.describe "t".toList "Where to.".toList).about "Copies.".toList
    parse first.source = .ok first ∧ ReflTransGen Step first last ∧ last.Sound ∧
      (((merged.about "Where to.".toList).resolve "d: ".toList).about []).Sound := by
  intro first merged again last
  have hp : parse first.source = .ok first := rfl
  have hreparse : Step (first.about []) again := .reparse _ again rfl
  have hread : ReflTransGen Step first again := .tail (.single (.about first [])) hreparse
  have hr : ReflTransGen Step first last := (hread.tail (.describe _ _ _)).tail (.about _ _)
  have hb : ReflTransGen Parameter.Step (merged.about "Where to.".toList)
      (((merged.about "Where to.".toList).resolve "d: ".toList).about []) :=
    .tail (.single (.resolve _ _)) (.about _ _)
  obtain ⟨hsound, _, hparameter⟩ := sound_of_reachable first.source first last hp hr
  exact ⟨hp, hr, hsound, hparameter _ List.mem_cons_self _ hb⟩

end Definition
end CommandGrammar
