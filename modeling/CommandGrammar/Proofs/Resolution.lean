import Mathlib
import CommandGrammar.Proofs.Refusal

set_option autoImplicit false

namespace CommandGrammar
open Relation (ReflTransGen)

inductive Change where
  | resolve (text : Text)
  | about (text : Text)
  deriving DecidableEq, Repr

namespace Change

def bound? : Change → Option Text
  | .resolve text => some text
  | .about _ => none

def remark? : Change → Option Text
  | .resolve _ => none
  | .about text => some text

def lastBound? (changes : List Change) : Option Text := (changes.filterMap bound?).getLast?

def lastRemark? (changes : List Change) : Option Text := (changes.filterMap remark?).getLast?

theorem lastBound?_eq_none_iff (changes : List Change) :
    lastBound? changes = none ↔ ∀ text, Change.resolve text ∉ changes := by
  rw [lastBound?, List.getLast?_eq_none_iff, List.filterMap_eq_nil_iff]
  constructor
  · intro h text hm
    cases h _ hm
  · intro h change hm
    cases change with
    | resolve text => exact absurd hm (h text)
    | about text => rfl

end Change

namespace Parameter

def change (parameter : Parameter) : Change → Parameter
  | .resolve text => parameter.resolve text
  | .about text => parameter.about text

def changeAll (parameter : Parameter) (changes : List Change) : Parameter :=
  changes.foldl change parameter

/-- All that readings and the printed form use: the text in force as if it were bound. -/
def inForce (parameter : Parameter) : Parameter :=
  ⟨parameter.name, parameter.kind, .resolved parameter.stored, none⟩

/-- What a run of changes makes of a declared parameter. -/
structure Changed (declared : Parameter) (changes : List Change) (last : Parameter) : Prop where
  name : last.name = declared.name
  kind : last.kind = declared.kind
  isResolved : last.isResolved = true ↔ ∃ text, Change.resolve text ∈ changes
  bound : ∀ text, Change.lastBound? changes = some text → last.binding = .resolved text
  default : last.isResolved = true → last.default? = none
  unbound : last.isResolved = false → last.binding = declared.binding
  description : last.description = (Change.lastRemark? changes).or declared.description

/-- Two parameters that cannot be told apart by reading and printing. -/
structure ReadsAlike (first second : Parameter) : Prop where
  run : ∀ {α : Type} (accessor : Accessor α), accessor.run first = accessor.run second
  isEnabled : first.isEnabled = second.isEnabled
  render : first.render = second.render

variable (parameter : Parameter)

theorem changeAll_concat (changes : List Change) (change : Change) :
    parameter.changeAll (changes ++ [change]) = (parameter.changeAll changes).change change :=
  List.foldl_append

/-- A run of changes is told by its last binding and its last description. -/
theorem changeAll_eq (changes : List Change) :
    parameter.changeAll changes =
      { parameter with
        binding := ((Change.lastBound? changes).map .resolved).getD parameter.binding
        description := (Change.lastRemark? changes).or parameter.description } := by
  unfold Change.lastBound? Change.lastRemark?
  -- The last change counts, so the induction is on changes added at the end.
  induction changes using List.reverseRecOn with
  | nil => rfl
  | append_singleton changes change ih =>
    rw [changeAll_concat, ih, List.filterMap_append, List.filterMap_append]
    cases change with
    | resolve text => simp [change, resolve, Change.bound?, Change.remark?]
    | about text => simp [change, about, Change.bound?, Change.remark?]

theorem run_iff_changeAll (last : Parameter) :
    ReflTransGen Step parameter last ↔ ∃ changes, parameter.changeAll changes = last := by
  constructor
  · intro hr
    induction hr with
    | refl => exact ⟨[], rfl⟩
    | tail _ hs ih =>
      obtain ⟨changes, rfl⟩ := ih
      cases hs with
      | resolve text => exact ⟨changes ++ [.resolve text], parameter.changeAll_concat _ _⟩
      | about text => exact ⟨changes ++ [.about text], parameter.changeAll_concat _ _⟩
  · rintro ⟨changes, rfl⟩
    induction changes using List.reverseRecOn with
    | nil => exact .refl
    | append_singleton changes change ih =>
      rw [changeAll_concat]
      cases change with
      | resolve text => exact ih.tail (.resolve _ text)
      | about text => exact ih.tail (.about _ text)

theorem changed_changeAll (h : parameter.isResolved = false) (changes : List Change) :
    Changed parameter changes (parameter.changeAll changes) := by
  rw [changeAll_eq]
  cases hb : Change.lastBound? changes with
  | none =>
    have hn := (Change.lastBound?_eq_none_iff changes).1 hb
    refine ⟨rfl, rfl, iff_of_false (Bool.not_eq_true _ ▸ h) ?_, ?_, ?_, fun _ => rfl, rfl⟩
    · rintro ⟨text, hm⟩
      exact hn text hm
    · intro text ht
      rw [hb] at ht
      cases ht
    · intro hr
      exact absurd (h.symm.trans hr) Bool.false_ne_true
  | some text =>
    have he : ∃ text, Change.resolve text ∈ changes := by
      by_contra hn
      rw [(Change.lastBound?_eq_none_iff changes).2 (not_exists.1 hn)] at hb
      cases hb
    refine ⟨rfl, rfl, iff_of_true rfl he, ?_, fun _ => rfl, nofun, rfl⟩
    intro other ho
    rw [hb] at ho
    cases ho
    rfl

theorem run_inForce {α : Type} (accessor : Accessor α) :
    accessor.run parameter.inForce = accessor.run parameter := by
  cases accessor <;> rfl

theorem readsAlike_of_inForce (first second : Parameter) (h : first.inForce = second.inForce) :
    ReadsAlike first second := by
  refine ⟨?_, (congrArg isEnabled h :), (congrArg render h :)⟩
  intro α accessor
  rw [← run_inForce first, h, run_inForce second]

theorem inForce_changeAll (first second : List Change)
    (h : Change.lastBound? first = Change.lastBound? second) :
    (parameter.changeAll first).inForce = (parameter.changeAll second).inForce := by
  rw [changeAll_eq, changeAll_eq, h]
  rfl

/-- A default in force is read as if it were bound. -/
theorem inForce_resolve_default (h : parameter.isResolved = false) :
    (parameter.resolve (parameter.default?.getD [])).inForce = parameter.inForce := by
  obtain ⟨name, kind, binding, description⟩ := parameter
  cases binding with
  | unresolved default => rfl
  | resolved text => cases h

/-- However a parameter of a definition is bound and described, the last text of each sort stays and
    all else is as declared. Runs with the same last binding are read alike, and without a binding
    the parameter is read as if it were bound to its default, or to nothing if it has none. -/
theorem changed_of_parse (source : Text) (definition : Definition)
    (h : Definition.parse source = .ok definition) (declared : Parameter)
    (hm : declared ∈ definition.parameters) :
    (∀ last, ReflTransGen Step declared last ↔ ∃ changes, declared.changeAll changes = last) ∧
    (∀ changes, Changed declared changes (declared.changeAll changes)) ∧
    (∀ first second, Change.lastBound? first = Change.lastBound? second →
      ReadsAlike (declared.changeAll first) (declared.changeAll second)) ∧
    ∀ last, ReflTransGen Step declared last → last.isResolved = false →
      ReadsAlike last (last.resolve (last.default?.getD [])) := by
  have hw := (Definition.wellFormed_of_parse source definition h).parameters declared hm
  refine ⟨declared.run_iff_changeAll, declared.changed_changeAll hw.unresolved, ?_, ?_⟩
  · intro first second hb
    exact readsAlike_of_inForce _ _ (declared.inForce_changeAll first second hb)
  · intro last _ hr
    exact readsAlike_of_inForce _ _ (last.inForce_resolve_default hr).symm

theorem changed_of_parse_rebound :
    let level : Parameter := .value ⟨"level".toList, some 'l'⟩ (some "3".toList)
    let definition : Definition :=
      ⟨"scale --level[l]=3 --force?".toList, "scale".toList, [],
        [level, .flag ⟨"force".toList, none⟩], none⟩
    let long : List Change :=
      [.about "Old.".toList, .resolve "x".toList, .resolve "7 8".toList, .about "New.".toList]
    let short : List Change := [.resolve "7 8".toList]
    let described : Parameter := level.about "How far.".toList
    Definition.parse definition.source = .ok definition ∧ level ∈ definition.parameters ∧
      Changed level long (level.changeAll long) ∧
      Change.lastBound? long = Change.lastBound? short ∧
      (level.changeAll long).render = "--level[l]=7\\ 8".toList ∧
      ReadsAlike (level.changeAll long) (level.changeAll short) ∧
      ReflTransGen Step level described ∧ described.isResolved = false ∧
      ReadsAlike described (described.resolve "3".toList) := by
  intro level definition long short described
  have hp : Definition.parse definition.source = .ok definition := rfl
  have hm : level ∈ definition.parameters := List.mem_cons_self
  obtain ⟨hruns, hchanged, halike, hdefault⟩ :=
    changed_of_parse definition.source definition hp level hm
  have hr : ReflTransGen Step level described := (hruns described).2 ⟨[.about _], rfl⟩
  exact ⟨hp, hm, hchanged long, rfl, rfl, halike long short rfl, hr, rfl, hdefault described hr rfl⟩

end Parameter
end CommandGrammar
