import Mathlib
import CommandGrammar.Session
import CommandGrammar.Proofs.Refusal

set_option autoImplicit false

namespace CommandGrammar
open Relation (ReflTransGen)

namespace Query

/-- The accessor that a query goes through, and how the value is written. No accessor tells whether
    a parameter is enabled. -/
inductive Uses : {α : Type} → Query → Accessor α → (α → Answer) → Prop
  | text : Uses .text .text .one
  | switch : Uses .switch .switch fun b => .one (Scalar.renderBool b)
  | one (type : ScalarType) :
      Uses (.one type) (.one type.scalar) fun value => .one (type.scalar.render value)
  | within (type : ScalarType) (min max : type.Carrier) :
      Uses (.within type min max) (.within type.scalar min max)
        fun value => .one (type.scalar.render value)
  | list (type : ScalarType) :
      Uses (.list type) (.list type.scalar) fun values => .many (values.map type.scalar.render)
  | choice (type : ScalarType) (choices : List (Text × type.Carrier)) :
      Uses (.choice type choices) (.choice choices) fun value => .one (type.scalar.render value)

theorem eq_enabled_or_uses (query : Query) :
    query = .enabled ∨ ∃ (α : Type) (accessor : Accessor α) (write : α → Answer),
      Uses query accessor write := by
  cases query with
  | text => exact .inr ⟨_, _, _, .text⟩
  | switch => exact .inr ⟨_, _, _, .switch⟩
  | enabled => exact .inl rfl
  | one type => exact .inr ⟨_, _, _, .one type⟩
  | within type min max => exact .inr ⟨_, _, _, .within type min max⟩
  | list type => exact .inr ⟨_, _, _, .list type⟩
  | choice type choices => exact .inr ⟨_, _, _, .choice type choices⟩

variable (parameter : Parameter)

theorem Uses.run_eq {α : Type} {query : Query} {accessor : Accessor α} {write : α → Answer}
    (h : Uses query accessor write) : query.run parameter = (accessor.run parameter).map write := by
  cases h <;> rfl

theorem Uses.run_eq_error_iff {α : Type} {query : Query} {accessor : Accessor α}
    {write : α → Answer} (h : Uses query accessor write) (error : ValueError) :
    query.run parameter = .error error ↔ accessor.run parameter = .error error := by
  rw [h.run_eq]
  cases accessor.run parameter with
  | error other => simp [Except.map]
  | ok value => exact iff_of_false nofun nofun

theorem run_of_flag (hk : parameter.kind = .flag) (query : Query) (h : query ≠ .enabled) :
    query.run parameter = .error (.flagAsValue parameter.name.long) := by
  obtain ⟨α, accessor, write, hu⟩ := query.eq_enabled_or_uses.resolve_left h
  rw [hu.run_eq_error_iff, parameter.run_of_flag hk]

theorem name_and_value_of_run (query : Query) (error : ValueError)
    (h : query.run parameter = .error error) :
    error.name = parameter.name.long ∧
      ∀ value, error.value? = some value → value = parameter.stored := by
  rcases query.eq_enabled_or_uses with rfl | ⟨α, accessor, write, hu⟩
  · cases h
  · exact parameter.name_and_value_of_run accessor error ((hu.run_eq_error_iff parameter error).1 h)

end Query

/-- A definition that comes from a line that was read. -/
def Definition.Derived (definition : Definition) : Prop :=
  ∃ source first, parse source = .ok first ∧ ReflTransGen Step first definition

def Parameter.Derived (parameter : Parameter) : Prop :=
  ∃ definition : Definition, definition.Derived ∧
    ∃ taken ∈ definition.parameters, ReflTransGen Step taken parameter

theorem Definition.Derived.wellFormed (definition : Definition) (h : definition.Derived) :
    definition.WellFormed := by
  obtain ⟨source, first, hp, hr⟩ := h
  exact (wellFormed_of_parse source first hp).run first definition hr

theorem Parameter.Derived.sound (parameter : Parameter) (h : parameter.Derived) :
    parameter.Sound := by
  obtain ⟨definition, hd, taken, hm, hr⟩ := h
  exact (hd.wellFormed.parameters taken hm).sound.run taken parameter hr

namespace Session

inductive Effect (session : Session) : Session → Prop
  | unchanged : Effect session session
  | parsed (source : Text) (definition : Definition)
      (h : Definition.parse source = .ok definition) :
      Effect session { session with definition := some definition }
  | changed (earlier definition : Definition) (hd : session.definition = some earlier)
      (hs : Definition.Step earlier definition) :
      Effect session { session with definition := some definition }
  | taken (slot : Text) (definition : Definition) (parameter : Parameter)
      (hd : session.definition = some definition) (hm : parameter ∈ definition.parameters) :
      Effect session { session with slots := (slot, parameter) :: session.slots }
  | bound (slot into : Text) (earlier parameter : Parameter) (hm : (slot, earlier) ∈ session.slots)
      (hs : Parameter.Step earlier parameter) :
      Effect session { session with slots := (into, parameter) :: session.slots }

structure Derived (session : Session) : Prop where
  definition : ∀ definition, session.definition = some definition → definition.Derived
  slots : ∀ entry ∈ session.slots, entry.2.Derived

def next (session : Session) (request : Request) : Session :=
  match session.run request with
  | .ok (next, _) => next
  | .error _ => session

def last (session : Session) (requests : List Request) : Session := requests.foldl next session

variable (session : Session)

theorem exists_of_bind {α β : Type} (read : Except Refusal α) (use : α → Except Refusal β)
    (result : β) (h : read >>= use = .ok result) :
    ∃ value, read = .ok value ∧ use value = .ok result := by
  cases read with
  | error refusal => cases h
  | ok value => exact ⟨value, rfl, h⟩

theorem definition_of_current (definition : Definition)
    (h : session.current = .ok definition) : session.definition = some definition := by
  unfold current at h
  split at h
  · rename_i hd
    cases h
    exact hd
  · cases h

theorem mem_of_slot (slot : Text) (parameter : Parameter)
    (h : session.slot slot = .ok parameter) : (slot, parameter) ∈ session.slots := by
  unfold Session.slot at h
  split at h
  · rename_i hl
    cases h
    obtain ⟨before, after, he, _⟩ := List.lookup_eq_some_iff.1 hl
    rw [he]
    exact List.mem_append_right before List.mem_cons_self
  · cases h

theorem exists_of_define (source : Text) (result : Session × Reply)
    (h : ((Definition.parse source).mapError Refusal.parse).map session.define = .ok result) :
    ∃ definition, Definition.parse source = .ok definition ∧
      result = session.define definition := by
  cases hp : Definition.parse source with
  | error error =>
    rw [hp] at h
    cases h
  | ok definition =>
    rw [hp] at h
    cases h
    exact ⟨definition, rfl, rfl⟩

theorem effect_of_run (request : Request) (after : Session) (reply : Reply)
    (h : session.run request = .ok (after, reply)) : Effect session after := by
  cases request with
  | parse source =>
    obtain ⟨definition, hp, he⟩ := session.exists_of_define source _ h
    cases he
    exact .parsed source definition hp
  | reparse =>
    obtain ⟨earlier, hc, h⟩ := exists_of_bind _ _ _ h
    obtain ⟨definition, hp, he⟩ := session.exists_of_define _ _ h
    cases he
    exact .changed earlier definition (session.definition_of_current _ hc) (.reparse _ _ hp)
  | about text =>
    obtain ⟨earlier, hc, ⟨⟩⟩ := exists_of_bind _ _ _ h
    exact .changed earlier _ (session.definition_of_current _ hc) (.about _ text)
  | describe name text =>
    obtain ⟨earlier, hc, ⟨⟩⟩ := exists_of_bind _ _ _ h
    exact .changed earlier _ (session.definition_of_current _ hc) (.describe _ name text)
  | take name slot =>
    obtain ⟨definition, hc, h⟩ := exists_of_bind _ _ _ h
    split at h
    · rename_i parameter hf
      cases h
      exact .taken slot definition parameter (session.definition_of_current _ hc)
        (List.mem_of_find?_eq_some hf)
    · -- Nothing is taken if no parameter answers to the name.
      cases h
      exact .unchanged
  | resolve slot value into =>
    obtain ⟨earlier, hs, ⟨⟩⟩ := exists_of_bind _ _ _ h
    exact .bound slot into earlier _ (session.mem_of_slot _ _ hs) (.resolve _ value)
  | aboutSlot slot text =>
    obtain ⟨earlier, hs, ⟨⟩⟩ := exists_of_bind _ _ _ h
    exact .bound slot slot earlier _ (session.mem_of_slot _ _ hs) (.about _ text)
  | showDefinition | argumentAt position | wildcard | parameterNamed name =>
    obtain ⟨definition, _, ⟨⟩⟩ := exists_of_bind _ _ _ h
    exact .unchanged
  | showSlot slot =>
    obtain ⟨parameter, _, ⟨⟩⟩ := exists_of_bind _ _ _ h
    exact .unchanged
  | read slot query =>
    obtain ⟨parameter, _, h⟩ := exists_of_bind _ _ _ h
    obtain ⟨answer, _, ⟨⟩⟩ := exists_of_bind _ _ _ h
    exact .unchanged
  | same left right =>
    obtain ⟨parameter, _, h⟩ := exists_of_bind _ _ _ h
    obtain ⟨other, _, ⟨⟩⟩ := exists_of_bind _ _ _ h
    exact .unchanged

theorem Derived.effect (after : Session) (h : session.Derived) (he : Effect session after) :
    after.Derived := by
  cases he with
  | unchanged => exact h
  | parsed source definition hp =>
    refine ⟨?_, h.slots⟩
    rintro _ ⟨⟩
    exact ⟨source, definition, hp, .refl⟩
  | changed earlier definition hd hs =>
    refine ⟨?_, h.slots⟩
    rintro _ ⟨⟩
    obtain ⟨source, first, hp, hr⟩ := h.definition earlier hd
    exact ⟨source, first, hp, hr.tail hs⟩
  | taken slot definition parameter hd hm =>
    refine ⟨h.definition, List.forall_mem_cons.2 ⟨?_, h.slots⟩⟩
    exact ⟨definition, h.definition definition hd, parameter, hm, .refl⟩
  | bound slot into earlier parameter hm hs =>
    refine ⟨h.definition, List.forall_mem_cons.2 ⟨?_, h.slots⟩⟩
    obtain ⟨definition, hd, taken, ht, hr⟩ := h.slots _ hm
    exact ⟨definition, hd, taken, ht, hr.tail hs⟩

theorem next_of_ok (request : Request) (after : Session) (reply : Reply)
    (h : session.run request = .ok (after, reply)) : session.next request = after := by
  rw [next, h]

theorem next_of_refused (request : Request) (refusal : Refusal)
    (h : session.run request = .error refusal) : session.next request = session := by
  rw [next, h]

theorem Derived.next (request : Request) (h : session.Derived) :
    (session.next request).Derived := by
  cases hr : session.run request with
  | error refusal =>
    rw [session.next_of_refused request refusal hr]
    exact h
  | ok result =>
    obtain ⟨after, reply⟩ := result
    rw [session.next_of_ok request after reply hr]
    exact h.effect _ after (session.effect_of_run request after reply hr)

theorem Derived.last (requests : List Request) (h : session.Derived) :
    (session.last requests).Derived := by
  induction requests generalizing session with
  | nil => exact h
  | cons request rest ih => exact ih (session.next request) (h.next session request)

theorem derived_empty : empty.Derived := ⟨nofun, nofun⟩

theorem run_reparse (definition again : Definition) (hd : session.definition = some definition)
    (ha : definition.reparse = .ok again) :
    session.run .reparse = .ok (session.define again) := by
  have hc : session.current = .ok definition := by rw [current, hd]
  simp only [run, hc, bind, Except.bind, ha]
  rfl

theorem name_and_value_of_read (slot : Text) (query : Query) (error : ValueError)
    (h : session.run (.read slot query) = .error (.value error)) :
    ∃ parameter, (slot, parameter) ∈ session.slots ∧ error.name = parameter.name.long ∧
      ∀ value, error.value? = some value → value = parameter.stored := by
  cases hs : session.slot slot with
  | error refusal =>
    -- An empty slot is refused for that and not for a value.
    simp only [run, hs, bind, Except.bind] at h
    unfold Session.slot at hs
    split at hs <;> cases hs
    cases h
  | ok parameter =>
    simp only [run, hs, bind, Except.bind] at h
    cases hq : query.run parameter with
    | error other =>
      rw [hq] at h
      cases h
      exact ⟨parameter, session.mem_of_slot slot parameter hs,
        query.name_and_value_of_run parameter error hq⟩
    | ok answer =>
      rw [hq] at h
      cases h

/-- Whatever is asked of a session, what it holds keeps its form, and as long as there is a
    definition, its own line can be read again. -/
theorem sound_last (requests : List Request) (final : Session)
    (h : empty.last requests = final) :
    (∀ definition, final.definition = some definition → definition.Sound ∧
      ∃ again, definition.reparse = .ok again ∧ final.run .reparse = .ok (final.define again)) ∧
    ∀ entry ∈ final.slots, entry.2.Sound := by
  have hd : final.Derived := h ▸ derived_empty.last empty requests
  refine ⟨?_, fun entry hm => (hd.slots entry hm).sound⟩
  intro definition hc
  have hw := (hd.definition definition hc).wellFormed
  obtain ⟨again, ha⟩ := Definition.exists_rereads definition hw
  exact ⟨hw.sound, again, ha.parse, final.run_reparse definition again hc ha.parse⟩

theorem runAll_cons (request : Request) (rest : List Request) :
    session.runAll (request :: rest) =
      (session.run request).map Prod.snd :: (session.next request).runAll rest := by
  rw [runAll, next]
  cases session.run request <;> rfl

theorem runAll_append (first second : List Request) :
    session.runAll (first ++ second) =
      session.runAll first ++ (session.last first).runAll second := by
  induction first generalizing session with
  | nil => rfl
  | cons request rest ih =>
    rw [List.cons_append, runAll_cons, runAll_cons, List.cons_append, ih]
    rfl

/-- A refused request has a reply of its own and no effect on the others. -/
theorem runAll_of_refused (before after : List Request) (request : Request) (refusal : Refusal)
    (h : (session.last before).run request = .error refusal) :
    session.runAll (before ++ request :: after) =
        session.runAll before ++ .error refusal :: (session.last before).runAll after ∧
      session.last (before ++ request :: after) = session.last (before ++ after) := by
  have hn := (session.last before).next_of_refused request refusal h
  constructor
  · rw [runAll_append, runAll_cons, hn, h]
    rfl
  · rw [last, last, List.foldl_append, List.foldl_append, List.foldl_cons]
    exact congrArg (after.foldl next) hn

end Session
end CommandGrammar
