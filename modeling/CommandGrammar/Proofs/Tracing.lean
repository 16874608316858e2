import Mathlib
import CommandGrammar.Proofs.FirstFault
import CommandGrammar.Trace

set_option autoImplicit false

namespace CommandGrammar

def Fault.token? : Fault → Option Text
  | .invalidIdentifier token _ => some token
  | .argumentAfterWildcard token => some token
  | .secondCommand token => some token
  | .missingCommand => none

theorem Violates.token?_eq (before : List Text) (token : Text) (fault : Fault)
    (h : Violates before token fault) : fault.token? = some token := by
  cases h <;> rfl

/-- The tokens up to the first one that has a fault, or all. -/
inductive Examined (tokens : List Text) : List Text → Prop
  | all (hc : Clean tokens) : Examined tokens tokens
  | upTo (before : List Text) (token : Text) (fault : Fault) (hp : before ++ [token] <+: tokens)
      (hc : Clean before) (hv : Violates before token fault) : Examined tokens (before ++ [token])

namespace Draft

theorem trace_append (draft next : Draft) (first second : List Text)
    (h : draft.addAll first = .ok next) :
    (draft.trace (first ++ second)).1 = first.map Event.classifying ++ (next.trace second).1 := by
  induction first generalizing draft with
  | nil =>
    cases h
    rfl
  | cons token rest ih =>
    rw [addAll] at h
    cases ha : draft.add token with
    | error fault =>
      rw [ha] at h
      cases h
    | ok middle =>
      rw [ha] at h
      simp only [List.cons_append, trace, ha, ih middle h, List.map_cons]

theorem trace_of_addAll_ok (draft next : Draft) (tokens : List Text)
    (h : draft.addAll tokens = .ok next) :
    (draft.trace tokens).1 = tokens.map Event.classifying := by
  have ha := trace_append draft next tokens [] h
  rwa [List.append_nil, trace, List.append_nil] at ha

/-- The first token that is refused leaves the last event. -/
theorem trace_of_violates (before : List Text) (token : Text) (fault : Fault) (tokens : List Text)
    (hp : before ++ [token] <+: tokens) (hc : Clean before) (hv : Violates before token fault) :
    (empty.trace tokens).1 = (before ++ [token]).map Event.classifying := by
  obtain ⟨after, rfl⟩ := hp
  obtain ⟨middle, hm⟩ := (exists_addAll_iff_clean before).2 hc
  have ha : middle.add token = .error fault :=
    (add_eq_error_iff before middle ((addAll_eq_ok_iff _ _).1 hm) token fault).2 hv
  have ht : (middle.trace (token :: after)).1 = [.classifying token] := by
    rw [trace, ha]
  rw [List.append_assoc, List.singleton_append, trace_append empty middle before _ hm, ht,
    List.map_append, List.map_singleton]

end Draft

namespace Trace

theorem events_ofSource (source : Text) (examined : List Text)
    (h : (Draft.empty.trace (Token.tokens source)).1 = examined.map Event.classifying) :
    (ofSource source).events =
      .tokenized source (Token.tokens source) :: examined.map Event.classifying ++
        (match Definition.parse source with
          | .ok _ => []
          | .error error => [.failed error]) := by
  have he : (ofSource source).events =
      .tokenized source (Token.tokens source) :: (Draft.empty.trace (Token.tokens source)).1 ++
        ending (ofSource source).outcome := rfl
  rw [he, h, ofSource_outcome]
  cases Definition.parse source <;> rfl

/-- A line is read up to a token that has the fault of its error, or to the end. -/
theorem exists_examined (source : Text) :
    ∃ examined, Examined (Token.tokens source) examined ∧
      (Draft.empty.trace (Token.tokens source)).1 = examined.map Event.classifying ∧
      ∀ error, Definition.parse source = .error error →
        (error.fault = .missingCommand → examined = Token.tokens source) ∧
        (error.fault ≠ .missingCommand →
          ∃ before token, examined = before ++ [token] ∧ error.fault.token? = some token) := by
  cases hr : Draft.empty.addAll (Token.tokens source) with
  | ok draft =>
    have hc : Clean (Token.tokens source) := (Draft.exists_addAll_iff_clean _).1 ⟨draft, hr⟩
    refine ⟨_, .all hc, Draft.trace_of_addAll_ok _ draft _ hr, ?_⟩
    intro error he
    refine ⟨fun _ => rfl, ?_⟩
    intro hf
    obtain ⟨_, hfirst⟩ := (Definition.ofTokens_eq_error_iff source _ error).1 he
    rcases (firstFault_iff _ _).1 hfirst with ⟨before, token, hp, _, hv⟩ | ⟨_, _, hm⟩
    · exact absurd hv (hc before token hp error.fault)
    · exact absurd hm hf
  | error fault =>
    obtain ⟨before, token, hp, hc, hv⟩ := (Draft.addAll_eq_error_iff _ _).1 hr
    refine ⟨_, .upTo before token fault hp hc hv,
      Draft.trace_of_violates before token fault _ hp hc hv, ?_⟩
    intro error he
    have hparse : Definition.parse source = .error ⟨source, fault⟩ := by
      rw [Definition.parse, Definition.ofTokens, hr]
      rfl
    obtain rfl : ParseError.mk source fault = error := Except.error.inj (hparse.symm.trans he)
    refine ⟨fun hm => absurd hm hv.ne_missingCommand, ?_⟩
    intro _
    exact ⟨before, token, rfl, hv.token?_eq⟩

/-- Tracing does not change the outcome; the events are the tokens of the line, each token that was
    looked at, and the error if there is one. -/
theorem events_of_parse (source : Text) :
    (ofSource source).outcome = Definition.parse source ∧
    ∃ examined, Examined (Token.tokens source) examined ∧
      (ofSource source).events =
        .tokenized source (Token.tokens source) :: examined.map Event.classifying ++
          (match Definition.parse source with
            | .ok _ => []
            | .error error => [.failed error]) ∧
      (ofSource source).events.map Event.message =
        ("Tokenized '".toList ++ source ++ "' into ".toList ++
            Text.listing (Token.tokens source) ++ ".".toList) ::
          examined.map (fun token => "Classifying '".toList ++ token ++ "'.".toList) ++
          (match Definition.parse source with
            | .ok _ => []
            | .error error => [error.message]) ∧
      ∀ error, Definition.parse source = .error error →
        (error.fault = .missingCommand → examined = Token.tokens source) ∧
        (error.fault ≠ .missingCommand →
          ∃ before token, examined = before ++ [token] ∧ error.fault.token? = some token) := by
  obtain ⟨examined, he, ht, hlast⟩ := exists_examined source
  have hevents := events_ofSource source examined ht
  refine ⟨ofSource_outcome source, examined, he, hevents, ?_, hlast⟩
  rw [hevents, List.map_append, List.map_cons, List.map_map]
  cases Definition.parse source <;> rfl

/-- The name of an argument is at fault, so the token after it is not looked at; a line without a
    command is looked at to the end. -/
theorem events_of_parse_faultyLines :
    let faulty : Text := "deploy $first* $B now".toList
    let missing : Text := "--force $files*".toList
    (∃ before, (ofSource faulty).events =
      .tokenized faulty (Token.tokens faulty) ::
          (before ++ ["$B".toList]).map Event.classifying ++
        [.failed ⟨faulty, .invalidIdentifier "$B".toList ⟨"B".toList⟩⟩]) ∧
      Examined (Token.tokens missing) (Token.tokens missing) ∧
      (ofSource missing).events.map Event.message =
        ["Tokenized '--force $files*' into [\"--force\", \"$files*\"].", "Classifying '--force'.",
          "Classifying '$files*'.",
          "Definition parse error in '--force $files*': Missing the command name."].map
          String.toList := by
  intro faulty missing
  have hfaulty : Definition.parse faulty =
    .error ⟨faulty, .invalidIdentifier "$B".toList ⟨"B".toList⟩⟩ := rfl
  have hmissing : Definition.parse missing = .error ⟨missing, .missingCommand⟩ := rfl
  refine ⟨?_, ?_, rfl⟩
  · obtain ⟨_, examined, _, hevents, _, hlast⟩ := events_of_parse faulty
    obtain ⟨before, token, rfl, ht⟩ := (hlast _ hfaulty).2 (by decide)
    obtain rfl : "$B".toList = token := Option.some.inj ht
    rw [hfaulty] at hevents
    exact ⟨before, hevents⟩
  · obtain ⟨_, examined, he, _, _, hlast⟩ := events_of_parse missing
    rwa [(hlast _ hmissing).1 rfl] at he

end Trace
end CommandGrammar
