import Mathlib
import CommandGrammar.Deploy
import CommandGrammar.Proofs.Matching
import CommandGrammar.Proofs.Numerals
import CommandGrammar.Proofs.Refusal

set_option autoImplicit false

namespace CommandGrammar

def Report.ofStreams (out err : List Text) : Report :=
  ⟨0, out.flatMap (· ++ ['\n']), err.flatMap (· ++ ['\n'])⟩

theorem Report.ofLines_eq (lines : List Line) :
    ofLines lines = ofStreams (lines.filterMap Line.out?) (lines.filterMap Line.err?) := rfl

theorem Parameter.readWithin_cases {α : Type} (parameter : Parameter) (hk : parameter.kind = .value)
    (type : Scalar α) (min max : α) :
    (∃ value, type.read? parameter.stored = some value ∧
      (type.le min value = true ∧ type.le value max = true) ∧
        parameter.readWithin type min max = .ok value) ∨
    ∃ reason, (∀ value, type.read? parameter.stored = some value →
      ¬ (type.le min value = true ∧ type.le value max = true)) ∧
        parameter.readWithin type min max =
          .error (.rejected parameter.name.long parameter.stored reason) := by
  cases h : parameter.readWithin type min max with
  | ok value =>
    obtain ⟨hr, hb⟩ := (readWithin_eq_ok_iff parameter hk type min max value).1 h
    exact .inl ⟨value, (read_eq_ok_iff parameter hk type value).1 hr, hb, rfl⟩
  | error error =>
    refine .inr ?_
    rcases (readWithin_eq_error_iff parameter hk type min max error).1 h with
      ⟨hn, rfl⟩ | ⟨value, hr, hb, rfl⟩
    · exact ⟨_, fun _ he => Option.some_ne_none _ (he.symm.trans hn) |>.elim, rfl⟩
    · exact ⟨_, fun _ he => Option.some.inj (hr.symm.trans he) ▸ hb, rfl⟩

namespace Deploy
open CommandLine
open List (Forall₂)

def region : Parameter := .value ⟨"region".toList, some 'r'⟩ (some "us-east".toList)

def replicas : Parameter :=
  (Parameter.value ⟨"replicas".toList, some 'n'⟩ (some "1".toList)).about
    "How many copies to run.".toList

def force : Parameter := .flag ⟨"force".toList, some 'f'⟩

theorem parameters_definition : definition.parameters = [region, replicas, force] := rfl

def regionNames : List Text := ["region".toList, "r".toList]

def replicasNames : List Text := ["replicas".toList, "n".toList]

def forceNames : List Text := ["force".toList, "f".toList]

def names : List Text := regionNames ++ replicasNames ++ forceNames

theorem names_definition : definition.names = names := rfl

theorem unambiguous : definition.Unambiguous := by
  rw [Definition.Unambiguous, parameters_definition]
  decide

theorem argumentAt?_succ (position : Nat) :
    definition.argumentAt? (position + 1) = some ⟨"extra".toList, true⟩ := by
  cases position <;> rfl

theorem exists_argumentAt? (position : Nat) :
    ∃ argument, definition.argumentAt? position = some argument := by
  cases position with
  | zero => exact ⟨_, rfl⟩
  | succ position => exact ⟨_, argumentAt?_succ position⟩

/-- The first positional value is the service, and all others are extra. -/
def placed : List Text → List Text
  | [] => []
  | service :: extra => ("service = ".toList ++ service) :: extra.map ("extra = ".toList ++ ·)

theorem settings_succ (position : Nat) (values : List Text) :
    settings definition (position + 1) values =
      values.map fun value => Line.out ("extra = ".toList ++ value) := by
  induction values generalizing position with
  | nil => rfl
  | cons value rest ih =>
    rw [settings, argumentAt?_succ, ih]
    rfl

theorem out_placed (values : List Text) :
    ((placed values).map Line.out).filterMap Line.out? = placed values := by
  rw [List.filterMap_map]
  exact List.filterMap_some

theorem err_placed (values : List Text) :
    ((placed values).map Line.out).filterMap Line.err? = [] := by
  rw [List.filterMap_map]
  exact List.filterMap_none _

theorem settings_eq (values : List Text) :
    settings definition 0 values = (placed values).map Line.out := by
  cases values with
  | nil => rfl
  | cons service extra =>
    rw [settings, settings_succ, placed, List.map_cons, List.map_map]
    rfl

theorem out_written (values : List Text) (first last : Text) (line : Line) :
    ((placed values).map Line.out ++ [.out first, line, .out last]).filterMap Line.out? =
      placed values ++ first :: [line].filterMap Line.out? ++ [last] := by
  rw [List.filterMap_append, out_placed, List.append_assoc]
  cases line <;> rfl

theorem err_written (values : List Text) (first last : Text) (line : Line) :
    ((placed values).map Line.out ++ [.out first, line, .out last]).filterMap Line.err? =
      [line].filterMap Line.err? := by
  rw [List.filterMap_append, err_placed]
  cases line <;> rfl

theorem summary_region (value : Option Text) :
    summary (value.elim region region.resolve) =
      .out ("--region = ".toList ++ value.getD "us-east".toList) := by
  cases value <;> rfl

theorem summary_force (value : Option Text) :
    summary (value.elim force force.resolve) =
      .out ("--force = ".toList ++
        if value = some "1".toList then "true".toList else "false".toList) := by
  cases value with
  | none => rfl
  | some value =>
    have hs : summary (force.resolve value) =
        .out ("--force = ".toList ++ Scalar.renderBool (value == ['1'])) := rfl
    have hone : (some value = some "1".toList) ↔ value = ['1'] := Option.some_inj
    rw [Option.elim_some, hs, Scalar.renderBool]
    simp only [hone, beq_iff_eq]

inductive ShowsReplicas (value : Text) : List Text → List Text → Prop
  | number (n : Int) (hs : Integer.Spells true n value) (hr : 1 ≤ n ∧ n ≤ 10) :
      ShowsReplicas value ["--replicas = ".toList ++ Integer.render n] []
  | refused (reason : Rejection) (hn : ∀ n, Integer.Spells true n value → ¬ (1 ≤ n ∧ n ≤ 10))
      (he : (replicas.resolve value).readWithin (.integer .int64) 1 10 =
        .error (.rejected "replicas".toList value reason)) :
      ShowsReplicas value [] [(ValueError.rejected "replicas".toList value reason).message]

/-- From 1 to 10 no number is too great for the type. -/
theorem read?_iff_spells (value : Text) (n : Int) :
    IntegerType.int64.read? value = some n ∧ 1 ≤ n ∧ n ≤ 10 ↔
      Integer.Spells true n value ∧ 1 ≤ n ∧ n ≤ 10 := by
  have hleast : IntegerType.int64.least = -9223372036854775808 := rfl
  have hgreatest : IntegerType.int64.greatest = 9223372036854775807 := rfl
  have hsigned : IntegerType.int64.signed = true := rfl
  rw [IntegerType.read?_eq_some_iff_spells, hleast, hgreatest, hsigned]
  constructor
  · rintro ⟨⟨hs, _⟩, hr⟩
    exact ⟨hs, hr⟩
  · rintro ⟨hs, hr⟩
    exact ⟨⟨hs, by omega⟩, hr⟩

theorem summary_replicas (value : Option Text) :
    summary (value.elim replicas replicas.resolve) =
      match (replicas.resolve (value.getD "1".toList)).readWithin (.integer .int64) 1 10 with
      | .ok n => .out ("--replicas = ".toList ++ Integer.render n)
      | .error error => .err error.message := by
  cases value with
  | none => rfl
  | some value =>
    have hflag : (replicas.resolve value).isFlag = false := rfl
    have hname : (replicas.resolve value).name.long = "replicas".toList := rfl
    rw [Option.elim_some, Option.getD_some, summary, hflag, hname, if_neg Bool.false_ne_true,
      if_pos rfl]
    cases (replicas.resolve value).readWithin (.integer .int64) 1 10 <;> rfl

theorem exists_showsReplicas (value : Option Text) :
    ∃ out err, ShowsReplicas (value.getD "1".toList) out err ∧
      [summary (value.elim replicas replicas.resolve)].filterMap Line.out? = out ∧
      [summary (value.elim replicas replicas.resolve)].filterMap Line.err? = err := by
  rw [summary_replicas]
  generalize value.getD "1".toList = text
  rcases (replicas.resolve text).readWithin_cases rfl (.integer .int64) 1 10 with
    ⟨n, hr, ⟨hmin, hmax⟩, he⟩ | ⟨reason, hn, he⟩
  · have hread : IntegerType.int64.read? text = some n ∧ 1 ≤ n ∧ n ≤ 10 :=
      ⟨hr, of_decide_eq_true hmin, of_decide_eq_true hmax⟩
    obtain ⟨hs, hb⟩ := (read?_iff_spells text n).1 hread
    exact ⟨_, _, .number n hs hb, by rw [he]; rfl, by rw [he]; rfl⟩
  · have hrefused : ∀ n, Integer.Spells true n text → ¬ (1 ≤ n ∧ n ≤ 10) := by
      intro n hs hb
      obtain ⟨hr, hmin, hmax⟩ := (read?_iff_spells text n).2 ⟨hs, hb⟩
      exact hn n hr ⟨decide_eq_true hmin, decide_eq_true hmax⟩
    exact ⟨_, _, .refused reason hrefused he, by rw [he]; rfl, by rw [he]; rfl⟩

theorem inForce_eq (declared : Parameter) (hm : declared ∈ [region, replicas, force])
    (tokens : List Text) (value : Option Text) (h : FirstValue declared.names tokens value) :
    inForce (bound definition tokens) declared = value.elim declared declared.resolve :=
  inForce_bound definition unambiguous declared (parameters_definition ▸ hm) tokens value h

/-- What a run writes to its two streams if it has no strange option. -/
inductive Written (tokens : List Text) : List Text → List Text → Prop
  | intro (regionValue replicasValue forceValue : Option Text) (out err : List Text)
      (hregion : FirstValue regionNames tokens regionValue)
      (hreplicas : FirstValue replicasNames tokens replicasValue)
      (hforce : FirstValue forceNames tokens forceValue)
      (hshows : ShowsReplicas (replicasValue.getD "1".toList) out err) :
      Written tokens
        (placed (positionals tokens) ++
          ("--region = ".toList ++ regionValue.getD "us-east".toList) :: out ++
          ["--force = ".toList ++
            if forceValue = some "1".toList then "true".toList else "false".toList])
        err

theorem written_of_named (tokens : List Text) (h : Named names tokens) :
    Written tokens ((lines definition summary tokens).filterMap Line.out?)
      ((lines definition summary tokens).filterMap Line.err?) := by
  obtain ⟨regionValue, hregion⟩ := exists_firstValue regionNames tokens
  obtain ⟨replicasValue, hreplicas⟩ := exists_firstValue replicasNames tokens
  obtain ⟨forceValue, hforce⟩ := exists_firstValue forceNames tokens
  obtain ⟨out, err, hshows, hout, herr⟩ := exists_showsReplicas replicasValue
  rw [← names_definition] at h
  rw [lines_of_named definition summary exists_argumentAt? tokens h, settings_eq,
    parameters_definition, List.map_cons, List.map_cons, List.map_singleton,
    inForce_eq region (by simp) tokens _ hregion, inForce_eq replicas (by simp) tokens _ hreplicas,
    inForce_eq force (by simp) tokens _ hforce, summary_region, summary_force, out_written,
    err_written, hout, herr]
  exact .intro _ _ _ out err hregion hreplicas hforce hshows

/-- If every option goes by a name of a parameter, a run writes the positional words and then each
    parameter with the value of its first option; how options and positional words are mixed does
    not show. -/
theorem run_of_named :
    (∀ tokens, Named names tokens →
      ∃ out err, Written tokens out err ∧ run tokens = .ofStreams out err) ∧
    ∀ first second, Named names first → positionals first = positionals second →
      options first = options second → run first = run second := by
  refine ⟨?_, ?_⟩
  · intro tokens h
    exact ⟨_, _, written_of_named tokens h, Report.ofLines_eq _⟩
  · intro first second h hp ho
    rw [run, run, lines_congr definition summary exists_argumentAt? first second h hp ho]

def mixedWords : List Text :=
  ["-n=+11", "web", "--region=a=b", "-f", "cache", "--replicas=2", "-r=eu"].map String.toList

def sortedWords : List Text :=
  ["web", "cache", "-n=+11", "--region=a=b", "-f", "--replicas=2", "-r=eu"].map String.toList

theorem named_mixedWords : Named names mixedWords := by
  rw [named_iff_options]
  have ho : options mixedWords =
    ["-n=+11", "--region=a=b", "-f", "--replicas=2", "-r=eu"].map String.toList := rfl
  rw [ho]
  simp only [List.map_cons, List.map_nil, List.forall_mem_cons]
  refine ⟨⟨"n".toList, by decide, _, .setting _ _ "+11".toList (.single _ rfl) (by decide)⟩,
    ⟨"region".toList, by decide, _, .setting _ _ "a=b".toList (.double _) (by decide)⟩,
    ⟨"f".toList, by decide, _, .presence _ _ (.single _ rfl) (by decide)⟩,
    ⟨"replicas".toList, by decide, _, .setting _ _ "2".toList (.double _) (by decide)⟩,
    ⟨"r".toList, by decide, _, .setting _ _ "eu".toList (.single _ rfl) (by decide)⟩, ?_⟩
  intro token hm
  cases hm

theorem run_of_named_mixedWords :
    Named names mixedWords ∧
      (∃ out err, Written mixedWords out err ∧ run mixedWords = .ofStreams out err) ∧
      run sortedWords = .ofStreams
        (["service = web", "extra = cache", "--region = a=b", "--force = true"].map String.toList)
        ["Invalid value '+11' for '--replicas': outside the range [1, 10].".toList] := by
  obtain ⟨hwritten, hmix⟩ := run_of_named
  refine ⟨named_mixedWords, hwritten _ named_mixedWords, ?_⟩
  rw [← hmix mixedWords sortedWords named_mixedWords rfl rfl]
  rfl

/-- What is written about a strange option: the definition, then each parameter and its
    description. -/
def complaint (token : Text) : List Text :=
  ["Unknown parameter '".toList ++ token ++
      "' for: deploy $service $extra* --region[r]=us-east --replicas[n]=1 --force[f]?".toList,
    "  --region[r]=us-east  ".toList, "  --replicas[n]=1  How many copies to run.".toList,
    "  --force[f]?  ".toList]

theorem unknownParameter_eq (token : Text) :
    unknownParameter definition token = (complaint token).map Line.err := by
  have hrender : definition.render =
    "deploy $service $extra* --region[r]=us-east --replicas[n]=1 --force[f]?".toList := rfl
  rw [unknownParameter, hrender, List.append_assoc]
  rfl

theorem out_of_strange (before : List Text) (token : Text) (after : List Text)
    (hb : Named names before) (ht : Word.Strange names token) :
    (lines definition summary (before ++ token :: after)).filterMap Line.out? =
      placed (positionals before) := by
  have hout : ((complaint token).map Line.err).filterMap Line.out? = [] := rfl
  rw [lines_of_strange definition summary exists_argumentAt? before token after hb ht, settings_eq,
    unknownParameter_eq, List.filterMap_append, out_placed, hout, List.append_nil]

theorem err_of_strange (before : List Text) (token : Text) (after : List Text)
    (hb : Named names before) (ht : Word.Strange names token) :
    (lines definition summary (before ++ token :: after)).filterMap Line.err? =
      complaint token := by
  have herr : ((complaint token).map Line.err).filterMap Line.err? = complaint token := rfl
  rw [lines_of_strange definition summary exists_argumentAt? before token after hb ht, settings_eq,
    unknownParameter_eq, List.filterMap_append, err_placed, herr, List.nil_append]

theorem run_of_strange (before : List Text) (token : Text) (after : List Text)
    (hb : Named names before) (ht : Word.Strange names token) :
    run (before ++ token :: after) =
      .ofStreams (placed (positionals before)) (complaint token) := by
  rw [run, Report.ofLines_eq, out_of_strange before token after hb ht,
    err_of_strange before token after hb ht]

/-- An option that goes by a name and is given another value, or a token that is left as it is. -/
def SameButValue (token other : Text) : Prop :=
  token = other ∨ ∃ name ∈ names, ∃ value next,
    Word.Spells (.option name value) token ∧ Word.Spells (.option name next) other

theorem named_and_positionals_eq (before other : List Text) (h : Forall₂ SameButValue before other)
    (hb : Named names before) : Named names other ∧ positionals before = positionals other := by
  induction h with
  | nil => exact ⟨hb, rfl⟩
  | @cons token next before other ht _ ih =>
    obtain ⟨hn, hb⟩ := (named_cons_iff names token before).1 hb
    obtain ⟨ho, hp⟩ := ih hb
    rw [named_cons_iff, positionals_cons, positionals_cons, hp]
    rcases ht with rfl | ⟨name, hm, value, new, hs, hnext⟩
    · exact ⟨⟨hn, ho⟩, rfl⟩
    · rw [Word.isOption_of_spells name value token hs, Word.isOption_of_spells name new next hnext]
      exact ⟨⟨fun _ => ⟨name, hm, new, hnext⟩, ho⟩, rfl⟩

theorem take_err_of_named (tokens : List Text) (h : Named names tokens) (text : Text)
    (hm : text ∈ (lines definition summary tokens).filterMap Line.err?) :
    text.take 3 = "Inv".toList := by
  have hw := written_of_named tokens h
  generalize (lines definition summary tokens).filterMap Line.out? = out at hw
  generalize (lines definition summary tokens).filterMap Line.err? = err at hw hm
  obtain ⟨_, _, _, _, _, _, _, _, hshows⟩ := hw
  cases hshows with
  | number n hs hr => cases hm
  | refused reason hn he =>
    rw [List.mem_singleton.1 hm]
    rfl

/-- No other message starts as the one about a positional word without a place. -/
theorem unexpectedArgument_notMem (tokens : List Text) (token : Text) :
    unexpectedArgument definition token ∉ lines definition summary tokens := by
  intro hm
  let text := "Unexpected argument '".toList ++ token ++ "' for: ".toList ++ definition.render
  have herr : text ∈ (lines definition summary tokens).filterMap Line.err? :=
    List.mem_filterMap.2 ⟨_, hm, rfl⟩
  have hopening : text.take 3 = "Une".toList := rfl
  rcases named_or_exists_strange names tokens with hn | ⟨before, strange, after, rfl, hb, ht⟩
  · rw [take_err_of_named tokens hn text herr] at hopening
    exact absurd hopening (by decide)
  · rw [err_of_strange before strange after hb ht] at herr
    have hcomplaint : ∀ text ∈ complaint strange,
        text.take 3 = "Unk".toList ∨ text.take 3 = "  -".toList := by
      simp only [complaint, List.forall_mem_cons]
      exact ⟨.inl rfl, .inr rfl, .inr rfl, .inr rfl, fun text hm => nomatch hm⟩
    rcases hcomplaint text herr with hc | hc
    all_goals
      rw [hc] at hopening
      exact absurd hopening (by decide)

theorem exists_parsed :
    ∃ parsed, Definition.parse source = .ok parsed ∧
      definition = (parsed.about "Deploy a service.".toList).describe "replicas".toList
        "How many copies to run.".toList := by
  have hs := parse_source
  cases hp : Definition.parse source with
  | error error =>
    rw [hp] at hs
    cases hs
  | ok parsed =>
    rw [hp] at hs
    exact ⟨parsed, rfl, (Except.ok.inj hs).symm⟩

/-- The definition is that of the literal, every positional word has a place in it, and every run
    succeeds. The first strange option ends a run: what comes after it does not count, and of what
    comes before it the values of options do not. -/
theorem run_stops_at_strange :
    (∃ parsed, Definition.parse source = .ok parsed ∧
      definition = (parsed.about "Deploy a service.".toList).describe "replicas".toList
        "How many copies to run.".toList) ∧
    (∀ position, ∃ argument, definition.argumentAt? position = some argument) ∧
    (∀ tokens token, unexpectedArgument definition token ∉ lines definition summary tokens) ∧
    (∀ tokens, (run tokens).exit = 0) ∧
    (∀ tokens, (∃ token ∈ tokens, Word.Strange names token) →
      ∃ before token after, tokens = before ++ token :: after ∧ Named names before ∧
        Word.Strange names token) ∧
    ∀ before token after, Named names before → Word.Strange names token →
      run (before ++ token :: after) = .ofStreams (placed (positionals before)) (complaint token) ∧
      (∀ later, run (before ++ token :: later) = run (before ++ token :: after)) ∧
      ∀ earlier, Forall₂ SameButValue before earlier →
        run (earlier ++ token :: after) = run (before ++ token :: after) := by
  refine ⟨exists_parsed, exists_argumentAt?, unexpectedArgument_notMem, fun _ => rfl, ?_, ?_⟩
  · rintro tokens ⟨strange, hm, hs⟩
    refine (named_or_exists_strange names tokens).resolve_left ?_
    intro hn
    exact Word.not_names_of_strange names strange hs
      (hn strange hm (Word.isOption_of_strange names strange hs))
  · intro before token after hb ht
    rw [run_of_strange before token after hb ht]
    refine ⟨rfl, ?_, ?_⟩
    · intro later
      exact run_of_strange before token later hb ht
    · intro earlier he
      obtain ⟨hn, hp⟩ := named_and_positionals_eq before earlier he hb
      rw [run_of_strange earlier token after hn ht, hp]

theorem run_stops_at_strange_nameless :
    let before : List Text := ["web".toList, "-n=3".toList]
    let earlier : List Text := ["web".toList, "--n".toList]
    let token : Text := "-=x".toList
    Named names before ∧ Word.Strange names token ∧
      run (before ++ token :: ["cache".toList, "--bogus".toList]) =
        .ofStreams ["service = web".toList] (complaint token) ∧
      run (before ++ [token]) = run (before ++ token :: ["cache".toList, "--bogus".toList]) ∧
      run (earlier ++ [token]) = run (before ++ [token]) := by
  intro before earlier token
  have hn : Word.Spells (.option "n".toList "3".toList) "-n=3".toList :=
    .setting _ _ "3".toList (.single _ rfl) (by decide)
  have hnext : Word.Spells (.option "n".toList ['1']) "--n".toList :=
    .presence _ _ (.double _) (by decide)
  have hb : Named names before := by
    rw [named_iff_options]
    exact List.forall_mem_singleton.2 ⟨"n".toList, by decide, _, hn⟩
  have ht : Word.Strange names token :=
    ⟨[], "x".toList, .setting _ [] "x".toList (.single _ rfl) (by decide), by decide⟩
  have he : Forall₂ SameButValue before earlier :=
    .cons (.inl rfl) (.cons (.inr ⟨"n".toList, by decide, _, _, hn, hnext⟩) .nil)
  obtain ⟨_, _, _, _, _, hstop⟩ := run_stops_at_strange
  obtain ⟨hrun, hlater, _⟩ := hstop before token ["cache".toList, "--bogus".toList] hb ht
  obtain ⟨_, _, hvalues⟩ := hstop before token [] hb ht
  exact ⟨hb, ht, hrun, hlater [], hvalues earlier he⟩

end Deploy
end CommandGrammar
