import CommandGrammar.CommandLine
import CommandGrammar.Draft
import CommandGrammar.Parameter.Value

set_option autoImplicit false

namespace CommandGrammar.Deploy

def source : Text :=
  "deploy $service $extra* --region[r]=us-east --replicas[n]=1 --force[f]?".toList

def definition : Definition where
  source := source
  command := "deploy".toList
  arguments := [⟨"service".toList, false⟩, ⟨"extra".toList, true⟩]
  parameters :=
    [.value ⟨"region".toList, some 'r'⟩ (some "us-east".toList),
      (Parameter.value ⟨"replicas".toList, some 'n'⟩ (some "1".toList)).about
        "How many copies to run.".toList,
      .flag ⟨"force".toList, some 'f'⟩]
  description := some "Deploy a service.".toList

def summary (parameter : Parameter) : Line :=
  let line (value : Text) : Line := CommandLine.setting ('-' :: '-' :: parameter.name.long) value
  if parameter.isFlag then line (Scalar.renderBool parameter.isEnabled)
  else
    let value :=
      if parameter.name.long = "replicas".toList then
        (parameter.readWithin (.integer .int64) 1 10).map Integer.render
      else parameter.text
    match value with
    | .ok value => line value
    | .error error => .err error.message

def run (tokens : List Text) : Report :=
  .ofLines (CommandLine.lines definition summary tokens)

theorem parse_source :
    (Definition.parse source).map (fun d =>
      (d.about "Deploy a service.".toList).describe "replicas".toList
        "How many copies to run.".toList) = .ok definition := by
  rfl

end CommandGrammar.Deploy
