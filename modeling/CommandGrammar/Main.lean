import CommandGrammar.Deploy

set_option autoImplicit false

open CommandGrammar

def main (args : List String) : IO UInt32 := do
  let report := Deploy.run (args.map String.toList)
  (← IO.getStdout).putStr (String.ofList report.out)
  (← IO.getStderr).putStr (String.ofList report.err)
  return report.exit
