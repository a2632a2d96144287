import TargetDescription.CommandLine

/-!
# The executable

* `main` prints what `CommandLine.run` answers.
-/

/-- Runs the layout inspector on the arguments of the process. -/
def main (args : List String) : IO UInt32 := do
  let result := TargetDescription.CommandLine.run args
  IO.print result.output
  IO.eprint result.messages
  return UInt32.ofNat result.exitCode
