import TreeSelector.CommandLine

/-!
# The program

Runs the command line and prints what it leaves behind.
-/

set_option autoImplicit false

/-- Prints the outcome of the arguments and exits with its code. -/
def main (arguments : List String) : IO UInt32 := do
  let outcome := TreeSelector.CommandLine.run arguments
  IO.print outcome.output
  IO.eprint outcome.errors
  return outcome.code.toUInt32
