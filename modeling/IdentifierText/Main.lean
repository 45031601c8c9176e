/-
The command line program.
-/
import IdentifierText.CommandLine.Program

open IdentifierText.CommandLine

def main (args : List String) : IO UInt32 := do
  let outcome := program args
  (← IO.getStdout).write outcome.stdout
  (← IO.getStderr).putStr outcome.stderr
  return outcome.exitCode.toUInt32
