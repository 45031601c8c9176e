/-
The program as a function of its arguments: exit code and what is written to the standard streams.
-/
import IdentifierText.CommandLine.Report

namespace IdentifierText.CommandLine

def usageLines : List String :=
  ["Usage: lexid <command> [options] <identifier>...",
    "",
    "Commands:",
    "  check       Report whether each identifier is valid",
    "  classify    List every scalar with its category and classes",
    "  strip       Print identifiers without formatting characters",
    "  escape      Print every escape spelling",
    "",
    "Options:",
    "  --escaped   Decode \\uXXXX and \\UXXXXXXXX in arguments first",
    "  --entities  Also print &#...; spellings (escape only)",
    "",
    "Set RUST_LOG (e.g. RUST_LOG=debug) for diagnostic output."]

def usage : String :=
  String.join (usageLines.map (· ++ "\n"))

/-- the effects of a run of the program -/
structure Outcome where
  exitCode : UInt8
  stdout : ByteArray
  stderr : String

def Status.exitCode : Status → UInt8
  | success => 0
  | failure => 1

/-- whether the arguments ask for help: there are none, or the first one is a word for it -/
def asksForHelp : List String → Bool
  | [] => true
  | first :: _ => first = "help" || first = "--help" || first = "-h"

def program (args : List String) : Outcome :=
  if asksForHelp args then ⟨0, .empty, usage⟩
  else
    match Invocation.ofArguments args with
    | .error e => ⟨1, .empty, s!"error: {e.message}\n\n{usage}"⟩
    | .ok inv =>
      match (Report.ofInvocation inv).run {} with
      | (.ok status, sink) => ⟨status.exitCode, sink.written, ""⟩
      | (.error failure, sink) => ⟨1, sink.written, s!"error: {failure.message}\n"⟩

end IdentifierText.CommandLine
