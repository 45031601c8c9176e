/-
Command lines: a command, then options and identifiers in any order. Options start with two hyphens; after a bare `--`
every argument is an identifier. A command line with several faults is refused for the first of these: no command, unknown
command, unknown option, option that does not apply, no identifier.
-/

namespace IdentifierText.CommandLine

inductive Command where
  | check
  | classify
  | strip
  | escape
  deriving DecidableEq, Repr

namespace Command

def name : Command → String
  | check => "check"
  | classify => "classify"
  | strip => "strip"
  | escape => "escape"

def all : List Command :=
  [check, classify, strip, escape]

def ofName? (name : String) : Option Command :=
  all.find? (·.name = name)

end Command

/-- `escaped`: identifiers are given in escaped form; `entities`: spell identifiers as character references, too -/
structure Options where
  escaped : Bool := false
  entities : Bool := false
  deriving DecidableEq, Repr

/-- a command with its options and the identifiers as they are given -/
structure Invocation where
  command : Command
  options : Options
  identifiers : List String
  deriving DecidableEq, Repr

inductive UsageError where
  | noCommand
  | unknownCommand (name : String)
  | unknownOption (option : String)
  | entitiesElsewhere
  | noIdentifier (command : Command)
  deriving DecidableEq, Repr

def UsageError.message : UsageError → String
  | noCommand => "missing command"
  | unknownCommand name => s!"unknown command `{name}`"
  | unknownOption option => s!"unknown option `{option}`"
  | entitiesElsewhere => "`--entities` only applies to the `escape` command"
  | noIdentifier command => s!"`{command.name}` needs at least one identifier"

def isOption (arg : String) : Bool :=
  ['-', '-'].isPrefixOf arg.toList

/-- the options and the identifiers among the arguments after the command -/
def sortArguments : List String → Except UsageError (Options × List String)
  | [] => .ok ({}, [])
  | arg :: args =>
    if arg = "--" then .ok ({}, args)
    else if arg = "--escaped" then (sortArguments args).map fun (options, ids) => ({ options with escaped := true }, ids)
    else if arg = "--entities" then (sortArguments args).map fun (options, ids) => ({ options with entities := true }, ids)
    else if isOption arg then .error (.unknownOption arg)
    else (sortArguments args).map fun (options, ids) => (options, arg :: ids)

def Invocation.ofArguments : List String → Except UsageError Invocation
  | [] => .error .noCommand
  | name :: args =>
    match Command.ofName? name with
    | none => .error (.unknownCommand name)
    | some command =>
      match sortArguments args with
      | .error e => .error e
      | .ok (options, identifiers) =>
        if options.entities ∧ command ≠ .escape then .error .entitiesElsewhere
        else if identifiers = [] then .error (.noIdentifier command)
        else .ok ⟨command, options, identifiers⟩

end IdentifierText.CommandLine
