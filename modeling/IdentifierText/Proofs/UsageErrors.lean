/-
Why a command line is refused.

A command line may have several faults at once, and an error names one of them. The command is looked at before everything
else, then the options one after another, and only behind all of them whether they go with the command and whether there is
an identifier. What stands behind a bare `--` is never at fault. So the error is told by the arguments as they are given:
those in front of the first bare `--`, and whether anything is behind it.

Results:
- `sortArguments_of_firstUnknown`, `sortArguments_of_known`: sorting stops at the first unknown option, and otherwise goes
  on to the end;
- `ofArguments_of_refused`, `exists_invocation_or_refused`: a fault that takes precedence is the error, and a command line
  without one describes an invocation;
- `ofArguments_by_fault`: the error of a command line, for every list of arguments.
-/
import Mathlib.Data.List.TakeWhile
import IdentifierText.Proofs.CommandLineGrammar

namespace IdentifierText.CommandLine

/-! ## In front of the first bare `--` and behind it -/

/-- the arguments in front of the first bare `--` -/
def beforeBare (args : List String) : List String :=
  args.takeWhile (· ≠ "--")

/-- the arguments behind the first bare `--` -/
def behindBare (args : List String) : List String :=
  (args.dropWhile (· ≠ "--")).tail

/-- the first unknown option in front of the bare `--` -/
def FirstUnknown (args : List String) (option : String) : Prop :=
  ∃ before after, beforeBare args = before ++ option :: after ∧ IsUnknown option ∧ ∀ arg ∈ before, ¬IsUnknown arg

/-- no option in front of the bare `--` is unknown -/
def Known (args : List String) : Prop :=
  ∀ arg ∈ beforeBare args, ¬IsUnknown arg

theorem Argument.word_ne_bare (a : Argument) : a.word ≠ "--" := by
  cases a with
  | escaped => decide
  | entities => decide
  | identifier word hword =>
    rintro rfl
    exact hword ⟨[], rfl⟩

theorem Argument.not_isUnknown_word (a : Argument) : ¬IsUnknown a.word := by
  intro h
  obtain ⟨hhyphens, -, hescaped, hentities⟩ := h
  cases a with
  | escaped => exact hescaped rfl
  | entities => exact hentities rfl
  | identifier word hword => exact hword hhyphens

theorem word_eq_entities_iff {a : Argument} : a.word = "--entities" ↔ a = .entities := by
  constructor
  · intro h
    cases a with
    | escaped => exact absurd h (by decide)
    | entities => rfl
    | identifier word hword =>
      obtain rfl : word = "--entities" := h
      exact absurd ⟨"entities".toList, rfl⟩ hword
  · intro h
    rw [h, Argument.word]

theorem ne_bare_of_mem_beforeBare {args : List String} {arg : String} (h : arg ∈ beforeBare args) : arg ≠ "--" := by
  have hne := List.mem_takeWhile_imp h
  exact of_decide_eq_true hne

theorem forall_ne_bare (front : List Argument) : ∀ arg ∈ front.map (·.word), (decide (arg ≠ "--")) = true := by
  intro arg harg
  obtain ⟨a, -, rfl⟩ := List.mem_map.1 harg
  exact decide_eq_true a.word_ne_bare

theorem beforeBare_front (front : List Argument) (rest : List String) :
    beforeBare (front.map (·.word) ++ rest) = front.map (·.word) ++ beforeBare rest :=
  List.takeWhile_append_of_pos (forall_ne_bare front)

theorem behindBare_front (front : List Argument) (rest : List String) :
    behindBare (front.map (·.word) ++ rest) = behindBare rest := by
  rw [behindBare, List.dropWhile_append_of_pos (forall_ne_bare front), behindBare]

theorem beforeBare_closing (trailing : Option (List String)) : beforeBare (closing trailing) = [] := by
  cases trailing <;> simp [closing, beforeBare]

theorem behindBare_closing (trailing : Option (List String)) : behindBare (closing trailing) = trailing.getD [] := by
  cases trailing <;> simp [closing, behindBare]

/-- an unknown option is no bare `--` -/
theorem beforeBare_of_isUnknown {option : String} (h : IsUnknown option) (more : List String) :
    beforeBare (option :: more) = option :: beforeBare more :=
  List.takeWhile_cons_of_pos (decide_eq_true h.2.1)

/-! ## Sorting by the arguments as they are given -/

/-- **The arguments in front of the bare `--`.** Either all of them can be sorted, or there is a first unknown option. -/
theorem arranged_or_firstUnknown (args : List String) :
    (∃ (front : List Argument) (trailing : Option (List String)), args = front.map (·.word) ++ closing trailing) ∨
      ∃ option, FirstUnknown args option := by
  obtain ⟨front, rest, rfl, ⟨trailing, rfl⟩ | ⟨option, more, rfl, hunknown⟩⟩ := exists_front args
  · exact Or.inl ⟨front, trailing, rfl⟩
  · refine Or.inr ⟨option, front.map (·.word), beforeBare more, ?_, hunknown, ?_⟩
    · rw [beforeBare_front, beforeBare_of_isUnknown hunknown]
    · intro arg harg
      obtain ⟨a, -, rfl⟩ := List.mem_map.1 harg
      exact a.not_isUnknown_word

/-- without an unknown option sorting comes to the end -/
theorem sortArguments_of_known {args : List String} (h : Known args) :
    ∃ front : List Argument, beforeBare args = front.map (·.word) ∧
      sortArguments args = .ok (optionsOf front, front.filterMap (·.identifier?) ++ behindBare args) := by
  rcases arranged_or_firstUnknown args with ⟨front, trailing, rfl⟩ | ⟨option, before, after, hsplit, hunknown, -⟩
  · refine ⟨front, ?_, ?_⟩
    · rw [beforeBare_front, beforeBare_closing, List.append_nil]
    · rw [sortArguments_arranged, behindBare_front, behindBare_closing]
  · have hmem : option ∈ beforeBare args := by
      rw [hsplit]
      exact List.mem_append_right _ List.mem_cons_self
    exact absurd hunknown (h option hmem)

/-- sorting stops at the first unknown option, whatever is behind it -/
theorem sortArguments_of_firstUnknown {args : List String} {option : String} (h : FirstUnknown args option) :
    sortArguments args = .error (.unknownOption option) := by
  obtain ⟨before, after, hsplit, hunknown, hknown⟩ := h
  have hargs : args = before ++ option :: (after ++ args.dropWhile (· ≠ "--")) := by
    rw [← List.cons_append, ← List.append_assoc, ← hsplit, beforeBare, List.takeWhile_append_dropWhile]
  have hbefore : beforeBare before = before := by
    rw [beforeBare, List.takeWhile_eq_self_iff]
    intro arg harg
    have hmem : arg ∈ beforeBare args := by
      rw [hsplit]
      exact List.mem_append_left _ harg
    exact decide_eq_true (ne_bare_of_mem_beforeBare hmem)
  -- what stands in front of the option is neither bare nor unknown, so it can be sorted
  have hsorted : Known before := by rwa [Known, hbefore]
  obtain ⟨front, hfront, -⟩ := sortArguments_of_known hsorted
  rw [hbefore] at hfront
  rw [hargs, hfront, sortArguments_front, sortArguments_of_isUnknown hunknown]
  rfl

theorem known_or_firstUnknown (args : List String) : Known args ∨ ∃ option, FirstUnknown args option := by
  rcases arranged_or_firstUnknown args with ⟨front, trailing, rfl⟩ | hunknown
  · refine Or.inl ?_
    intro arg harg
    rw [beforeBare_front, beforeBare_closing, List.append_nil] at harg
    obtain ⟨a, -, rfl⟩ := List.mem_map.1 harg
    exact a.not_isUnknown_word
  · exact Or.inr hunknown

theorem entities_optionsOf_iff {front : List Argument} :
    (optionsOf front).entities = true ↔ "--entities" ∈ front.map (·.word) := by
  simp [optionsOf, List.mem_map, word_eq_entities_iff]

/-- arguments without an identifier are those that start with two hyphens -/
theorem filterMap_identifier?_eq_nil_iff {front : List Argument} :
    front.filterMap (·.identifier?) = [] ↔ ∀ arg ∈ front.map (·.word), ['-', '-'] <+: arg.toList := by
  rw [List.filterMap_eq_nil_iff, List.forall_mem_map]
  refine forall₂_congr fun a _ => ?_
  cases a with
  | escaped => exact iff_of_true rfl ⟨"escaped".toList, rfl⟩
  | entities => exact iff_of_true rfl ⟨"entities".toList, rfl⟩
  | identifier word hword => exact iff_of_false (by simp [Argument.identifier?]) hword

/-! ## Errors -/

/-- the error that a command line is refused for: no command, else an unknown command, else the first unknown option in
front of the bare `--`, else an option there that does not go with the command, else that there is no identifier on either
side of the bare `--` -/
inductive Refused : List String → UsageError → Prop
  | noCommand : Refused [] .noCommand
  | unknownCommand {name : String} (hname : ∀ command : Command, name ≠ command.name) (args : List String) :
    Refused (name :: args) (.unknownCommand name)
  | unknownOption (command : Command) {args : List String} {option : String} (hfirst : FirstUnknown args option) :
    Refused (command.name :: args) (.unknownOption option)
  | entitiesElsewhere {command : Command} {args : List String} (hknown : Known args)
    (hentities : "--entities" ∈ beforeBare args) (hcommand : command ≠ .escape) :
    Refused (command.name :: args) .entitiesElsewhere
  | noIdentifier {command : Command} {args : List String} (hknown : Known args)
    (hentities : "--entities" ∈ beforeBare args → command = .escape)
    (hoptions : ∀ arg ∈ beforeBare args, ['-', '-'] <+: arg.toList) (hbehind : behindBare args = []) :
    Refused (command.name :: args) (.noIdentifier command)

theorem ofArguments_of_unknownCommand {name : String} (hname : ∀ command : Command, name ≠ command.name)
    (args : List String) : Invocation.ofArguments (name :: args) = .error (.unknownCommand name) := by
  have hnone : Command.ofName? name = none := by
    rw [Option.eq_none_iff_forall_ne_some]
    intro command hcommand
    exact hname command (ofName?_eq_some_iff.1 hcommand)
  rw [Invocation.ofArguments, hnone]

theorem ofArguments_of_unknownOption (command : Command) {args : List String} {option : String}
    (h : FirstUnknown args option) : Invocation.ofArguments (command.name :: args) = .error (.unknownOption option) := by
  rw [Invocation.ofArguments, ofName?_eq_some_iff.2 rfl]
  simp only [sortArguments_of_firstUnknown h]

/-- **Behind the options.** Where all arguments can be sorted, the command is compared with the options, and then
identifiers are asked for. -/
theorem ofArguments_of_sorted (command : Command) {args ids : List String} {options : Options}
    (h : sortArguments args = .ok (options, ids)) :
    Invocation.ofArguments (command.name :: args) =
      if options.entities = true ∧ command ≠ .escape then .error .entitiesElsewhere
      else if ids = [] then .error (.noIdentifier command)
      else .ok ⟨command, options, ids⟩ := by
  rw [Invocation.ofArguments, ofName?_eq_some_iff.2 rfl]
  simp only [h]

theorem ofArguments_of_refused {args : List String} {e : UsageError} (h : Refused args e) :
    Invocation.ofArguments args = .error e := by
  cases h with
  | noCommand => rfl
  | unknownCommand hname args => exact ofArguments_of_unknownCommand hname args
  | unknownOption command hfirst => exact ofArguments_of_unknownOption command hfirst
  | entitiesElsewhere hknown hentities hcommand =>
    obtain ⟨front, hfront, hsort⟩ := sortArguments_of_known hknown
    rw [hfront] at hentities
    rw [ofArguments_of_sorted _ hsort, if_pos ⟨entities_optionsOf_iff.2 hentities, hcommand⟩]
  | noIdentifier hknown hentities hoptions hbehind =>
    obtain ⟨front, hfront, hsort⟩ := sortArguments_of_known hknown
    rw [hfront] at hentities hoptions
    have happlies : ¬((optionsOf front).entities = true ∧ _ ≠ Command.escape) := fun h =>
      h.2 (hentities (entities_optionsOf_iff.1 h.1))
    have hids : front.filterMap (·.identifier?) ++ behindBare _ = [] :=
      List.append_eq_nil_iff.2 ⟨filterMap_identifier?_eq_nil_iff.2 hoptions, hbehind⟩
    rw [ofArguments_of_sorted _ hsort, if_neg happlies, if_pos hids]

/-- a command line that is not refused describes an invocation -/
theorem exists_invocation_or_refused (args : List String) :
    (∃ inv, Invocation.ofArguments args = .ok inv) ∨ ∃ e, Refused args e := by
  cases args with
  | nil => exact Or.inr ⟨_, .noCommand⟩
  | cons name args =>
    by_cases hname : ∃ command : Command, name = command.name
    · obtain ⟨command, rfl⟩ := hname
      rcases known_or_firstUnknown args with hknown | ⟨option, hfirst⟩
      · obtain ⟨front, hfront, hsort⟩ := sortArguments_of_known hknown
        by_cases hentities : "--entities" ∈ beforeBare args ∧ command ≠ .escape
        · exact Or.inr ⟨_, .entitiesElsewhere hknown hentities.1 hentities.2⟩
        by_cases hids : front.filterMap (·.identifier?) ++ behindBare args = []
        · obtain ⟨hnone, hbehind⟩ := List.append_eq_nil_iff.1 hids
          rw [filterMap_identifier?_eq_nil_iff, ← hfront] at hnone
          exact Or.inr ⟨_, .noIdentifier hknown (fun h => by_contra fun hc => hentities ⟨h, hc⟩) hnone hbehind⟩
        · rw [hfront, ← entities_optionsOf_iff] at hentities
          exact Or.inl ⟨_, by rw [ofArguments_of_sorted _ hsort, if_neg hentities, if_neg hids]⟩
      · exact Or.inr ⟨_, .unknownOption command hfirst⟩
    · exact Or.inr ⟨_, .unknownCommand (not_exists.1 hname) args⟩

/-- **Which error a command line is refused for.** Each error has its condition on the arguments, in which those that take
precedence are ruled out, and a command line that meets none of the conditions describes an invocation. -/
theorem ofArguments_by_fault (args : List String) :
    (∀ e, Invocation.ofArguments args = .error e ↔ Refused args e) ∧
    ((∃ inv, Invocation.ofArguments args = .ok inv) ↔ ∀ e, ¬Refused args e) := by
  constructor
  · intro e
    constructor
    · intro h
      rcases exists_invocation_or_refused args with ⟨inv, hinv⟩ | ⟨e', he'⟩
      · cases hinv.symm.trans h
      · obtain rfl : e' = e := Except.error.inj ((ofArguments_of_refused he').symm.trans h)
        exact he'
    · exact ofArguments_of_refused
  · constructor
    · intro h e he
      obtain ⟨inv, hinv⟩ := h
      cases hinv.symm.trans (ofArguments_of_refused he)
    · intro h
      rcases exists_invocation_or_refused args with hinv | ⟨e, he⟩
      · exact hinv
      · exact absurd he (h e)

/-- an unknown option behind one that does not go with the command takes precedence over it, and behind a bare `--` there is
no fault -/
example :
    Invocation.ofArguments ["strip", "--entities", "--colour"] = .error (.unknownOption "--colour") ∧
    Invocation.ofArguments ["strip", "--entities", "--", "--colour"] = .error .entitiesElsewhere ∧
    (Invocation.ofArguments ["strip", "--", "--entities", "--colour"]).toOption =
      some ⟨.strip, {}, ["--entities", "--colour"]⟩ := by
  refine ⟨rfl, rfl, ?_⟩
  decide

end IdentifierText.CommandLine
