/-
The grammar of command lines.

Behind the command stand options and identifiers in any order, and then, if there is a bare `--`, further arguments of any
kind. What an argument is depends on where it stands: the same word is an option before the bare `--` and an identifier
behind it. So each argument before it is given with what it is (`Argument`), and a list of these is options and identifiers
interleaved in some order.

Results:
- `exists_front`: every list of arguments has such a list in front, and then ends, or goes on with a bare `--` or with an
  option that there is not;
- `sortArguments_cons`, `sortArguments_front`: an argument is added to what the rest is sorted into, and so is a list;
- `sortArguments_eq_ok_iff`: sorting succeeds exactly when no unknown option is met;
- `ofArguments_by_grammar`: an invocation is described by the command lines of the grammar, and by no others.
-/
import Mathlib.Tactic.ByContra
import Mathlib.Tactic.SplitIfs
import IdentifierText.CommandLine.Invocation

namespace IdentifierText.CommandLine

/-! ## Arguments and what they are -/

/-- an argument between the command and the first bare `--`: one of the options, or an identifier, which two hyphens do
not open -/
inductive Argument where
  | escaped
  | entities
  | identifier (word : String) (hword : ¬['-', '-'] <+: word.toList)
  deriving DecidableEq

namespace Argument

def word : Argument → String
  | escaped => "--escaped"
  | entities => "--entities"
  | identifier word _ => word

def identifier? : Argument → Option String
  | identifier word _ => some word
  | _ => none

end Argument

/-- what closes the arguments: nothing, or a bare `--` and whatever is behind it -/
def closing : Option (List String) → List String
  | none => []
  | some trailing => "--" :: trailing

def optionsOf (front : List Argument) : Options :=
  ⟨.escaped ∈ front, .entities ∈ front⟩

/-- the options and identifiers of all arguments, from those in front and what the rest is sorted into -/
def addFront (front : List Argument) (sorted : Options × List String) : Options × List String :=
  (⟨(optionsOf front).escaped || sorted.1.escaped, (optionsOf front).entities || sorted.1.entities⟩,
    front.filterMap (·.identifier?) ++ sorted.2)

def IsUnknown (arg : String) : Prop :=
  ['-', '-'] <+: arg.toList ∧ arg ≠ "--" ∧ arg ≠ "--escaped" ∧ arg ≠ "--entities"

theorem isOption_iff {arg : String} : isOption arg = true ↔ ['-', '-'] <+: arg.toList :=
  List.isPrefixOf_iff_prefix

/-! ## Sorting -/

/-- **A list of arguments as far as the grammar goes.** What is left is nothing, or starts with a bare `--` or an unknown
option. -/
theorem exists_front (args : List String) :
    ∃ (front : List Argument) (rest : List String), args = front.map (·.word) ++ rest ∧
      ((∃ trailing, rest = closing trailing) ∨ ∃ option more, rest = option :: more ∧ IsUnknown option) := by
  induction args with
  | nil => exact ⟨[], [], rfl, Or.inl ⟨none, rfl⟩⟩
  | cons arg args ih =>
    obtain ⟨front, rest, rfl, hrest⟩ := ih
    by_cases hbare : arg = "--"
    · subst hbare
      exact ⟨[], _, rfl, Or.inl ⟨some _, rfl⟩⟩
    by_cases hescaped : arg = "--escaped"
    · subst hescaped
      exact ⟨.escaped :: front, rest, rfl, hrest⟩
    by_cases hentities : arg = "--entities"
    · subst hentities
      exact ⟨.entities :: front, rest, rfl, hrest⟩
    by_cases hhyphens : ['-', '-'] <+: arg.toList
    · exact ⟨[], _, rfl, Or.inr ⟨arg, _, rfl, hhyphens, hbare, hescaped, hentities⟩⟩
    · exact ⟨.identifier arg hhyphens :: front, rest, rfl, hrest⟩

theorem sortArguments_closing (trailing : Option (List String)) :
    sortArguments (closing trailing) = .ok ({}, trailing.getD []) := by
  cases trailing <;> simp [closing, sortArguments]

theorem sortArguments_of_isUnknown {option : String} (h : IsUnknown option) (more : List String) :
    sortArguments (option :: more) = .error (.unknownOption option) := by
  obtain ⟨hhyphens, hbare, hescaped, hentities⟩ := h
  simp [sortArguments, hbare, hescaped, hentities, isOption_iff.2 hhyphens]

/-- **One argument.** It is added to what the others are sorted into. -/
theorem sortArguments_cons (a : Argument) (args : List String) :
    sortArguments (a.word :: args) = (sortArguments args).map (addFront [a]) := by
  cases a with
  | escaped => rfl
  | entities => rfl
  | identifier word hword =>
    -- two hyphens open each of the other words
    have hbare : word ≠ "--" := by
      rintro rfl
      exact hword ⟨[], rfl⟩
    have hescaped : word ≠ "--escaped" := by
      rintro rfl
      exact hword ⟨"escaped".toList, rfl⟩
    have hentities : word ≠ "--entities" := by
      rintro rfl
      exact hword ⟨"entities".toList, rfl⟩
    have hoption : isOption word = false := Bool.eq_false_iff.2 (mt isOption_iff.1 hword)
    simp only [Argument.word, sortArguments, hbare, hescaped, hentities, hoption, if_false]
    rfl

/-- **Arguments in a row.** Their options and identifiers are added to those of the rest, in order, and a fault in the rest
is the fault of the whole. -/
theorem sortArguments_front (front : List Argument) (rest : List String) :
    sortArguments (front.map (·.word) ++ rest) = (sortArguments rest).map (addFront front) := by
  induction front with
  | nil => cases h : sortArguments rest <;> simp [h, addFront, optionsOf, Except.map]
  | cons a front ih =>
    rw [List.map_cons, List.cons_append, sortArguments_cons, ih]
    cases sortArguments rest with
    | error e => rfl
    | ok sorted => cases a <;> simp [Except.map, addFront, optionsOf, Argument.identifier?]

theorem sortArguments_arranged (front : List Argument) (trailing : Option (List String)) :
    sortArguments (front.map (·.word) ++ closing trailing) =
      .ok (optionsOf front, front.filterMap (·.identifier?) ++ trailing.getD []) := by
  rw [sortArguments_front, sortArguments_closing]
  simp [Except.map, addFront]

theorem sortArguments_eq_ok_iff {args ids : List String} {options : Options} :
    sortArguments args = .ok (options, ids) ↔
      ∃ front trailing, args = front.map (·.word) ++ closing trailing ∧ options = optionsOf front ∧
        ids = front.filterMap (·.identifier?) ++ trailing.getD [] := by
  constructor
  · intro h
    obtain ⟨front, rest, rfl, ⟨trailing, rfl⟩ | ⟨option, more, rfl, hunknown⟩⟩ := exists_front args
    · rw [sortArguments_arranged] at h
      cases h
      exact ⟨front, trailing, rfl, rfl, rfl⟩
    · rw [sortArguments_front, sortArguments_of_isUnknown hunknown] at h
      cases h
  · rintro ⟨front, trailing, rfl, rfl, rfl⟩
    exact sortArguments_arranged front trailing

/-! ## Command lines -/

theorem ofName?_eq_some_iff {name : String} {command : Command} :
    Command.ofName? name = some command ↔ name = command.name := by
  constructor
  · intro h
    have hname := List.find?_some h
    exact (of_decide_eq_true hname).symm
  · rintro rfl
    cases command <;> rfl

/-- a command line is sorted behind its command, and what comes of it must make up an invocation -/
theorem ofArguments_eq_ok_iff {args : List String} {inv : Invocation} :
    Invocation.ofArguments args = .ok inv ↔
      ∃ rest, args = inv.command.name :: rest ∧ sortArguments rest = .ok (inv.options, inv.identifiers) ∧
        (inv.options.entities = true → inv.command = .escape) ∧ inv.identifiers ≠ [] := by
  constructor
  · intro h
    cases args with
    | nil => cases h
    | cons name rest =>
      rw [Invocation.ofArguments] at h
      cases hname : Command.ofName? name with
      | none =>
        rw [hname] at h
        cases h
      | some command =>
        obtain rfl := ofName?_eq_some_iff.1 hname
        rw [hname] at h
        rcases hsort : sortArguments rest with e | ⟨options, ids⟩ <;> simp only [hsort] at h
        · cases h
        · split_ifs at h with hentities hids
          cases h
          refine ⟨rest, rfl, hsort, ?_, hids⟩
          intro hset
          by_contra hescape
          exact hentities ⟨hset, hescape⟩
  · rintro ⟨rest, rfl, hsort, hescape, hids⟩
    have hentities : ¬(inv.options.entities = true ∧ inv.command ≠ .escape) := fun h => h.2 (hescape h.1)
    rw [Invocation.ofArguments, ofName?_eq_some_iff.2 rfl]
    simp only [hsort]
    rw [if_neg hentities, if_neg hids]

theorem eq_optionsOf_iff {options : Options} {front : List Argument} :
    options = optionsOf front ↔
      (options.escaped = true ↔ .escaped ∈ front) ∧ (options.entities = true ↔ .entities ∈ front) := by
  obtain ⟨escaped, entities⟩ := options
  cases escaped <;> cases entities <;> simp [optionsOf]

/-- **The grammar of command lines.** An invocation has identifiers, asks for character references only with `escape`,
and is described by its command, then its options and some of its identifiers in any order, then, if it has others, a bare
`--` and these. Each option that is set is there at least once, and none that is not set. No other command line describes
it. -/
theorem ofArguments_by_grammar (args : List String) (inv : Invocation) :
    Invocation.ofArguments args = .ok inv ↔
      inv.identifiers ≠ [] ∧ (inv.options.entities = true → inv.command = .escape) ∧
      ∃ (front : List Argument) (trailing : Option (List String)),
        args = inv.command.name :: (front.map (·.word) ++ closing trailing) ∧
        (inv.options.escaped = true ↔ .escaped ∈ front) ∧ (inv.options.entities = true ↔ .entities ∈ front) ∧
        inv.identifiers = front.filterMap (·.identifier?) ++ trailing.getD [] := by
  rw [ofArguments_eq_ok_iff]
  constructor
  · rintro ⟨rest, rfl, hsort, hescape, hids⟩
    obtain ⟨front, trailing, rfl, hoptions, hidentifiers⟩ := sortArguments_eq_ok_iff.1 hsort
    obtain ⟨hescaped, hentities⟩ := eq_optionsOf_iff.1 hoptions
    exact ⟨hids, hescape, front, trailing, rfl, hescaped, hentities, hidentifiers⟩
  · rintro ⟨hids, hescape, front, trailing, rfl, hescaped, hentities, hidentifiers⟩
    have hoptions : inv.options = optionsOf front := eq_optionsOf_iff.2 ⟨hescaped, hentities⟩
    have hsort := sortArguments_eq_ok_iff.2 ⟨front, trailing, rfl, hoptions, hidentifiers⟩
    exact ⟨_, rfl, hsort, hescape, hids⟩

/-- behind the bare `--` an option is an identifier, and so is another bare `--` -/
example : (Invocation.ofArguments ["escape", "x", "--entities", "--", "--escaped", "--"]).toOption =
    some ⟨.escape, ⟨false, true⟩, ["x", "--escaped", "--"]⟩ := by decide

end IdentifierText.CommandLine
