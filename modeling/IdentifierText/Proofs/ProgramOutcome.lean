/-
What the program comes to on a command line.

A run takes one of six courses (`Course`): help, a command line that is refused, a command whose identifiers are all
accepted, a check that fails, an argument that cannot be read, a text that cannot be spelled. Which one it is depends on
the command line alone. Exit code and standard error are read off the course.

Results:
- `ending_of_accepted`, `ending_of_not_accepted`: an invocation succeeds exactly when its arguments can be read and its
  command accepts their texts;
- `course_program`: every run takes one of the six courses;
- `program_by_conditions`: exit code, and what is on the standard streams, by conditions on the command line.
-/
import IdentifierText.CommandLine.Program
import IdentifierText.Proofs.FailingIdentifier
import IdentifierText.Proofs.Messages
import IdentifierText.Proofs.Spellable

namespace IdentifierText.CommandLine

open Report Escape

/-! ## Invocations that succeed -/

/-- what a command asks of a text: `check` that it is an identifier, `escape` that it has all its spellings -/
structure Command.Accepts (command : Command) (entities : Bool) (text : List UInt16) : Prop where
  valid : command = .check → isIdentifier text = true
  spellable : command = .escape → Spellable entities text

/-- the arguments can be read, and the command accepts the texts that they stand for -/
structure Invocation.Accepted (inv : Invocation) : Prop where
  readable : inv.Readable
  accepts : ∀ argument ∈ inv.identifiers, ∀ text, StandsFor inv.options.escaped argument text →
    inv.command.Accepts inv.options.entities text

theorem Invocation.accepted_iff_of_texts {inv : Invocation} {texts : List (List UInt16)}
    (htexts : inv.identifiers.mapM (readIdentifier inv.options.escaped) = .ok texts) :
    inv.Accepted ↔ ∀ text ∈ texts, inv.command.Accepts inv.options.entities text := by
  constructor
  · intro h text htext
    obtain ⟨argument, hargument, hread⟩ := exists_of_mem_mapM htexts text htext
    exact h.accepts argument hargument text (readIdentifier_eq_ok_iff.1 hread)
  · intro h
    have hresult := exists_mem_of_mapM htexts
    constructor
    · intro hescaped argument hargument
      obtain ⟨text, -, hread⟩ := hresult argument hargument
      exact ⟨text, (readIdentifier_eq_ok_iff.1 hread).1 hescaped⟩
    · intro argument hargument text hstands
      obtain ⟨text', htext', hread⟩ := hresult argument hargument
      have hunique : text' = text := (readIdentifier_eq_ok_iff.1 hread).unique hstands
      exact h text (hunique ▸ htext')

/-- a check of arguments that are given as they are -/
theorem Invocation.accepted_check_iff {arguments : List String} :
    (⟨.check, {}, arguments⟩ : Invocation).Accepted ↔
      ∀ argument ∈ arguments, isIdentifier (Utf16.ofString argument) = true := by
  constructor
  · intro h argument hargument
    exact (h.accepts argument hargument _ ⟨Bool.noConfusion, fun _ => rfl⟩).valid rfl
  · intro h
    refine ⟨Bool.noConfusion, fun argument hargument text hstands => ⟨fun _ => ?_, Command.noConfusion⟩⟩
    rw [← hstands.2 rfl]
    exact h argument hargument

namespace Report

theorem exists_writes_success {command : Command} {entities : Bool} {texts : List (List UInt16)}
    (h : ∀ text ∈ texts, command.Accepts entities text) :
    ∃ text, Writes (ofCommand command entities texts) text (.ok .success) := by
  cases command with
  | check =>
    have hall : texts.all isIdentifier = true := List.all_eq_true.2 fun text htext => (h text htext).valid rfl
    have hwrites := writes_check texts
    rw [if_pos hall] at hwrites
    exact ⟨_, hwrites⟩
  | classify => exact ⟨_, writes_classify texts⟩
  | strip => exact ⟨_, writes_strip texts⟩
  | escape => exact ⟨_, writes_escape fun text htext => exists_spellings_iff.2 ((h text htext).spellable rfl)⟩

theorem exists_writes_of_not_accepts {command : Command} {entities : Bool} {texts : List (List UInt16)}
    (h : ¬∀ text ∈ texts, command.Accepts entities text) :
    ∃ text, Writes (ofCommand command entities texts) text (.ok .failure) ∨
      ∃ fault, Writes (ofCommand command entities texts) text (.error (.unwritable fault)) := by
  cases command with
  | check =>
    have hall : ¬texts.all isIdentifier = true := by
      rw [List.all_eq_true]
      intro hall
      exact h fun text htext => ⟨fun _ => hall text htext, Command.noConfusion⟩
    have hwrites := writes_check texts
    rw [if_neg hall] at hwrites
    exact ⟨_, Or.inl hwrites⟩
  | classify => exact absurd (fun _ _ => ⟨Command.noConfusion, Command.noConfusion⟩) h
  | strip => exact absurd (fun _ _ => ⟨Command.noConfusion, Command.noConfusion⟩) h
  | escape =>
    have hall : ¬∀ text ∈ texts, ∃ list, spellings text entities = .ok list := by
      intro hall
      exact h fun text htext => ⟨Command.noConfusion, fun _ => exists_spellings_iff.1 (hall text htext)⟩
    obtain ⟨text, fault, hwrites⟩ := exists_writes_escape_error hall
    exact ⟨text, Or.inr ⟨fault, hwrites⟩⟩

theorem ending_of_accepted {inv : Invocation} (h : inv.Accepted) :
    ∃ bytes, (ofInvocation inv).ending none = (.ok .success, bytes) := by
  obtain ⟨texts, htexts⟩ := h.readable.exists_texts
  obtain ⟨text, hwrites⟩ := exists_writes_success ((Invocation.accepted_iff_of_texts htexts).1 h)
  exact ⟨_, ending_none (writes_ofInvocation htexts hwrites)⟩

theorem ending_of_not_accepted {inv : Invocation} (h : ¬inv.Accepted) :
    (∃ bytes, (ofInvocation inv).ending none = (.ok .failure, bytes)) ∨
    (∃ argument fault, (ofInvocation inv).ending none = (.error (.unreadable argument fault), .empty)) ∨
    ∃ fault bytes, (ofInvocation inv).ending none = (.error (.unwritable fault), bytes) := by
  cases hread : inv.identifiers.mapM (readIdentifier inv.options.escaped) with
  | error failure =>
    obtain ⟨_, argument, _, -, -, hargument⟩ := mapM_eq_error_iff.1 hread
    obtain ⟨-, fault, -, rfl⟩ := readIdentifier_eq_error_iff.1 hargument
    exact Or.inr (Or.inl ⟨argument, fault, ending_none (writes_ofInvocation_of_unreadable hread)⟩)
  | ok texts =>
    rw [Invocation.accepted_iff_of_texts hread] at h
    obtain ⟨text, hwrites | ⟨fault, hwrites⟩⟩ := exists_writes_of_not_accepts h
    · exact Or.inl ⟨_, ending_none (writes_ofInvocation hread hwrites)⟩
    · exact Or.inr (Or.inr ⟨fault, _, ending_none (writes_ofInvocation hread hwrites)⟩)

end Report

/-! ## Courses of the program -/

/-- no arguments, or a word for help as the first one -/
def AsksForHelp (args : List String) : Prop :=
  args.head? ∈ [none, some "help", some "--help", some "-h"]

theorem asksForHelp_iff {args : List String} : asksForHelp args = true ↔ AsksForHelp args := by
  cases args <;> simp [asksForHelp, AsksForHelp, or_assoc]

/-- how a run can go, and its outcome -/
inductive Course (args : List String) : Outcome → Prop
  | help (hhelp : AsksForHelp args) : Course args ⟨0, .empty, usage⟩
  | usageError {e : UsageError} (hhelp : ¬AsksForHelp args) (hparse : Invocation.ofArguments args = .error e) :
    Course args ⟨1, .empty, s!"error: {e.message}\n\n{usage}"⟩
  | success {inv : Invocation} {bytes : ByteArray} (hhelp : ¬AsksForHelp args)
    (hparse : Invocation.ofArguments args = .ok inv) (haccepted : inv.Accepted)
    (hending : (ofInvocation inv).ending none = (.ok .success, bytes)) : Course args ⟨0, bytes, ""⟩
  | rejected {inv : Invocation} {bytes : ByteArray} (hhelp : ¬AsksForHelp args)
    (hparse : Invocation.ofArguments args = .ok inv) (haccepted : ¬inv.Accepted)
    (hending : (ofInvocation inv).ending none = (.ok .failure, bytes)) : Course args ⟨1, bytes, ""⟩
  | unreadable {inv : Invocation} {argument : String} {fault : ReadFault} (hhelp : ¬AsksForHelp args)
    (hparse : Invocation.ofArguments args = .ok inv) (haccepted : ¬inv.Accepted)
    (hending : (ofInvocation inv).ending none = (.error (.unreadable argument fault), .empty)) :
    Course args ⟨1, .empty, s!"error: {(Failure.unreadable argument fault).message}\n"⟩
  | unwritable {inv : Invocation} {fault : WriteFault} {bytes : ByteArray} (hhelp : ¬AsksForHelp args)
    (hparse : Invocation.ofArguments args = .ok inv) (haccepted : ¬inv.Accepted)
    (hending : (ofInvocation inv).ending none = (.error (.unwritable fault), bytes)) :
    Course args ⟨1, bytes, s!"error: {(Failure.unwritable fault).message}\n"⟩

theorem program_of_ending {args : List String} {inv : Invocation} (hhelp : ¬AsksForHelp args)
    (hparse : Invocation.ofArguments args = .ok inv) :
    program args =
      match (ofInvocation inv).ending none with
      | (.ok status, bytes) => ⟨status.exitCode, bytes, ""⟩
      | (.error failure, bytes) => ⟨1, bytes, s!"error: {failure.message}\n"⟩ := by
  rw [program, if_neg (mt asksForHelp_iff.1 hhelp), hparse]
  rcases hrun : (ofInvocation inv).run {} with ⟨failure | status, sink⟩ <;> simp only [Output.ending, hrun]

theorem course_program (args : List String) : Course args (program args) := by
  by_cases hhelp : AsksForHelp args
  · rw [program, if_pos (asksForHelp_iff.2 hhelp)]
    exact .help hhelp
  · cases hparse : Invocation.ofArguments args with
    | error e =>
      rw [program, if_neg (mt asksForHelp_iff.1 hhelp), hparse]
      exact .usageError hhelp hparse
    | ok inv =>
      rw [program_of_ending hhelp hparse]
      by_cases haccepted : inv.Accepted
      · obtain ⟨bytes, hending⟩ := ending_of_accepted haccepted
        rw [hending]
        exact .success hhelp hparse haccepted hending
      · rcases ending_of_not_accepted haccepted with
          ⟨bytes, hending⟩ | ⟨argument, fault, hending⟩ | ⟨fault, bytes, hending⟩
        · rw [hending]
          exact .rejected hhelp hparse haccepted hending
        · rw [hending]
          exact .unreadable hhelp hparse haccepted hending
        · rw [hending]
          exact .unwritable hhelp hparse haccepted hending

/-! ## Outcomes -/

/-- help is asked for, or the command line describes an invocation that is accepted -/
def ShouldSucceed (args : List String) : Prop :=
  AsksForHelp args ∨ ∃ inv, Invocation.ofArguments args = .ok inv ∧ inv.Accepted

/-- the command line describes an invocation, and its command comes to an end -/
def Completes (args : List String) : Prop :=
  ∃ inv status bytes, Invocation.ofArguments args = .ok inv ∧ (ofInvocation inv).ending none = (.ok status, bytes)

theorem not_shouldSucceed_of_usageError {args : List String} {e : UsageError} (hhelp : ¬AsksForHelp args)
    (hparse : Invocation.ofArguments args = .error e) : ¬ShouldSucceed args := by
  rintro (h | ⟨inv, hinv, -⟩)
  · exact hhelp h
  · cases hparse.symm.trans hinv

theorem not_shouldSucceed_of_not_accepted {args : List String} {inv : Invocation} (hhelp : ¬AsksForHelp args)
    (hparse : Invocation.ofArguments args = .ok inv) (haccepted : ¬inv.Accepted) : ¬ShouldSucceed args := by
  rintro (h | ⟨inv', hinv', h⟩)
  · exact hhelp h
  · cases hparse.symm.trans hinv'
    exact haccepted h

/-- a check comes to an end if its arguments can be read -/
theorem completes_check {args : List String} {options : Options} {identifiers : List String}
    (hparse : Invocation.ofArguments args = .ok ⟨.check, options, identifiers⟩)
    (hreadable : (⟨.check, options, identifiers⟩ : Invocation).Readable) : Completes args := by
  obtain ⟨texts, htexts⟩ := hreadable.exists_texts
  exact ⟨_, _, _, hparse, ending_none (writes_ofInvocation htexts (writes_check texts))⟩

theorem not_completes_of_failure {args : List String} {inv : Invocation} {failure : Failure} {bytes : ByteArray}
    (hparse : Invocation.ofArguments args = .ok inv)
    (hending : (ofInvocation inv).ending none = (.error failure, bytes)) :
    ¬Completes args := by
  rintro ⟨inv', status, bytes', hinv', h⟩
  cases hparse.symm.trans hinv'
  cases hending.symm.trans h

/-- every line brings its line feed in -/
theorem length_le_count_newline (lines : List String) :
    lines.length ≤ (String.join (lines.map (· ++ "\n"))).toList.count '\n' := by
  induction lines with
  | nil => exact Nat.zero_le _
  | cons line lines ih =>
    have hline : 1 ≤ (line ++ "\n").toList.count '\n' := by
      rw [String.toList_append, List.count_append]
      exact Nat.le_add_left 1 _
    rw [List.map_cons, String.join_cons, String.toList_append, List.count_append, List.length_cons]
    omega

theorem several_newlines_usage : 2 ≤ usage.toList.count '\n' :=
  Nat.le_trans (by decide) (length_le_count_newline usageLines)

theorem usage_ne_empty : usage ≠ "" := by
  intro h
  have hcount := several_newlines_usage
  rw [h] at hcount
  exact absurd hcount (by decide)

/-- the usage is not part of a single line, because it has several -/
theorem not_usage_isInfix {text : String} (h : OneLine text) : ¬usage.toList <:+: (text ++ "\n").toList := by
  intro hpart
  have hcount := Nat.le_trans several_newlines_usage (hpart.sublist.count_le '\n')
  rw [String.toList_append, List.count_append, List.count_eq_zero.2 h] at hcount
  exact absurd hcount (by decide)

theorem append_ne_empty_of_right {a b : String} (hb : b ≠ "") : a ++ b ≠ "" :=
  fun h => hb (String.append_eq_empty_iff.1 h).2

namespace Course

variable {args : List String} {outcome : Outcome}

theorem exitCode_cases (h : Course args outcome) :
    (ShouldSucceed args ∧ outcome.exitCode = 0) ∨ (¬ShouldSucceed args ∧ outcome.exitCode = 1) := by
  cases h with
  | help hhelp => exact Or.inl ⟨Or.inl hhelp, rfl⟩
  | usageError hhelp hparse => exact Or.inr ⟨not_shouldSucceed_of_usageError hhelp hparse, rfl⟩
  | success hhelp hparse haccepted hending => exact Or.inl ⟨Or.inr ⟨_, hparse, haccepted⟩, rfl⟩
  | rejected hhelp hparse haccepted hending =>
    exact Or.inr ⟨not_shouldSucceed_of_not_accepted hhelp hparse haccepted, rfl⟩
  | unreadable hhelp hparse haccepted hending =>
    exact Or.inr ⟨not_shouldSucceed_of_not_accepted hhelp hparse haccepted, rfl⟩
  | unwritable hhelp hparse haccepted hending =>
    exact Or.inr ⟨not_shouldSucceed_of_not_accepted hhelp hparse haccepted, rfl⟩

theorem stderr_eq_empty_iff (h : Course args outcome) :
    outcome.stderr = "" ↔ ¬AsksForHelp args ∧ Completes args := by
  cases h with
  | help hhelp => exact iff_of_false usage_ne_empty fun h => h.1 hhelp
  | usageError hhelp hparse =>
    refine iff_of_false (append_ne_empty_of_right usage_ne_empty) ?_
    rintro ⟨-, inv, _, _, hinv, -⟩
    cases hparse.symm.trans hinv
  | success hhelp hparse haccepted hending => exact iff_of_true rfl ⟨hhelp, _, _, _, hparse, hending⟩
  | rejected hhelp hparse haccepted hending => exact iff_of_true rfl ⟨hhelp, _, _, _, hparse, hending⟩
  | unreadable hhelp hparse haccepted hending =>
    exact iff_of_false (append_ne_empty_of_right (by decide)) fun h => not_completes_of_failure hparse hending h.2
  | unwritable hhelp hparse haccepted hending =>
    exact iff_of_false (append_ne_empty_of_right (by decide)) fun h => not_completes_of_failure hparse hending h.2

/-- a message on one line does not hold the usage, and an argument that does is not reported after output -/
theorem stdout_eq_empty_of_usage (h : Course args outcome) (husage : usage.toList <:+: outcome.stderr.toList) :
    outcome.stdout = .empty := by
  cases h with
  | help | usageError | unreadable => rfl
  | success | rejected => exact absurd (String.toList_eq_nil_iff.1 (List.infix_nil.1 husage)) usage_ne_empty
  | @unwritable _ fault =>
    -- the only failure behind output; nothing of the arguments is repeated in it but single characters
    have hline : OneLine ("error: " ++ fault.message) := OneLine.append (by decide) (oneLine_message fault)
    exact absurd husage (not_usage_isInfix hline)

end Course

/-- **What the program comes to.** It exits with 0 exactly when help is asked for, or the command line can be parsed,
identifiers in escaped form can be read, and each identifier is accepted: by `check` if it is valid, by `escape` if its
halves are paired and nothing behind its first code point opens an escape. Otherwise it exits with 1. Nothing is on
standard error exactly when a command came to its end. Where the usage is printed there is no output. -/
theorem program_by_conditions (args : List String) :
    ((program args).exitCode = 0 ↔ ShouldSucceed args) ∧
    ((program args).exitCode = 1 ↔ ¬ShouldSucceed args) ∧
    ((program args).stderr = "" ↔ ¬AsksForHelp args ∧ Completes args) ∧
    (usage.toList <:+: (program args).stderr.toList → (program args).stdout = .empty) := by
  have hcourse := course_program args
  refine ⟨?_, ?_, hcourse.stderr_eq_empty_iff, hcourse.stdout_eq_empty_of_usage⟩
  · rcases hcourse.exitCode_cases with ⟨h, hcode⟩ | ⟨h, hcode⟩
    · exact iff_of_true hcode h
    · exact iff_of_false (by rw [hcode]; decide) h
  · rcases hcourse.exitCode_cases with ⟨h, hcode⟩ | ⟨h, hcode⟩
    · exact iff_of_false (by rw [hcode]; decide) fun hnot => hnot h
    · exact iff_of_true hcode h

/-- an option of another command, where the usage is printed behind the error and there is no output; and a check of an
identifier, and of a text that starts with a digit: neither leaves anything on standard error -/
theorem program_by_conditions_refused_and_checked :
    (usage.toList <:+: (program ["strip", "--entities", "a"]).stderr.toList ∧
      (program ["strip", "--entities", "a"]).stdout = .empty) ∧
    (ShouldSucceed ["check", "a1"] ∧ (program ["check", "a1"]).exitCode = 0 ∧
      Completes ["check", "a1"] ∧ (program ["check", "a1"]).stderr = "") ∧
    (¬ShouldSucceed ["check", "1a"] ∧ (program ["check", "1a"]).exitCode = 1 ∧
      Completes ["check", "1a"] ∧ (program ["check", "1a"]).stderr = "") := by
  have hstderr : (program ["strip", "--entities", "a"]).stderr =
      "error: `--entities` only applies to the `escape` command\n\n" ++ usage := by rfl
  have husage : usage.toList <:+: (program ["strip", "--entities", "a"]).stderr.toList := by
    rw [hstderr, String.toList_append]
    exact (List.suffix_append _ _).isInfix
  have hvalid : isIdentifier (Utf16.ofString "a1") = true ∧ isIdentifier (Utf16.ofString "1a") = false := by
    decide +kernel
  have hhelp : ¬AsksForHelp ["check", "a1"] ∧ ¬AsksForHelp ["check", "1a"] := by simp [AsksForHelp]
  have hshould : ShouldSucceed ["check", "a1"] :=
    Or.inr ⟨_, rfl, Invocation.accepted_check_iff.2 (List.forall_mem_singleton.2 hvalid.1)⟩
  have hshould_not : ¬ShouldSucceed ["check", "1a"] := by
    refine not_shouldSucceed_of_not_accepted hhelp.2 rfl fun haccepted => ?_
    have htrue := Invocation.accepted_check_iff.1 haccepted "1a" (List.mem_singleton.2 rfl)
    rw [hvalid.2] at htrue
    cases htrue
  have hcompletes : Completes ["check", "a1"] := completes_check rfl Bool.noConfusion
  have hcompletes_not : Completes ["check", "1a"] := completes_check rfl Bool.noConfusion
  have hchecked := program_by_conditions ["check", "a1"]
  have hrejected := program_by_conditions ["check", "1a"]
  exact ⟨⟨husage, (program_by_conditions ["strip", "--entities", "a"]).2.2.2 husage⟩,
    ⟨hshould, hchecked.1.2 hshould, hcompletes, hchecked.2.2.1.2 ⟨hhelp.1, hcompletes⟩⟩,
    ⟨hshould_not, hrejected.2.1.2 hshould_not, hcompletes_not, hrejected.2.2.1.2 ⟨hhelp.2, hcompletes_not⟩⟩⟩

end IdentifierText.CommandLine
