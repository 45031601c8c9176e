/-
What an identifier that fails leaves behind: nothing of its own.

Arguments are read before anything is written, so one that cannot be read leaves no output at all. A text has all its
spellings or none of them is written, so one that cannot be spelled leaves what the identifiers in front of it have
written, to the byte. There are no other ways for an invocation to fail in a sink that takes everything.

Results:
- `readIdentifier_eq_ok_iff`: what an argument stands for, apart from the errors of reading it;
- `ending_of_unreadable`, `ending_of_unspellable`, `exists_ending_ok`: the three ways in which an invocation can end;
- `first_failure`: they are decided by the first identifier that fails.
-/
import Mathlib.Tactic
import IdentifierText.Proofs.Transcript

namespace IdentifierText.CommandLine

open Report Escape

/-! ## Arguments and their texts -/

/-- the text that an argument stands for: what it reads as if it is given in escaped form, and otherwise itself -/
def StandsFor (escaped : Bool) (argument : String) (text : List UInt16) : Prop :=
  (escaped = true → read .source argument = .ok text) ∧ (escaped = false → Utf16.ofString argument = text)

theorem readIdentifier_eq_ok_iff {escaped : Bool} {argument : String} {text : List UInt16} :
    readIdentifier escaped argument = .ok text ↔ StandsFor escaped argument text := by
  cases escaped with
  | true => simp [readIdentifier, StandsFor, mapError_eq_ok_iff]
  | false => simp [readIdentifier, StandsFor]

theorem readIdentifier_eq_error_iff {escaped : Bool} {argument : String} {failure : Failure} :
    readIdentifier escaped argument = .error failure ↔
      escaped = true ∧ ∃ fault, read .source argument = .error fault ∧ .unreadable argument fault = failure := by
  cases escaped with
  | true => simp [readIdentifier, mapError_eq_error_iff]
  | false => simp [readIdentifier]

theorem StandsFor.unique {escaped : Bool} {argument : String} {text text' : List UInt16}
    (h : StandsFor escaped argument text) (h' : StandsFor escaped argument text') : text = text' := by
  rw [← readIdentifier_eq_ok_iff] at h h'
  exact Except.ok.inj (h.symm.trans h')

namespace Invocation

/-- arguments in escaped form can be read, each of them -/
def Readable (inv : Invocation) : Prop :=
  inv.options.escaped = true → ∀ argument ∈ inv.identifiers, ∃ text, read .source argument = .ok text

/-- the text of an argument has all the spellings that are asked for -/
def CanSpell (inv : Invocation) (argument : String) : Prop :=
  ∃ text list, StandsFor inv.options.escaped argument text ∧ spellings text inv.options.entities = .ok list

theorem Readable.exists_texts {inv : Invocation} (h : inv.Readable) :
    ∃ texts, inv.identifiers.mapM (readIdentifier inv.options.escaped) = .ok texts := by
  rw [exists_mapM_eq_ok_iff]
  intro argument hargument
  cases hescaped : inv.options.escaped with
  | true =>
    obtain ⟨text, htext⟩ := h hescaped argument hargument
    exact ⟨text, readIdentifier_eq_ok_iff.2 ⟨fun _ => htext, Bool.noConfusion⟩⟩
  | false => exact ⟨Utf16.ofString argument, readIdentifier_eq_ok_iff.2 ⟨Bool.noConfusion, fun _ => rfl⟩⟩

/-- what can be said of the spellings of arguments can be said of the texts they stand for -/
theorem exists_spellings_of_canSpell {inv : Invocation} {arguments : List String} {texts : List (List UInt16)}
    (htexts : arguments.mapM (readIdentifier inv.options.escaped) = .ok texts)
    (h : ∀ argument ∈ arguments, inv.CanSpell argument) :
    ∀ text ∈ texts, ∃ list, spellings text inv.options.entities = .ok list := by
  intro text htext
  obtain ⟨argument, hargument, hread⟩ := exists_of_mem_mapM htexts text htext
  obtain ⟨text', list, htext', hlist⟩ := h argument hargument
  have hunique : text' = text := htext'.unique (readIdentifier_eq_ok_iff.1 hread)
  rw [← hunique]
  exact ⟨list, hlist⟩

end Invocation

/-! ## Ends of invocations -/

namespace Report

theorem ending_of_unreadable {inv : Invocation} {before after : List String} {argument : String} {fault : ReadFault}
    (hescaped : inv.options.escaped = true) (hsplit : inv.identifiers = before ++ argument :: after)
    (hbefore : ∀ other ∈ before, ∃ text, read .source other = .ok text)
    (hfault : read .source argument = .error fault) :
    (ofInvocation inv).ending none = (.error (.unreadable argument fault), .empty) := by
  have hread : inv.identifiers.mapM (readIdentifier inv.options.escaped) = .error (.unreadable argument fault) := by
    rw [hescaped, mapM_eq_error_iff]
    refine ⟨before, argument, after, hsplit, ?_, readIdentifier_eq_error_iff.2 ⟨rfl, fault, hfault, rfl⟩⟩
    intro other hother
    obtain ⟨text, htext⟩ := hbefore other hother
    exact ⟨text, readIdentifier_eq_ok_iff.2 ⟨fun _ => htext, Bool.noConfusion⟩⟩
  exact ending_none (writes_ofInvocation_of_unreadable hread)

/-- the report breaks off where the report on the identifiers in front ends -/
theorem ending_of_unspellable {inv : Invocation} {before after : List String} {argument : String} {text : List UInt16}
    {fault : WriteFault} (hreadable : inv.Readable) (hcommand : inv.command = .escape)
    (hsplit : inv.identifiers = before ++ argument :: after) (hbefore : ∀ other ∈ before, inv.CanSpell other)
    (htext : StandsFor inv.options.escaped argument text)
    (hfault : spellings text inv.options.entities = .error fault) :
    ∃ bytes, (ofInvocation inv).ending none = (.error (.unwritable fault), bytes) ∧
      (ofInvocation { inv with identifiers := before }).ending none = (.ok .success, bytes) := by
  obtain ⟨texts, htexts⟩ := hreadable.exists_texts
  -- the texts come apart where the arguments do
  have hparts := htexts
  simp only [hsplit, List.mapM_append, List.mapM_cons, bind_eq_ok_iff, pure_eq_ok_iff] at hparts
  obtain ⟨textsBefore, hfront, _, ⟨text', htext', textsAfter, -, rfl⟩, rfl⟩ := hparts
  obtain rfl : text = text' := htext.unique (readIdentifier_eq_ok_iff.1 htext')
  have hspell := Invocation.exists_spellings_of_canSpell hfront hbefore
  have hwhole : Writes (ofInvocation inv) _ _ := writes_ofInvocation htexts (by
    rw [hcommand]
    exact writes_escape_of_fault hspell hfault)
  have hcut : Writes (ofInvocation { inv with identifiers := before }) _ _ := writes_ofInvocation hfront (by
    rw [hcommand]
    exact writes_escape hspell)
  exact ⟨_, ending_none hwhole, ending_none hcut⟩

theorem exists_writes_ofCommand_ok {command : Command} {entities : Bool} {texts : List (List UInt16)}
    (h : command = .escape → ∀ text ∈ texts, ∃ list, spellings text entities = .ok list) :
    ∃ text status, Writes (ofCommand command entities texts) text (.ok status) := by
  cases command with
  | check => exact ⟨_, _, writes_check texts⟩
  | classify => exact ⟨_, _, writes_classify texts⟩
  | strip => exact ⟨_, _, writes_strip texts⟩
  | escape => exact ⟨_, _, writes_escape (h rfl)⟩

theorem exists_ending_ok {inv : Invocation} (hreadable : inv.Readable)
    (hspell : inv.command = .escape → ∀ argument ∈ inv.identifiers, inv.CanSpell argument) :
    ∃ status bytes, (ofInvocation inv).ending none = (.ok status, bytes) := by
  obtain ⟨texts, htexts⟩ := hreadable.exists_texts
  obtain ⟨text, status, h⟩ := exists_writes_ofCommand_ok fun hcommand =>
    Invocation.exists_spellings_of_canSpell htexts (hspell hcommand)
  exact ⟨status, _, ending_none (writes_ofInvocation htexts h)⟩

/-- **A failing identifier leaves no partial output.** The first argument that cannot be read is the failure, and
nothing is written, whatever the command. If all can be read, the first text without spellings is the failure of
`escape`, and what is written is the report on the identifiers in front of it. Otherwise the command comes to its end. -/
theorem first_failure (inv : Invocation) :
    (∀ before argument after fault, inv.options.escaped = true → inv.identifiers = before ++ argument :: after →
      (∀ other ∈ before, ∃ text, read .source other = .ok text) → read .source argument = .error fault →
      (ofInvocation inv).ending none = (.error (.unreadable argument fault), .empty)) ∧
    (inv.Readable →
      (∀ before argument after text fault, inv.command = .escape → inv.identifiers = before ++ argument :: after →
        (∀ other ∈ before, inv.CanSpell other) → StandsFor inv.options.escaped argument text →
        spellings text inv.options.entities = .error fault →
        ∃ bytes, (ofInvocation inv).ending none = (.error (.unwritable fault), bytes) ∧
          (ofInvocation { inv with identifiers := before }).ending none = (.ok .success, bytes)) ∧
      ((inv.command = .escape → ∀ argument ∈ inv.identifiers, inv.CanSpell argument) →
        ∃ status bytes, (ofInvocation inv).ending none = (.ok status, bytes))) := by
  refine ⟨?_, fun hreadable => ⟨?_, ?_⟩⟩
  · intro before argument after fault hescaped hsplit hbefore hfault
    exact ending_of_unreadable hescaped hsplit hbefore hfault
  · intro before argument after text fault hcommand hsplit hbefore htext hfault
    exact ending_of_unspellable hreadable hcommand hsplit hbefore htext hfault
  · intro hspell
    exact exists_ending_ok hreadable hspell

/-- failures in the second place, a backslash that would be copied and an escape that breaks off, and no failure -/
theorem first_failure_second_identifier :
    (∃ bytes, (ofInvocation ⟨.escape, {}, ["a", "b\\", "\\\\"]⟩).ending none =
        (.error (.unwritable (.introducer 1 '\\')), bytes) ∧
      (ofInvocation ⟨.escape, {}, ["a"]⟩).ending none = (.ok .success, bytes)) ∧
    (ofInvocation ⟨.classify, { escaped := true }, ["a", "\\u12", "\\u"]⟩).ending none =
      (.error (.unreadable "\\u12" ⟨0, .truncated⟩), .empty) ∧
    ∃ status bytes, (ofInvocation ⟨.strip, { escaped := true }, ["a"]⟩).ending none = (.ok status, bytes) := by
  have hspelled : ∃ list, spellings (Utf16.ofString "a") false = .ok list := ⟨_, rfl⟩
  have hfault : spellings (Utf16.ofString "b\\") false = .error (.introducer 1 '\\') := rfl
  have hread : read .source "a" = .ok [0x61] := by cbv
  have htruncated : read .source "\\u12" = .error ⟨0, .truncated⟩ := by cbv
  refine ⟨?_, ?_, ?_⟩
  · refine ((first_failure ⟨.escape, {}, ["a", "b\\", "\\\\"]⟩).2 Bool.noConfusion).1 ["a"] "b\\" ["\\\\"]
      (Utf16.ofString "b\\") _ rfl rfl ?_ ⟨Bool.noConfusion, fun _ => rfl⟩ hfault
    intro other hother
    obtain rfl := List.mem_singleton.1 hother
    obtain ⟨list, hlist⟩ := hspelled
    exact ⟨_, list, ⟨Bool.noConfusion, fun _ => rfl⟩, hlist⟩
  · refine (first_failure ⟨.classify, { escaped := true }, ["a", "\\u12", "\\u"]⟩).1 ["a"] "\\u12" ["\\u"] _ rfl rfl ?_
      htruncated
    intro other hother
    obtain rfl := List.mem_singleton.1 hother
    exact ⟨_, hread⟩
  · refine ((first_failure ⟨.strip, { escaped := true }, ["a"]⟩).2 ?_).2 Command.noConfusion
    intro _ argument hargument
    obtain rfl := List.mem_singleton.1 hargument
    exact ⟨_, hread⟩

end Report

end IdentifierText.CommandLine
