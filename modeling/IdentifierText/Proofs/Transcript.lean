/-
What the commands write, and what a full sink makes of it.

No command looks at the sink. What it has to write and how it ends is settled by its arguments (`Writes`), and a sink
can only cut it off. Outputs in a row have their texts in a row (`Writes.bind`), up to the first one that fails
(`Writes.bind_error`), so the text of a command is put together from its lines.

Results:
- `writes_check`, `writes_classify`, `writes_strip`, `writes_escape`: what the commands write when they come to their
  end; `writes_escape_of_fault`: what `escape` has written when a text has no spellings;
- `writes_ofInvocation`, `writes_ofInvocation_of_unreadable`: an invocation is its command on the texts of its
  identifiers, or fails without having written anything;
- `ending_truncated`: a sink with too little room takes what there is room for and makes the command fail; in any other
  it ends as in a sink that takes everything.
-/
import IdentifierText.CommandLine.Report
import IdentifierText.Proofs.Traversal

namespace IdentifierText.CommandLine

/-! ## Sinks -/

namespace Sink

theorem fitting_le (sink : Sink) (bytes : ByteArray) : sink.fitting bytes ≤ bytes.size := by
  unfold fitting
  split
  · exact Nat.le_refl _
  · exact Nat.min_le_left _ _

theorem fitting_append (sink : Sink) (first rest : ByteArray) :
    sink.fitting (first ++ rest) =
      if sink.fitting first = first.size then first.size + (sink.take first).fitting rest else sink.fitting first := by
  cases hcapacity : sink.capacity with
  | none => simp [fitting, take, hcapacity, ByteArray.size_append]
  | some n =>
    simp only [fitting, take, hcapacity, ByteArray.size_append, ByteArray.size_extract]
    split <;> omega

/-- what fits as a whole leaves the room for the rest -/
theorem take_append_of_fits {sink : Sink} {first : ByteArray} (hfits : sink.fitting first = first.size)
    (rest : ByteArray) : sink.take (first ++ rest) = (sink.take first).take rest := by
  have hextract (k : Nat) : (first ++ rest).extract 0 (first.size + k) = first ++ rest.extract 0 k := by
    have hrest : (first ++ rest).extract (first.size + 0) (first.size + k) = rest.extract 0 k :=
      ByteArray.extract_append_size_add
    rw [ByteArray.extract_eq_extract_append_extract first.size (Nat.zero_le _) (Nat.le_add_right _ _),
      ByteArray.extract_append_size_left, ByteArray.extract_zero_size, ← hrest, Nat.add_zero]
  have hfirst : first.extract 0 (sink.fitting first) = first := by rw [hfits, ByteArray.extract_zero_size]
  rw [take, fitting_append, if_pos hfits, hextract, take, take, hfirst, ByteArray.append_assoc]

/-- what does not fit fills the sink -/
theorem take_append_of_not_fits {sink : Sink} {first : ByteArray} (hfits : sink.fitting first ≠ first.size)
    (rest : ByteArray) : sink.take (first ++ rest) = sink.take first := by
  have hlt : sink.fitting first < first.size := Nat.lt_of_le_of_ne (sink.fitting_le first) hfits
  have hrest : rest.extract (0 - first.size) (sink.fitting first - first.size) = .empty := by
    rw [ByteArray.extract_eq_empty_iff]
    omega
  rw [take, fitting_append, if_neg hfits, ByteArray.extract_append, hrest, ByteArray.append_empty, take]

end Sink

/-! ## Transcripts -/

section Transcripts

variable {α β : Type}

/-- what an output writes in full, and how it ends then; a sink with too little room takes what fits and ends it -/
def Writes (action : Output α) (text : String) (result : Except Failure α) : Prop :=
  ∀ sink : Sink, action.run sink =
    (if sink.fitting text.toUTF8 = text.toUTF8.size then result else .error .sinkFull, sink.take text.toUTF8)

theorem run_bind (action : Output α) (next : α → Output β) (sink : Sink) :
    (action >>= next).run sink =
      match action.run sink with
      | (.ok a, sink') => (next a).run sink'
      | (.error failure, sink') => (.error failure, sink') := by
  show (match action.run sink with | (result, sink') => ExceptT.bindCont next result sink') = _
  rcases action.run sink with ⟨failure | a, sink'⟩ <;> rfl

namespace Writes

theorem lift (result : Except Failure α) : Writes (liftM result) "" result := by
  intro sink
  have hfits : sink.fitting "".toUTF8 = "".toUTF8.size := Nat.le_zero.1 (sink.fitting_le _)
  have htake : sink.take "".toUTF8 = sink := by
    rw [Sink.take, hfits]
    exact congrArg (Sink.mk sink.capacity) ByteArray.append_empty
  rw [if_pos hfits, htake]
  rfl

theorem pure (a : α) : Writes (pure a) "" (.ok a) :=
  lift (.ok a)

theorem put (text : String) : Writes (put text) text (.ok ()) :=
  fun _ => rfl

/-- a sink that cuts the first of two outputs off never comes to the second -/
theorem bind {action : Output α} {next : α → Output β} {a : α} {first rest : String} {result : Except Failure β}
    (hfirst : Writes action first (.ok a)) (hrest : Writes (next a) rest result) :
    Writes (action >>= next) (first ++ rest) result := by
  intro sink
  have hbytes : (first ++ rest).toUTF8 = first.toUTF8 ++ rest.toUTF8 := String.toByteArray_append
  rw [run_bind, hfirst sink, hbytes, Sink.fitting_append, ByteArray.size_append]
  by_cases hfits : sink.fitting first.toUTF8 = first.toUTF8.size
  · -- the second output finds the sink as the first one leaves it
    rw [if_pos hfits, if_pos hfits, Sink.take_append_of_fits hfits]
    simp only [Nat.add_left_cancel_iff]
    exact hrest _
  · -- the room ends within the first output
    have hlt := Nat.lt_of_le_of_ne (sink.fitting_le first.toUTF8) hfits
    rw [if_neg hfits, if_neg hfits, if_neg (by omega), Sink.take_append_of_not_fits hfits]

theorem return_after {action : Output α} {a : α} {text : String} (h : Writes action text (.ok a)) (b : β) :
    Writes (action >>= fun _ => Pure.pure b) text (.ok b) := by
  have hbind : Writes (action >>= fun _ => Pure.pure b) (text ++ "") (.ok b) := h.bind (pure b)
  rwa [String.append_empty] at hbind

/-- what would come after a failure is not written -/
theorem bind_error {action : Output α} (next : α → Output β) {text : String} {failure : Failure}
    (h : Writes action text (.error failure)) : Writes (action >>= next) text (.error failure) := by
  intro sink
  rw [run_bind, h sink]
  split_ifs <;> rfl

theorem forM {f : α → Output Unit} {line : α → String} {xs : List α} (h : ∀ x ∈ xs, Writes (f x) (line x) (.ok ())) :
    Writes (xs.forM f) (String.join (xs.map line)) (.ok ()) := by
  induction xs with
  | nil => exact pure ()
  | cons x xs ih =>
    obtain ⟨hx, hxs⟩ := List.forall_mem_cons.1 h
    rw [List.map_cons, String.join_cons]
    exact hx.bind (ih hxs)

/-- the lines in front of the first failure are written -/
theorem forM_error {f : α → Output Unit} {line : α → String} {before : List α} {x : α} {text : String}
    {failure : Failure} (hbefore : ∀ y ∈ before, Writes (f y) (line y) (.ok ()))
    (hx : Writes (f x) text (.error failure)) (after : List α) :
    Writes ((before ++ x :: after).forM f) (String.join (before.map line) ++ text) (.error failure) := by
  induction before with
  | nil =>
    rw [List.map_nil, String.join_nil, String.empty_append]
    exact hx.bind_error _
  | cons y before ih =>
    obtain ⟨hy, hbefore⟩ := List.forall_mem_cons.1 hbefore
    rw [List.map_cons, String.join_cons, String.append_assoc]
    exact hy.bind (ih hbefore)

end Writes

end Transcripts

/-! ## Commands -/

namespace Report

open Utf16 Escape

theorem writes_check (texts : List (List UInt16)) :
    Writes (check texts) (.join (texts.map checkLine)) (.ok (if texts.all isIdentifier then .success else .failure)) :=
  (Writes.forM fun text _ => Writes.put (checkLine text)).return_after _

/-- what `classify` has to say about a text -/
def classifyBlock (text : List UInt16) : String :=
  classifyHeading text ++ .join ((indexed text).map classifyLine)

theorem writes_classify (texts : List (List UInt16)) :
    Writes (classify texts) (.join (texts.map classifyBlock)) (.ok .success) := by
  have hblock (text : List UInt16) : Writes
      (do put (classifyHeading text); (indexed text).forM fun placed => put (classifyLine placed))
      (classifyBlock text) (.ok ()) :=
    (Writes.put _).bind (Writes.forM fun placed _ => Writes.put (classifyLine placed))
  exact (Writes.forM fun text _ => hblock text).return_after _

theorem writes_strip (texts : List (List UInt16)) :
    Writes (strip texts) (.join (texts.map stripLine)) (.ok .success) :=
  (Writes.forM fun text _ => Writes.put (stripLine text)).return_after _

/-- what `escape` does about the text at an index -/
def escapeText (entities : Bool) : List UInt16 × Nat → Output Unit := fun (text, index) => do
  let spellings ← (spellings text entities).mapError Failure.unwritable
  if 0 < index then put "\n"
  spellings.forM fun s => put (escapeLine s)

theorem escape_eq (entities : Bool) (texts : List (List UInt16)) :
    escape entities texts = do
      texts.zipIdx.forM (escapeText entities)
      return .success :=
  rfl

/-- what `escape` has to say about the text at an index: nothing at all if it has no spellings -/
def escapeBlock (entities : Bool) : List UInt16 × Nat → String := fun (text, index) =>
  match spellings text entities with
  | .ok list => (if 0 < index then "\n" else "") ++ .join (list.map escapeLine)
  | .error _ => ""

theorem writes_escapeText {entities : Bool} {text : List UInt16} {list : List Spelling}
    (h : spellings text entities = .ok list) (index : Nat) :
    Writes (escapeText entities (text, index)) (escapeBlock entities (text, index)) (.ok ()) := by
  have hspellings : Writes (liftM ((spellings text entities).mapError Failure.unwritable)) "" (.ok list) := by
    rw [h]
    exact Writes.lift (.ok list)
  have hlines : Writes (list.forM fun s => put (escapeLine s)) (.join (list.map escapeLine)) (.ok ()) :=
    Writes.forM fun s _ => Writes.put (escapeLine s)
  have hblock : escapeBlock entities (text, index) =
      "" ++ ((if 0 < index then "\n" else "") ++ .join (list.map escapeLine)) := by
    simp only [escapeBlock, h, String.empty_append]
  rw [hblock]
  -- all spellings are there before the first byte is written
  refine hspellings.bind ?_
  split_ifs
  · exact (Writes.put "\n").bind hlines
  · rwa [String.empty_append]

theorem writes_escapeText_of_fault {entities : Bool} {text : List UInt16} {fault : WriteFault}
    (h : spellings text entities = .error fault) (index : Nat) :
    Writes (escapeText entities (text, index)) "" (.error (.unwritable fault)) := by
  have hspellings : Writes (liftM ((spellings text entities).mapError Failure.unwritable)) ""
      (.error (.unwritable fault)) := by
    rw [h]
    exact Writes.lift (.error (.unwritable fault))
  exact hspellings.bind_error _

theorem writes_escapeText_of_mem_zipIdx {entities : Bool} {texts : List (List UInt16)}
    (h : ∀ text ∈ texts, ∃ list, spellings text entities = .ok list) :
    ∀ placed ∈ texts.zipIdx, Writes (escapeText entities placed) (escapeBlock entities placed) (.ok ()) := by
  rintro ⟨text, index⟩ hmem
  obtain ⟨list, hlist⟩ := h text (List.fst_mem_of_mem_zipIdx hmem)
  exact writes_escapeText hlist index

theorem writes_escape {entities : Bool} {texts : List (List UInt16)}
    (h : ∀ text ∈ texts, ∃ list, spellings text entities = .ok list) :
    Writes (escape entities texts) (.join (texts.zipIdx.map (escapeBlock entities))) (.ok .success) := by
  rw [escape_eq]
  exact (Writes.forM (writes_escapeText_of_mem_zipIdx h)).return_after _

/-- a text without spellings ends the report, after all that belongs to the texts in front of it -/
theorem writes_escape_of_fault {entities : Bool} {before after : List (List UInt16)} {text : List UInt16}
    {fault : WriteFault} (hbefore : ∀ text ∈ before, ∃ list, spellings text entities = .ok list)
    (h : spellings text entities = .error fault) :
    Writes (escape entities (before ++ text :: after)) (.join (before.zipIdx.map (escapeBlock entities)))
      (.error (.unwritable fault)) := by
  have hblocks := Writes.forM_error (writes_escapeText_of_mem_zipIdx hbefore)
    (writes_escapeText_of_fault h (0 + before.length)) (after.zipIdx (0 + before.length + 1))
  rw [String.append_empty] at hblocks
  rw [escape_eq, List.zipIdx_append, List.zipIdx_cons]
  exact hblocks.bind_error _

theorem exists_writes_escape_error {entities : Bool} {texts : List (List UInt16)}
    (h : ¬∀ text ∈ texts, ∃ list, spellings text entities = .ok list) :
    ∃ text fault, Writes (escape entities texts) text (.error (.unwritable fault)) := by
  cases hspellings : texts.mapM (spellings · entities) with
  | ok lists => exact absurd (exists_mapM_eq_ok_iff.1 ⟨lists, hspellings⟩) h
  | error fault =>
    obtain ⟨before, text, after, rfl, hbefore, hfault⟩ := mapM_eq_error_iff.1 hspellings
    exact ⟨_, fault, writes_escape_of_fault hbefore hfault⟩

/-! ## Invocations -/

theorem writes_ofInvocation {inv : Invocation} {texts : List (List UInt16)} {text : String}
    {result : Except Failure Status} (hread : inv.identifiers.mapM (readIdentifier inv.options.escaped) = .ok texts)
    (h : Writes (ofCommand inv.command inv.options.entities texts) text result) :
    Writes (ofInvocation inv) text result := by
  rw [ofInvocation, hread]
  exact h

/-- all arguments are read before anything is written -/
theorem writes_ofInvocation_of_unreadable {inv : Invocation} {failure : Failure}
    (hread : inv.identifiers.mapM (readIdentifier inv.options.escaped) = .error failure) :
    Writes (ofInvocation inv) "" (.error failure) := by
  rw [ofInvocation, hread]
  exact (Writes.lift (.error failure)).bind_error _

/-- whatever it is given, a command has a transcript -/
theorem exists_writes_ofCommand (command : Command) (entities : Bool) (texts : List (List UInt16)) :
    ∃ text result, Writes (ofCommand command entities texts) text result := by
  cases command with
  | check => exact ⟨_, _, writes_check texts⟩
  | classify => exact ⟨_, _, writes_classify texts⟩
  | strip => exact ⟨_, _, writes_strip texts⟩
  | escape =>
    by_cases h : ∀ text ∈ texts, ∃ list, spellings text entities = .ok list
    · exact ⟨_, _, writes_escape h⟩
    · obtain ⟨text, fault, hwrites⟩ := exists_writes_escape_error h
      exact ⟨text, _, hwrites⟩

theorem exists_writes_ofInvocation (inv : Invocation) : ∃ text result, Writes (ofInvocation inv) text result := by
  cases hread : inv.identifiers.mapM (readIdentifier inv.options.escaped) with
  | error failure => exact ⟨_, _, writes_ofInvocation_of_unreadable hread⟩
  | ok texts =>
    obtain ⟨text, result, h⟩ := exists_writes_ofCommand inv.command inv.options.entities texts
    exact ⟨text, result, writes_ofInvocation hread h⟩

end Report

/-! ## Sinks with too little room -/

section Endings

variable {α : Type}

/-- how an output ends in an empty sink, and what it has written by then -/
def Output.ending (action : Output α) (capacity : Option Nat) : Except Failure α × ByteArray :=
  let (result, sink) := action.run { capacity }
  (result, sink.written)

/-- the ending in a sink for `n` bytes, from the ending in a sink that takes everything -/
def cutAt (n : Nat) : Except Failure α × ByteArray → Except Failure α × ByteArray
  | (result, full) => if full.size ≤ n then (result, full) else (.error .sinkFull, full.extract 0 n)

theorem ending_none {action : Output α} {text : String} {result : Except Failure α} (h : Writes action text result) :
    action.ending none = (result, text.toUTF8) := by
  have hfits : Sink.fitting {} text.toUTF8 = text.toUTF8.size := rfl
  rw [Output.ending, h, if_pos hfits, Sink.take, hfits, ByteArray.extract_zero_size, ByteArray.empty_append]

theorem ending_some {action : Output α} {text : String} {result : Except Failure α} (h : Writes action text result)
    (n : Nat) : action.ending (some n) = cutAt n (result, text.toUTF8) := by
  have hfitting : Sink.fitting { capacity := some n } text.toUTF8 = min text.toUTF8.size n := rfl
  rw [Output.ending, h, Sink.take, hfitting, ByteArray.empty_append, cutAt]
  by_cases hroom : text.toUTF8.size ≤ n
  · rw [Nat.min_eq_left hroom, if_pos rfl, if_pos hroom, ByteArray.extract_zero_size]
  · rw [Nat.min_eq_right (Nat.le_of_not_le hroom), if_neg (by omega), if_neg hroom]

/-- a sink with too little room cuts the output off, whatever would have come after -/
theorem ending_eq_cutAt {action : Output α} {text : String} {result : Except Failure α} (h : Writes action text result)
    (n : Nat) : action.ending (some n) = cutAt n (action.ending none) := by
  rw [ending_none h, ending_some h]

end Endings

/-- **Sinks with too little room only cut the output off.** For every invocation, and for every command on any texts: in
a sink for `n` bytes it ends as in a sink that takes everything if all it has to write fits. Otherwise it fails for the
full sink after the first `n` of these bytes, even where it would have failed for another reason later. -/
theorem ending_truncated :
    (∀ inv n, (Report.ofInvocation inv).ending (some n) = cutAt n ((Report.ofInvocation inv).ending none)) ∧
    ∀ texts n,
      (Report.check texts).ending (some n) = cutAt n ((Report.check texts).ending none) ∧
      (Report.classify texts).ending (some n) = cutAt n ((Report.classify texts).ending none) ∧
      (Report.strip texts).ending (some n) = cutAt n ((Report.strip texts).ending none) ∧
      ∀ entities,
        (Report.escape entities texts).ending (some n) = cutAt n ((Report.escape entities texts).ending none) := by
  have hcommand (command : Command) (entities : Bool) (texts : List (List UInt16)) (n : Nat) :
      (Report.ofCommand command entities texts).ending (some n) =
        cutAt n ((Report.ofCommand command entities texts).ending none) := by
    obtain ⟨_, _, h⟩ := Report.exists_writes_ofCommand command entities texts
    exact ending_eq_cutAt h n
  constructor
  · intro inv n
    obtain ⟨_, _, h⟩ := Report.exists_writes_ofInvocation inv
    exact ending_eq_cutAt h n
  · intro texts n
    refine ⟨?_, ?_, ?_, fun entities => ?_⟩
    · exact hcommand .check false texts n
    · exact hcommand .classify false texts n
    · exact hcommand .strip false texts n
    · exact hcommand .escape entities texts n

end IdentifierText.CommandLine
