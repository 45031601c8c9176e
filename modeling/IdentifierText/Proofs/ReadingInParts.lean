/-
Reading a text part by part.

Pieces that are read depend on what stands behind them in one way only: an introducer at the end of a text stands for itself,
and with more text behind it may open an escape (`OpensAcross`). Where this does not happen, two texts in a row are read one
after the other. Reading stops at the first flawed escape: what stands in front of it is read in full, and the escape is
flawed whatever was in front.

Results:
- `readChars_append`: texts in a row, for characters; `read_append`: for strings, with the bytes in front added to the
  position of a fault;
- `read_eq_error_iff`: a fault cuts the string into a part that can be read and a flawed escape at the start of the other;
- `fault_by_itself`: both parts read on their own, and a final flaw stays where it is, whatever is put behind the string.
-/
import IdentifierText.Proofs.EscapeFlaws

namespace IdentifierText.Escape

variable {g : Grammar}

/-! ## Texts in a row -/

/-- an introducer at the end of the first text opens an escape with the start of the second -/
def OpensAcross (g : Grammar) (a b : List Char) : Prop :=
  g.introducer ∈ a.getLast? ∧ ∃ c ∈ b.head?, c ∈ g.marks

theorem OpensAcross.append_left {a b : List Char} (h : OpensAcross g a b) (front : List Char) :
    OpensAcross g (front ++ a) b := by
  obtain ⟨hlast, hmark⟩ := h
  obtain ⟨start, rfl⟩ := List.getLast?_eq_some_iff.1 hlast
  exact ⟨by simp, hmark⟩

theorem OpensAcross.append_right {a b : List Char} (h : OpensAcross g a b) (back : List Char) :
    OpensAcross g a (b ++ back) := by
  obtain ⟨hlast, c, hc, hmark⟩ := h
  obtain ⟨rest, rfl⟩ := List.head?_eq_some_iff.1 hc
  exact ⟨hlast, c, rfl, hmark⟩

/-- a piece is the same with more text behind it -/
theorem Piece.append_right {piece rest more : List Char} {us : List UInt16} (h : Piece g rest piece us)
    (hjoin : ¬OpensAcross g (piece ++ rest) more) : Piece g (rest ++ more) piece us := by
  cases h with
  | character hc => exact .character hc
  | introducer hrest =>
    refine .introducer ?_
    intro c hc hmark
    cases rest with
    | nil => exact hjoin ⟨rfl, c, hc, hmark⟩
    | cons d rest => exact hrest c hc hmark
  | escape h => exact .escape h

/-- and with less -/
theorem Piece.of_append_right {piece rest more : List Char} {us : List UInt16} (h : Piece g (rest ++ more) piece us) :
    Piece g rest piece us := by
  cases h with
  | character hc => exact .character hc
  | introducer hrest =>
    refine .introducer ?_
    intro c hc
    obtain ⟨rest, rfl⟩ := List.head?_eq_some_iff.1 hc
    exact hrest c rfl
  | escape h => exact .escape h

/-- **Texts in a row are read one after the other** if no escape opens where they meet. -/
theorem readChars_append {a b : List Char} {us : List UInt16} (h : Denotes g a us) (hjoin : ¬OpensAcross g a b) :
    readChars g (a ++ b) = (readChars g b).map (us ++ ·) := by
  -- piece by piece; the place where the texts meet stays the same
  induction h with
  | nil => exact ReadsAs.nil g b
  | @cons piece rest us more hpiece _ ih =>
    obtain ⟨c, text, hsplit⟩ := List.exists_cons_of_ne_nil
      (List.append_ne_nil_of_left_ne_nil hpiece.ne_nil (rest ++ b))
    have hread : readPiece g c text = .ok (us, rest ++ b) :=
      readPiece_eq_ok_iff.2 ⟨piece, hsplit.symm, hpiece.append_right hjoin⟩
    have hrest : readChars g (rest ++ b) = (readChars g b).map (more ++ ·) :=
      ih fun hopens => hjoin (hopens.append_left piece)
    rw [List.append_assoc, hsplit, readChars_of_readPiece hread, hrest]
    cases readChars g b <;> simp [Except.map]

/-! ## The first flawed escape -/

theorem introducer_not_mem_marks (g : Grammar) : g.introducer ∉ g.marks := by
  cases g <;> decide

/-- an introducer that comes behind a text makes no escape of its end -/
theorem not_opensAcross_introducer (a text : List Char) : ¬OpensAcross g a (g.introducer :: text) := by
  intro hopens
  obtain ⟨-, c, hc, hmark⟩ := hopens
  rw [List.head?_cons, Option.mem_some_iff] at hc
  exact introducer_not_mem_marks g (hc ▸ hmark)

theorem readPiece_eq_error_iff {c : Char} {text : List Char} {flaw : Flaw} :
    readPiece g c text = .error flaw ↔ c = g.introducer ∧ IsFlawed g text flaw := by
  rw [← readEscape?_eq_error_iff, readPiece]
  by_cases hc : c = g.introducer
  · rw [if_pos hc]
    cases g.readEscape? text <;> simp [hc]
  · simp [hc]

/-- **Where reading stops.** A text cannot be read exactly if it has a flawed escape behind a text that can be. -/
theorem readChars_eq_error_iff {text unread : List Char} {flaw : Flaw} :
    readChars g text = .error ⟨flaw, unread⟩ ↔ ∃ before us rest, text = before ++ unread ∧ Denotes g before us ∧
      unread = g.introducer :: rest ∧ IsFlawed g rest flaw := by
  constructor
  · intro h
    fun_induction readChars g text with
    | case1 => cases h
    | case2 c text flaw' hpiece =>
      cases h
      obtain ⟨rfl, hflawed⟩ := readPiece_eq_error_iff.1 hpiece
      exact ⟨[], [], text, rfl, .nil, rfl, hflawed⟩
    | case3 c text us rest hpiece ih =>
      have herror : readChars g rest = .error ⟨flaw, unread⟩ := by
        cases hrest : readChars g rest with
        | error flawed => simpa [hrest, Except.map] using h
        | ok more => simp [hrest, Except.map] at h
      obtain ⟨before, more, text', rfl, hbefore, hunread, hflawed⟩ := ih herror
      obtain ⟨piece, hsplit, hpiece⟩ := readPiece_eq_ok_iff.1 hpiece
      refine ⟨piece ++ before, us ++ more, text', ?_, .cons hpiece.of_append_right hbefore, hunread, hflawed⟩
      rw [hsplit, List.append_assoc]
  · intro h
    obtain ⟨before, us, rest, rfl, hbefore, rfl, hflawed⟩ := h
    have hstop := readChars_of_flaw (readPiece_eq_error_iff.2 ⟨rfl, hflawed⟩)
    rw [readChars_append hbefore (not_opensAcross_introducer before rest), hstop]
    rfl

/-! ## Strings -/

/-- a string that is cut in two where its first flawed escape starts -/
structure BreaksOff (g : Grammar) (before after : String) (flaw : Flaw) : Prop where
  readable : ∃ us, read g before = .ok us
  flawed : ∃ rest, after.toList = g.introducer :: rest ∧ IsFlawed g rest flaw

/-- **Where a fault stands.** Its position is the number of bytes in front of the first flawed escape. -/
theorem read_eq_error_iff {s : String} {fault : ReadFault} :
    read g s = .error fault ↔ ∃ before after, s = before ++ after ∧ before.utf8ByteSize = fault.offset ∧
      BreaksOff g before after fault.flaw := by
  rw [read, mapError_eq_error_iff]
  constructor
  · intro h
    obtain ⟨⟨flaw, unread⟩, herror, rfl⟩ := h
    obtain ⟨before, us, rest, htext, hbefore, hunread, hflawed⟩ := readChars_eq_error_iff.1 herror
    refine ⟨.ofList before, .ofList unread, ?_, ?_, ⟨us, ?_⟩, rest, ?_, hflawed⟩
    · rw [← String.ofList_append, ← htext, String.ofList_toList]
    · rw [← byteLength_eq, htext, byteLength_append, Nat.add_sub_cancel]
    · rwa [read_eq_ok_iff_readChars, readChars_eq_ok_iff, String.toList_ofList]
    · rwa [String.toList_ofList]
  · intro h
    obtain ⟨before, after, rfl, hoffset, ⟨us, hbefore⟩, rest, hafter, hflawed⟩ := h
    rw [read_eq_ok_iff_readChars, readChars_eq_ok_iff] at hbefore
    have herror : readChars g (before ++ after).toList = .error ⟨fault.flaw, after.toList⟩ :=
      readChars_eq_error_iff.2 ⟨before.toList, us, rest, String.toList_append, hbefore, hafter, hflawed⟩
    refine ⟨_, herror, ?_⟩
    rw [String.toList_append, byteLength_append, Nat.add_sub_cancel, byteLength_toList, hoffset]

theorem read_append_eq_ok {a b : String} {us vs : List UInt16} (ha : read g a = .ok us) (hb : read g b = .ok vs)
    (hjoin : ¬OpensAcross g a.toList b.toList) : read g (a ++ b) = .ok (us ++ vs) := by
  rw [read_eq_ok_iff_readChars] at *
  rw [String.toList_append, readChars_append (readChars_eq_ok_iff.1 ha) hjoin, hb]
  rfl

theorem BreaksOff.append_left {a before after : String} {flaw : Flaw} {us : List UInt16}
    (h : BreaksOff g before after flaw) (ha : read g a = .ok us)
    (hjoin : ¬OpensAcross g a.toList (before ++ after).toList) : BreaksOff g (a ++ before) after flaw := by
  obtain ⟨vs, hbefore⟩ := h.readable
  have hfront : ¬OpensAcross g a.toList before.toList := by
    intro hopens
    rw [String.toList_append] at hjoin
    exact hjoin (hopens.append_right after.toList)
  exact ⟨⟨us ++ vs, read_append_eq_ok ha hbefore hfront⟩, h.flawed⟩

theorem BreaksOff.append_right {before after : String} {flaw : Flaw} (h : BreaksOff g before after flaw)
    (hfinal : flaw.IsFinal) (more : String) : BreaksOff g before (after ++ more) flaw := by
  obtain ⟨rest, hafter, hflawed⟩ := h.flawed
  refine ⟨h.readable, rest ++ more.toList, ?_, hflawed.append hfinal more.toList⟩
  rw [String.toList_append, hafter, List.cons_append]

/-- the flawed escape is the first thing in the string -/
theorem BreaksOff.at_start {before after : String} {flaw : Flaw} (h : BreaksOff g before after flaw) :
    BreaksOff g "" after flaw := by
  have hempty : read g "" = .ok [] := read_eq_ok_iff_readChars.2 (readChars_eq_ok_iff.2 .nil)
  exact ⟨⟨[], hempty⟩, h.flawed⟩

/-- **A fault by itself.** A string with a fault is cut at its position. What is in front of it can be read. What is behind
starts with an introducer and has the same fault, at its own start. Unless the flaw is for the end of the string, the fault
stays when more is put behind. -/
theorem fault_by_itself {s : String} {offset : Nat} {flaw : Flaw} (h : read g s = .error ⟨offset, flaw⟩) :
    (∃ before after, s = before ++ after ∧ before.utf8ByteSize = offset ∧ after.toList.head? = some g.introducer ∧
      (∃ us, read g before = .ok us) ∧ read g after = .error ⟨0, flaw⟩) ∧
    (flaw.IsFinal → ∀ more, read g (s ++ more) = .error ⟨offset, flaw⟩) := by
  obtain ⟨before, after, rfl, hoffset, hbreak⟩ := read_eq_error_iff.1 h
  refine ⟨⟨before, after, rfl, hoffset, ?_, hbreak.readable, ?_⟩, ?_⟩
  · obtain ⟨rest, hafter, -⟩ := hbreak.flawed
    rw [hafter, List.head?_cons]
  · exact read_eq_error_iff.2 ⟨"", after, String.empty_append.symm, rfl, hbreak.at_start⟩
  · intro hfinal more
    rw [String.append_assoc]
    exact read_eq_error_iff.2 ⟨before, after ++ more, rfl, hoffset, hbreak.append_right hfinal more⟩

/-- a letter of two bytes and a backslash that stands for itself, in front of an escape with a wrong digit -/
theorem fault_by_itself_bad_digit :
    read .source "é\\n\\u00G1" = .error ⟨4, .badDigit 'G'⟩ ∧
    (∃ before after, "é\\n\\u00G1" = before ++ after ∧ before.utf8ByteSize = 4 ∧ after.toList.head? = some '\\' ∧
      (∃ us, read .source before = .ok us) ∧ read .source after = .error ⟨0, .badDigit 'G'⟩) ∧
    ∀ more, read .source ("é\\n\\u00G1" ++ more) = .error ⟨4, .badDigit 'G'⟩ := by
  have hfault : read .source "é\\n\\u00G1" = .error ⟨4, .badDigit 'G'⟩ := by cbv
  exact ⟨hfault, (fault_by_itself hfault).1, (fault_by_itself hfault).2 trivial⟩

/-- **Reading is compositional.** Behind a string that can be read, another is read as it is on its own, unless an
introducer at the end of the first opens an escape there. If the other has a fault, so has the whole, as many bytes further
on as the first string has. -/
theorem read_append {a b : String} {us : List UInt16} (ha : read g a = .ok us)
    (hjoin : ¬OpensAcross g a.toList b.toList) :
    (∀ vs, read g b = .ok vs → read g (a ++ b) = .ok (us ++ vs)) ∧
    ∀ offset flaw, read g b = .error ⟨offset, flaw⟩ → read g (a ++ b) = .error ⟨a.utf8ByteSize + offset, flaw⟩ := by
  constructor
  · intro vs hb
    exact read_append_eq_ok ha hb hjoin
  · intro offset flaw hb
    obtain ⟨before, after, rfl, hoffset, hbreak⟩ := read_eq_error_iff.1 hb
    refine read_eq_error_iff.2 ⟨a ++ before, after, String.append_assoc.symm, ?_, hbreak.append_left ha hjoin⟩
    rw [String.utf8ByteSize_append, hoffset]

/-- an ampersand at the end of the first string that stays one, with a reference behind it and with one that is too large -/
theorem read_append_ampersand :
    read .markup "é&&#x61;" = .ok [0xE9, 0x26, 0x61] ∧
    read .markup "é&a&#x110000" = .error ⟨4, .tooLarge⟩ := by
  have hfront : read .markup "é&" = .ok [0xE9, 0x26] := by cbv
  have hletter : read .markup "&#x61;" = .ok [0x61] := by cbv
  have hlarge : read .markup "a&#x110000" = .error ⟨1, .tooLarge⟩ := by cbv
  have hamp : ¬OpensAcross .markup "é&".toList "&#x61;".toList :=
    not_opensAcross_introducer "é&".toList ['#', 'x', '6', '1', ';']
  have ha : ¬OpensAcross .markup "é&".toList "a&#x110000".toList := by
    intro hopens
    obtain ⟨-, c, hc, hmark⟩ := hopens
    obtain rfl : 'a' = c := Option.some.inj hc
    exact absurd hmark (by decide)
  exact ⟨(read_append hfront hamp).1 _ hletter, (read_append hfront ha).2 _ _ hlarge⟩

/-- with a number sign behind it the ampersand opens a reference -/
example : read .markup "&" = .ok [0x26] ∧ read .markup "#" = .ok [0x23] ∧ read .markup "&#" = .error ⟨0, .unclosed⟩ := by
  refine ⟨?_, ?_, ?_⟩ <;> cbv

end IdentifierText.Escape
