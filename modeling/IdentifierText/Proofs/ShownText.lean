/-
What is shown can be fed back.

A report shows a text with its unpaired halves escaped and everything else as it is, backslashes too. Read as source text
again, the escapes that were put in give their halves back, and all other characters themselves. Only where the text has
a backslash directly before the letter of an escape does the reader find an escape that was not put in. If that one is
complete, six or ten characters of the text make two units at the most, and nothing behind it makes up for them: digits
never run into an escape that was put in, since that starts with a backslash. So what is read is too short to be the text.

Results:
- `readChars_shownPoints`: without such a backslash the text is read back;
- `noLonger_of_denotes`: what is read never has more units than the text, and as many only without such a backslash;
- `read_shown_iff`: a text can be fed back exactly if no backslash in it stands before the letter of an escape.
-/
import IdentifierText.CommandLine.Report
import IdentifierText.Proofs.CodePointSpelling
import IdentifierText.Proofs.ReadingInParts

namespace IdentifierText.CommandLine.Report

open Utf16 Escape

/-! ## Characters that show code points -/

/-- a character as itself, half of a pair escaped -/
def shownPoint (c : CodePoint) : List Char :=
  match c.toChar with
  | .ok ch => [ch]
  | .error half => Form.unitEscape half

def shownPoints (points : List CodePoint) : List Char :=
  points.flatMap shownPoint

theorem toList_shown (text : List UInt16) : (shown text).toList = shownPoints (codePoints text) := by
  rw [shown, String.toList_ofList]
  rfl

@[simp] theorem shownPoints_nil : shownPoints [] = [] := rfl

@[simp] theorem shownPoints_cons (c : CodePoint) (points : List CodePoint) :
    shownPoints (c :: points) = shownPoint c ++ shownPoints points := rfl

@[simp] theorem shownPoint_ofChar (ch : Char) : shownPoint (.ofChar ch) = [ch] := by
  simp [shownPoint, toChar_ofChar]

theorem shownPoint_of_isSurrogate {c : CodePoint} (hs : c.IsSurrogate) :
    shownPoint c = '\\' :: 'u' :: Radix.hexadecimal.fixedNumeral 4 (UInt16.ofNat c.val).toNat := by
  simp [shownPoint, toChar_of_isSurrogate hs, Form.unitEscape]

theorem shownPoints_eq_nil {points : List CodePoint} (h : shownPoints points = []) : points = [] := by
  cases points with
  | nil => rfl
  | cons c points =>
    by_cases hs : c.IsSurrogate
    · simp [shownPoint_of_isSurrogate hs] at h
    · obtain ⟨ch, -, rfl⟩ := exists_toChar hs
      simp at h

/-- what comes first in shown characters: a character of the text, or an escape that was put in -/
theorem shownPoints_eq_cons {points : List CodePoint} {ch : Char} {text : List Char}
    (h : shownPoints points = ch :: text) :
    (∃ more, points = .ofChar ch :: more ∧ text = shownPoints more) ∨
    ∃ c more n, c.IsSurrogate ∧ points = c :: more ∧ ch = '\\' ∧
      text = 'u' :: (Radix.hexadecimal.fixedNumeral 4 n ++ shownPoints more) := by
  cases points with
  | nil => cases h
  | cons c points =>
    by_cases hs : c.IsSurrogate
    · rw [shownPoints_cons, shownPoint_of_isSurrogate hs] at h
      obtain ⟨rfl, rfl⟩ := List.cons.inj h
      exact Or.inr ⟨c, points, _, hs, rfl, rfl, rfl⟩
    · obtain ⟨ch', -, rfl⟩ := exists_toChar hs
      rw [shownPoints_cons, shownPoint_ofChar] at h
      obtain ⟨rfl, rfl⟩ := List.cons.inj h
      exact Or.inl ⟨points, rfl, rfl⟩

/-- characters that are no backslashes are those of the text -/
theorem exists_of_shownPoints_eq_append {points : List CodePoint} {chars rest : List Char}
    (h : shownPoints points = chars ++ rest) (hchars : '\\' ∉ chars) :
    ∃ more, points = chars.map .ofChar ++ more ∧ rest = shownPoints more := by
  induction chars generalizing points with
  | nil => exact ⟨points, rfl, h.symm⟩
  | cons ch chars ih =>
    rcases shownPoints_eq_cons h with ⟨points, rfl, hpoints⟩ | ⟨_, _, _, -, -, hch, -⟩
    · obtain ⟨more, rfl, hrest⟩ := ih hpoints.symm (List.not_mem_of_not_mem_cons hchars)
      exact ⟨more, rfl, hrest⟩
    · exact absurd hch.symm (List.ne_of_not_mem_cons hchars)

/-! ## Backslashes -/

/-- a backslash and the letter of an escape -/
def StartsEscape (c d : CodePoint) : Prop :=
  c = .ofChar '\\' ∧ (d = .ofChar 'u' ∨ d = .ofChar 'U')

/-- no backslash stands directly before the letter of an escape -/
def BackslashesApart (points : List CodePoint) : Prop :=
  points.IsChain fun c d => ¬StartsEscape c d

/-- two characters in a text are two code points of it -/
theorem codePoints_around_chars (a b : Char) (before after : List UInt16) :
    codePoints (before ++ (CodePoint.ofChar a).units ++ ((CodePoint.ofChar b).units ++ after)) =
      codePoints before ++ .ofChar a :: .ofChar b :: codePoints after := by
  have hb := codePoints_around (CodePoint.not_isSurrogate_ofChar b) [] after
  rw [List.nil_append] at hb
  rw [codePoints_around (CodePoint.not_isSurrogate_ofChar a), hb]
  rfl

/-- the same in units -/
theorem backslashesApart_codePoints_iff {text : List UInt16} :
    BackslashesApart (codePoints text) ↔
      ¬∃ before next after, text = before ++ 0x5C :: next :: after ∧ (next = 0x75 ∨ next = 0x55) := by
  have hbackslash : (CodePoint.ofChar '\\').units = [0x5C] := by decide
  have hlower : (CodePoint.ofChar 'u').units = [0x75] := by decide
  have hupper : (CodePoint.ofChar 'U').units = [0x55] := by decide
  rw [BackslashesApart, List.isChain_iff_forall_rel_of_append_cons_cons]
  constructor
  · intro h hmeet
    obtain ⟨before, next, after, rfl, hnext⟩ := hmeet
    rcases hnext with rfl | rfl
    · have hsplit := codePoints_around_chars '\\' 'u' before after
      rw [hbackslash, hlower, List.append_assoc] at hsplit
      exact h hsplit ⟨rfl, Or.inl rfl⟩
    · have hsplit := codePoints_around_chars '\\' 'U' before after
      rw [hbackslash, hupper, List.append_assoc] at hsplit
      exact h hsplit ⟨rfl, Or.inr rfl⟩
  · intro h c d before after hsplit hstarts
    obtain ⟨rfl, hletter⟩ := hstarts
    have htext := eq_of_codePoints_split hsplit
    rw [hbackslash, encode_cons, List.append_assoc] at htext
    rcases hletter with rfl | rfl
    · exact h ⟨encode before, 0x75, encode after, by rw [htext, hlower]; rfl, Or.inl rfl⟩
    · exact h ⟨encode before, 0x55, encode after, by rw [htext, hupper]; rfl, Or.inr rfl⟩

/-! ## Reading what is shown -/

/-- alone, every code point is read back -/
theorem readChars_shownPoint (c : CodePoint) : readChars .source (shownPoint c) = .ok c.units := by
  by_cases hs : c.IsSurrogate
  · rw [shownPoint_of_isSurrogate hs, CodePoint.units_of_isSurrogate hs]
    exact (readsAs_unitEscape _).readChars_eq
  · obtain ⟨ch, -, rfl⟩ := exists_toChar hs
    rw [shownPoint_ofChar]
    by_cases hch : ch = Grammar.source.introducer
    · have hpiece : Piece .source [] [Grammar.source.introducer] _ := .introducer fun c hc => by cases hc
      rw [hch]
      exact readChars_eq_ok_iff.2 (.cons hpiece .nil)
    · exact (readsAs_literal hch).readChars_eq

/-- an escape opens across code points only where the text has a backslash before its letter -/
theorem startsEscape_of_opensAcross {c : CodePoint} {points : List CodePoint}
    (h : OpensAcross .source (shownPoint c) (shownPoints points)) : ∃ d ∈ points.head?, StartsEscape c d := by
  obtain ⟨hlast, mark, hhead, hmark⟩ := h
  have hc : c = .ofChar '\\' := by
    by_cases hs : c.IsSurrogate
    · -- an escape that was put in ends with a digit
      have hdigit : (UInt16.ofNat c.val).toNat % 16 < Radix.hexadecimal.base := Nat.mod_lt _ (by decide)
      rw [shownPoint_of_isSurrogate hs, Radix.fixedNumeral, ← List.cons_append, ← List.cons_append,
        List.getLast?_concat] at hlast
      exact absurd (Option.some.inj hlast) (Radix.digit_ne hdigit (by decide))
    · obtain ⟨ch, -, rfl⟩ := exists_toChar hs
      rw [shownPoint_ofChar] at hlast
      obtain rfl : ch = '\\' := Option.some.inj hlast
      rfl
  obtain ⟨text, htext⟩ := List.head?_eq_some_iff.1 hhead
  rcases shownPoints_eq_cons htext with ⟨more, rfl, -⟩ | ⟨_, _, _, -, -, rfl, -⟩
  · have hletter : mark = 'u' ∨ mark = 'U' := by simpa [Grammar.marks] using hmark
    exact ⟨.ofChar mark, rfl, hc, by simpa [ofChar_inj] using hletter⟩
  · exact absurd hmark (by decide)

/-- **Code points are read back from what shows them** if no backslash stands before the letter of an escape. -/
theorem readChars_shownPoints {points : List CodePoint} (h : BackslashesApart points) :
    readChars .source (shownPoints points) = .ok (encode points) := by
  induction points with
  | nil => rw [shownPoints_nil, readChars, encode_nil]
  | cons c points ih =>
    obtain ⟨hhead, htail⟩ := List.isChain_cons.1 h
    have hjoin : ¬OpensAcross .source (shownPoint c) (shownPoints points) := by
      intro hopens
      obtain ⟨d, hd, hstarts⟩ := startsEscape_of_opensAcross hopens
      exact hhead d hd hstarts
    rw [shownPoints_cons, readChars_append (readChars_eq_ok_iff.1 (readChars_shownPoint c)) hjoin, ih htail]
    rfl

/-! ## The length of what is read -/

/-- units that are not more than those of some code points, and as many only if backslashes are apart -/
structure NoLonger (us : List UInt16) (points : List CodePoint) : Prop where
  length_le : us.length ≤ (encode points).length
  apart : us.length = (encode points).length → BackslashesApart points

/-- a code point that is read as its units -/
theorem NoLonger.cons {us more : List UInt16} {c : CodePoint} {points : List CodePoint} (h : NoLonger more points)
    (hus : us.length = c.units.length) (hhead : ∀ d ∈ points.head?, ¬StartsEscape c d) :
    NoLonger (us ++ more) (c :: points) := by
  have hle := h.length_le
  constructor
  · simp only [encode_cons, List.length_append]
    omega
  · intro heq
    simp only [encode_cons, List.length_append] at heq
    exact (h.apart (by omega)).cons hhead

/-- several characters that are read as fewer units -/
theorem NoLonger.chars {us more : List UInt16} {chars : List Char} {points : List CodePoint} (h : NoLonger more points)
    (hus : us.length < chars.length) : NoLonger (us ++ more) (chars.map .ofChar ++ points) := by
  have hle := h.length_le
  have hchars := length_le_length_encode (chars.map .ofChar)
  rw [List.length_map] at hchars
  constructor
  · simp only [encode_append, List.length_append]
    omega
  · intro heq
    simp only [encode_append, List.length_append] at heq
    omega

/-- an escape of the text itself, which was not put in, is read as fewer units than it has characters -/
theorem NoLonger.own_escape {mark : Char} {digits rest : List Char} {n : Nat} {us more : List UInt16}
    (hrest : ∀ points, rest = shownPoints points → NoLonger more points) (hmark : mark ≠ '\\')
    (hdigits : Radix.hexadecimal.Spells digits n) (hus : us.length < digits.length) {points : List CodePoint}
    (htext : mark :: (digits ++ rest) = shownPoints points) : NoLonger (us ++ more) (.ofChar '\\' :: points) := by
  have hchars : '\\' ∉ mark :: digits := by
    intro hmem
    rcases List.mem_cons.1 hmem with heq | hmem
    · exact hmark heq.symm
    · exact hdigits.not_mem (by decide) hmem
  have hsplit : shownPoints points = (mark :: digits) ++ rest := htext.symm
  obtain ⟨after, rfl, hafter⟩ := exists_of_shownPoints_eq_append hsplit hchars
  have hshort : us.length < ('\\' :: mark :: digits).length := by
    simp only [List.length_cons]
    omega
  exact (hrest after hafter).chars hshort

/-- one step: an escape that was put in, or one of the text itself -/
theorem noLonger_of_escape {spelling rest : List Char} {us more : List UInt16} (h : IsEscape .source spelling us)
    (hrest : ∀ points, rest = shownPoints points → NoLonger more points) {points : List CodePoint}
    (htext : spelling ++ rest = shownPoints points) : NoLonger (us ++ more) points := by
  cases h with
  | @unit digits u hlength hspells =>
    rcases shownPoints_eq_cons htext.symm with ⟨points, rfl, hpoints⟩ | ⟨c, points, n, hs, rfl, -, hpoints⟩
    · exact .own_escape hrest (by decide) hspells (by simp [hlength]) hpoints
    · -- of four digits each, so it is the same escape
      have hdigits : digits.length = (Radix.hexadecimal.fixedNumeral 4 n).length := by simp [hlength]
      have hafter : rest = shownPoints points := (List.append_inj (List.cons.inj hpoints).2 hdigits).2
      refine (hrest points hafter).cons (by simp [CodePoint.units_of_isSurrogate hs]) ?_
      intro d _ hstarts
      exact CodePoint.not_isSurrogate_ofChar '\\' (hstarts.1 ▸ hs)
  | @point digits c hlength hspells =>
    rcases shownPoints_eq_cons htext.symm with ⟨points, rfl, hpoints⟩ | ⟨_, _, _, -, -, -, hpoints⟩
    · have hshort : c.units.length < digits.length := by
        rw [CodePoint.length_units, CodePoint.width, hlength]
        split <;> omega
      exact .own_escape hrest (by decide) hspells hshort hpoints
    · exact absurd (List.cons.inj hpoints).1 (by decide)

/-- one step: a piece of the text -/
theorem noLonger_of_piece {piece rest : List Char} {us more : List UInt16} (h : Piece .source rest piece us)
    (hrest : ∀ points, rest = shownPoints points → NoLonger more points) {points : List CodePoint}
    (htext : piece ++ rest = shownPoints points) : NoLonger (us ++ more) points := by
  cases h with
  | @character ch hch =>
    rcases shownPoints_eq_cons htext.symm with ⟨points, rfl, hpoints⟩ | ⟨_, _, _, -, -, rfl, -⟩
    · refine (hrest points hpoints).cons rfl ?_
      intro d _ hstarts
      exact hch (ofChar_inj.1 hstarts.1)
    · exact absurd rfl hch
  | introducer hmarks =>
    rcases shownPoints_eq_cons htext.symm with ⟨points, rfl, hpoints⟩ | ⟨_, _, _, -, -, -, hpoints⟩
    · obtain rfl : rest = shownPoints points := hpoints
      refine (hrest points rfl).cons rfl ?_
      intro d hd hstarts
      obtain ⟨points, rfl⟩ := List.head?_eq_some_iff.1 hd
      rcases hstarts.2 with rfl | rfl
      · exact absurd (by decide) (hmarks 'u' (by simp))
      · exact absurd (by decide) (hmarks 'U' (by simp))
    · obtain rfl : rest = _ := hpoints
      exact absurd (by decide) (hmarks 'u' rfl)
  | escape h => exact noLonger_of_escape h hrest htext

/-- **What is read is no longer than the text**, and as long only if no backslash in the text stands before the letter of an
escape. -/
theorem noLonger_of_denotes {text : List Char} {us : List UInt16} (h : Denotes .source text us) (points : List CodePoint)
    (htext : text = shownPoints points) : NoLonger us points := by
  induction h generalizing points with
  | nil =>
    obtain rfl := shownPoints_eq_nil htext.symm
    exact ⟨Nat.le_refl _, fun _ => .nil⟩
  | cons hpiece _ ih => exact noLonger_of_piece hpiece ih htext

/-- **What is shown can be fed back** exactly if no backslash in the text stands directly before the letter of an escape.
Unpaired halves do not matter. -/
theorem read_shown_iff (text : List UInt16) :
    read .source (shown text) = .ok text ↔
      ¬∃ before next after, text = before ++ 0x5C :: next :: after ∧ (next = 0x75 ∨ next = 0x55) := by
  rw [← backslashesApart_codePoints_iff, read_eq_ok_iff_readChars, toList_shown]
  constructor
  · intro h
    have hlength : text.length = (encode (codePoints text)).length := by rw [encode_codePoints]
    exact (noLonger_of_denotes (readChars_eq_ok_iff.1 h) _ rfl).apart hlength
  · intro h
    rw [readChars_shownPoints h, encode_codePoints]

/-- a backslash may stand before an escape that was put in -/
example : shown [0x5C, 0xD800, 0x75] = "\\\\uD800u" ∧ read .source "\\\\uD800u" = .ok [0x5C, 0xD800, 0x75] := by
  refine ⟨?_, ?_⟩ <;> cbv

end IdentifierText.CommandLine.Report
