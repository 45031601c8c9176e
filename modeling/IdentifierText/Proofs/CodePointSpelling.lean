/-
A spelling, code point by code point.

The first code point of a text is escaped, and each later one is escaped or copied, as the coverage says. Writing ends at the
first code point that is bad: half of a pair, or a copied character that would open an escape. Positions are counted in
units all the way, so a pair in front moves them by two.

Results:
- `exists_isFirst`: where there is a code point of a kind, there is a first one;
- `write_of_isFirst`: the first bad code point is reported, with the number of units before it;
- `exists_write_of_forall_not_bad`: without one there is a spelling, and it is that of the code points in a row;
- `write_by_code_points`: both together, and the law that with everything escaped spellings of texts in a row are in a row.
-/
import Mathlib.Data.Nat.Find
import IdentifierText.Proofs.RoundTrip

namespace IdentifierText

/-! ## The first code point of a kind -/

namespace Utf16

/-- the first code point with a property that may depend on the index, and the code points before it -/
structure IsFirst (p : Nat → CodePoint → Prop) (points before : List CodePoint) (c : CodePoint) : Prop where
  split : ∃ after, points = before ++ c :: after
  holds : p before.length c
  fails_before : ∀ i (h : i < before.length), ¬p i before[i]

variable {p q : Nat → CodePoint → Prop} {points before : List CodePoint} {c : CodePoint}

theorem exists_isFirst (h : ∃ i, ∃ hi : i < points.length, p i points[i]) : ∃ before c, IsFirst p points before c := by
  classical
  obtain ⟨hlt, hp⟩ := Nat.find_spec h
  have hlength : (points.take (Nat.find h)).length = Nat.find h := List.length_take_of_le (Nat.le_of_lt hlt)
  refine ⟨points.take (Nat.find h), points[Nat.find h], ⟨points.drop (Nat.find h + 1), ?_⟩, ?_, ?_⟩
  · rw [List.getElem_cons_drop, List.take_append_drop]
  · rwa [hlength]
  · intro i hi hpi
    rw [List.getElem_take] at hpi
    rw [hlength] at hi
    exact Nat.find_min h hi ⟨Nat.lt_trans hi hlt, hpi⟩

/-- being first for one property is being first for another that says the same of the code points in the list -/
theorem IsFirst.congr (h : IsFirst p points before c) (hpq : ∀ d ∈ points, ∀ i, p i d ↔ q i d) :
    IsFirst q points before c := by
  obtain ⟨after, rfl⟩ := h.split
  refine ⟨⟨after, rfl⟩, (hpq c (by simp) _).1 h.holds, fun i hi hq => ?_⟩
  have hmem : before[i] ∈ before ++ c :: after := List.mem_append_left _ (List.getElem_mem hi)
  exact h.fails_before i hi ((hpq _ hmem i).2 hq)

end Utf16

namespace Escape

open Utf16

/-! ## Characters among code points -/

theorem toChar_of_isSurrogate {c : CodePoint} (h : c.IsSurrogate) : c.toChar = .error (.ofNat c.val) :=
  dif_pos h

/-- every code point but a surrogate is a character -/
theorem exists_toChar {c : CodePoint} (h : ¬c.IsSurrogate) : ∃ ch, c.toChar = .ok ch ∧ CodePoint.ofChar ch = c :=
  ⟨_, dif_neg h, ofChar_of_toChar (dif_neg h)⟩

theorem ofChar_inj {a b : Char} : CodePoint.ofChar a = CodePoint.ofChar b ↔ a = b := by
  rw [CodePoint.ext_iff, CodePoint.val_ofChar, CodePoint.val_ofChar, Char.toNat_inj]

theorem toChar_ofChar (ch : Char) : (CodePoint.ofChar ch).toChar = .ok ch := by
  obtain ⟨ch', htoChar, hsame⟩ := exists_toChar (CodePoint.not_isSurrogate_ofChar ch)
  rw [htoChar, ofChar_inj.1 hsame]

/-- a list without surrogates is a list of characters -/
theorem exists_chars {points : List CodePoint} (h : ∀ c ∈ points, ¬c.IsSurrogate) :
    ∃ chars : List Char, chars.map .ofChar = points := by
  induction points with
  | nil => exact ⟨[], rfl⟩
  | cons c points ih =>
    obtain ⟨hc, hpoints⟩ := List.forall_mem_cons.1 h
    obtain ⟨ch, -, hch⟩ := exists_toChar hc
    obtain ⟨chars, hchars⟩ := ih hpoints
    exact ⟨ch :: chars, by rw [List.map_cons, hch, hchars]⟩

/-! ## Bad code points -/

/-- a code point behind the first that is a certain character -/
def Later (ch : Char) (index : Nat) (c : CodePoint) : Prop :=
  0 < index ∧ c = .ofChar ch

/-- what stops a spelling: half of a pair, or a character that would be copied and opens an escape; the first code point is
never copied -/
def Bad (form : Form) (coverage : Coverage) (index : Nat) (c : CodePoint) : Prop :=
  c.IsSurrogate ∨ coverage = .firstOnly ∧ Later form.grammar.introducer index c

def faultAt (form : Form) (offset : Nat) (c : CodePoint) : WriteFault :=
  if c.IsSurrogate then .unpaired offset (.ofNat c.val) else .introducer offset form.grammar.introducer

instance (ch : Char) (index : Nat) (c : CodePoint) : Decidable (Later ch index c) := inferInstanceAs (Decidable (_ ∧ _))

instance (form : Form) (coverage : Coverage) (index : Nat) (c : CodePoint) : Decidable (Bad form coverage index c) :=
  inferInstanceAs (Decidable (_ ∨ _))

variable {form : Form} {coverage : Coverage} {index offset : Nat} {points before : List CodePoint} {c : CodePoint}

theorem exists_later_iff {ch : Char} :
    (∃ i, ∃ h : i < points.length, Later ch i points[i]) ↔ .ofChar ch ∈ points.tail := by
  rw [List.mem_iff_getElem]
  constructor
  · rintro ⟨i, hi, hpos, hch⟩
    obtain ⟨i, rfl⟩ := Nat.exists_eq_succ_of_ne_zero (Nat.ne_of_gt hpos)
    refine ⟨i, by rw [List.length_tail]; omega, ?_⟩
    rw [List.getElem_tail, hch]
  · rintro ⟨i, hi, hch⟩
    rw [List.length_tail] at hi
    refine ⟨i + 1, by omega, Nat.succ_pos i, ?_⟩
    rw [← hch, List.getElem_tail]

/-! ## One code point -/

theorem writeEscaped_of_isSurrogate (hs : c.IsSurrogate) :
    writeEscaped form ⟨offset, c⟩ = .error (faultAt form offset c) := by
  simp [writeEscaped, faultAt, toChar_of_isSurrogate hs, hs]

theorem writeEscaped_of_not_isSurrogate (hs : ¬c.IsSurrogate) : writeEscaped form ⟨offset, c⟩ = .ok (form.encode c) := by
  obtain ⟨ch, hch, -⟩ := exists_toChar hs
  simp [writeEscaped, hch]

theorem writeLiteral_of_isSurrogate (hs : c.IsSurrogate) :
    writeLiteral form ⟨offset, c⟩ = .error (faultAt form offset c) := by
  simp [writeLiteral, faultAt, toChar_of_isSurrogate hs, hs]

theorem writeLiteral_introducer :
    writeLiteral form ⟨offset, .ofChar form.grammar.introducer⟩ =
      .error (faultAt form offset (.ofChar form.grammar.introducer)) := by
  simp [writeLiteral, faultAt, toChar_ofChar, CodePoint.not_isSurrogate_ofChar]

theorem writeLiteral_of_ne {ch : Char} (h : ch ≠ form.grammar.introducer) :
    writeLiteral form ⟨offset, .ofChar ch⟩ = .ok [ch] := by
  simp [writeLiteral, toChar_ofChar, h]

/-- one step: a bad code point behind the first is reported -/
theorem writeLater_of_bad (h : Bad form coverage index c) :
    coverage.writeLater form ⟨offset, c⟩ = .error (faultAt form offset c) := by
  rcases h with hs | ⟨rfl, -, rfl⟩
  · cases coverage with
    | all => exact writeEscaped_of_isSurrogate hs
    | firstOnly => exact writeLiteral_of_isSurrogate hs
  · exact writeLiteral_introducer

/-- one step: any other is written -/
theorem exists_writeLater_of_not_bad (hindex : 0 < index) (h : ¬Bad form coverage index c) :
    ∃ piece, coverage.writeLater form ⟨offset, c⟩ = .ok piece := by
  have hs : ¬c.IsSurrogate := fun hs => h (Or.inl hs)
  cases coverage with
  | all => exact ⟨_, writeEscaped_of_not_isSurrogate hs⟩
  | firstOnly =>
    obtain ⟨ch, -, rfl⟩ := exists_toChar hs
    refine ⟨_, writeLiteral_of_ne ?_⟩
    rintro rfl
    exact h (Or.inr ⟨rfl, hindex, rfl⟩)

/-! ## The first bad code point -/

theorem writePoints_cons_eq_error {first : Placed} {rest : List Placed} {fault : WriteFault} :
    writePoints form coverage (first :: rest) = .error fault ↔
      writeEscaped form first = .error fault ∨
      (∃ head, writeEscaped form first = .ok head) ∧ rest.mapM (coverage.writeLater form) = .error fault := by
  rw [writePoints, bind_eq_error_iff]
  simp [bind_eq_error_iff, pure, Except.pure]

/-- behind the first code point the first bad one is reported, and positions go on from `offset` -/
theorem mapM_writeLater_of_bad {after : List CodePoint} (hindex : 0 < index)
    (hbefore : ∀ i (h : i < before.length), ¬Bad form coverage (index + i) before[i])
    (hc : Bad form coverage (index + before.length) c) :
    (placeFrom offset (before ++ c :: after)).mapM (coverage.writeLater form) =
      .error (faultAt form (offset + (encode before).length) c) := by
  rw [placeFrom_append, placeFrom, mapM_eq_error_iff]
  refine ⟨placeFrom offset before, _, _, rfl, fun placed hplaced => ?_, writeLater_of_bad hc⟩
  obtain ⟨front, back, rfl, -⟩ := mem_placeFrom.1 hplaced
  have hgood : ¬Bad form coverage (index + front.length) placed.point := by
    simpa using hbefore front.length (by simp)
  exact exists_writeLater_of_not_bad (Nat.add_pos_left hindex front.length) hgood

theorem write_eq_writePoints (form : Form) (coverage : Coverage) (text : List UInt16) :
    write form coverage text =
      (writePoints form coverage (placeFrom 0 (codePoints text))).map fun pieces => .ofList pieces.flatten := by
  rw [write, indexed_eq_placeFrom]

/-- **The first bad code point is reported**, with the number of units before it as its position. -/
theorem write_of_isFirst {text : List UInt16} (h : IsFirst (Bad form coverage) (codePoints text) before c) :
    write form coverage text = .error (faultAt form (encode before).length c) := by
  have herror : writePoints form coverage (placeFrom 0 (codePoints text)) =
      .error (faultAt form (encode before).length c) := by
    obtain ⟨after, hsplit⟩ := h.split
    rw [hsplit]
    cases before with
    | nil =>
      -- the first code point is escaped in any coverage, so it can only be half of a pair
      have hs : c.IsSurrogate := h.holds.resolve_right fun hcopied => Nat.lt_irrefl 0 hcopied.2.1
      rw [List.nil_append, placeFrom, writePoints_cons_eq_error]
      exact Or.inl (writeEscaped_of_isSurrogate hs)
    | cons first before =>
      have hfirst : ¬first.IsSurrogate := fun hs => h.fails_before 0 (Nat.succ_pos _) (Or.inl hs)
      have hbefore : ∀ i (hi : i < before.length), ¬Bad form coverage (1 + i) before[i] := fun i hi => by
        rw [Nat.add_comm]
        exact h.fails_before (i + 1) (Nat.succ_lt_succ hi)
      have hc : Bad form coverage (1 + before.length) c := by
        rw [Nat.add_comm]
        exact h.holds
      rw [List.cons_append, placeFrom, writePoints_cons_eq_error]
      refine Or.inr ⟨⟨_, writeEscaped_of_not_isSurrogate hfirst⟩, ?_⟩
      rw [mapM_writeLater_of_bad Nat.one_pos hbefore hc, encode_cons, List.length_append, CodePoint.length_units,
        Nat.zero_add]
  rw [write_eq_writePoints, herror]
  rfl

/-! ## Spellings in full -/

/-- what a spelling is made of: escapes of all code points, or the escape of the first one and the characters that are the
others -/
inductive SpelledAs (form : Form) : Coverage → List CodePoint → String → Prop
  | all (points : List CodePoint) : SpelledAs form .all points (.ofList (points.flatMap form.encode))
  | empty : SpelledAs form .firstOnly [] ""
  | firstOnly (first : CodePoint) (chars : List Char) :
    SpelledAs form .firstOnly (first :: chars.map .ofChar) (.ofList (form.encode first ++ chars))

/-- pieces that do not depend on positions are written one for each code point -/
theorem mapM_placeFrom_eq_ok {α : Type} {writePoint : Placed → Except WriteFault (List Char)} {point : α → CodePoint}
    {piece : α → List Char} {xs : List α} (h : ∀ x ∈ xs, ∀ offset, writePoint ⟨offset, point x⟩ = .ok (piece x))
    (start : Nat) : (placeFrom start (xs.map point)).mapM writePoint = .ok (xs.map piece) := by
  induction xs generalizing start with
  | nil => rfl
  | cons x xs ih =>
    obtain ⟨hx, hxs⟩ := List.forall_mem_cons.1 h
    rw [List.map_cons, placeFrom, List.mapM_cons, hx, ih hxs]
    rfl

theorem writePoints_all (h : ∀ c ∈ points, ¬c.IsSurrogate) (start : Nat) :
    writePoints form .all (placeFrom start points) = .ok (points.map form.encode) := by
  cases points with
  | nil => rfl
  | cons first rest =>
    obtain ⟨hfirst, hrest⟩ := List.forall_mem_cons.1 h
    have hpieces : (placeFrom (start + first.width) (rest.map id)).mapM (writeEscaped form) =
        .ok (rest.map form.encode) :=
      mapM_placeFrom_eq_ok (fun c hc _ => writeEscaped_of_not_isSurrogate (hrest c hc)) _
    rw [List.map_id] at hpieces
    rw [placeFrom, writePoints, writeEscaped_of_not_isSurrogate hfirst, Coverage.writeLater, hpieces]
    rfl

theorem writePoints_firstOnly {chars : List Char} (hc : ¬c.IsSurrogate) (h : ∀ ch ∈ chars, ch ≠ form.grammar.introducer)
    (start : Nat) :
    writePoints form .firstOnly (placeFrom start (c :: chars.map .ofChar)) =
      .ok (form.encode c :: chars.map fun ch => [ch]) := by
  have hpieces : (placeFrom (start + c.width) (chars.map .ofChar)).mapM (writeLiteral form) =
      .ok (chars.map fun ch => [ch]) :=
    mapM_placeFrom_eq_ok (fun ch hch _ => writeLiteral_of_ne (h ch hch)) _
  rw [placeFrom, writePoints, writeEscaped_of_not_isSurrogate hc, Coverage.writeLater, hpieces]
  rfl

theorem write_all {text : List UInt16} (h : ∀ c ∈ codePoints text, ¬c.IsSurrogate) :
    write form .all text = .ok (.ofList ((codePoints text).flatMap form.encode)) := by
  rw [write_eq_writePoints, writePoints_all h, List.flatMap_def]
  rfl

/-- **Without a bad code point there is a spelling**, and it is that of the code points in a row. -/
theorem exists_write_of_forall_not_bad {text : List UInt16}
    (h : ∀ i (hi : i < (codePoints text).length), ¬Bad form coverage i (codePoints text)[i]) :
    ∃ s, SpelledAs form coverage (codePoints text) s ∧ write form coverage text = .ok s := by
  have hpaired : ∀ c ∈ codePoints text, ¬c.IsSurrogate := by
    intro c hc hs
    obtain ⟨i, hi, rfl⟩ := List.mem_iff_getElem.1 hc
    exact h i hi (Or.inl hs)
  cases coverage with
  | all => exact ⟨_, .all _, write_all hpaired⟩
  | firstOnly =>
    rw [write_eq_writePoints]
    generalize codePoints text = points at h hpaired
    cases points with
    | nil => exact ⟨_, .empty, rfl⟩
    | cons first rest =>
      obtain ⟨hfirst, hrest⟩ := List.forall_mem_cons.1 hpaired
      obtain ⟨chars, rfl⟩ := exists_chars hrest
      have hchars : ∀ ch ∈ chars, ch ≠ form.grammar.introducer := by
        rintro ch hch rfl
        obtain ⟨i, hi, hget⟩ := List.mem_iff_getElem.1 hch
        refine h (i + 1) (by simpa using hi) (Or.inr ⟨rfl, Nat.succ_pos i, ?_⟩)
        rw [List.getElem_cons_succ, List.getElem_map, hget]
      refine ⟨_, .firstOnly first chars, ?_⟩
      have hflatten : (chars.map fun ch => [ch]).flatten = chars := by
        rw [← List.flatMap_def, List.flatMap_singleton']
      rw [writePoints_firstOnly hfirst hchars, Except.map, List.flatten_cons, hflatten]

/-- **With everything escaped, spellings are put in a row** as their texts are, if halves are paired in each. -/
theorem write_all_append {a b : List UInt16} (ha : hasUnpaired a = false) (hb : hasUnpaired b = false) :
    ∃ s t, write form .all a = .ok s ∧ write form .all b = .ok t ∧ write form .all (a ++ b) = .ok (s ++ t) := by
  have ha_points := not_isSurrogate_of_not_hasUnpaired ha
  have hb_points := not_isSurrogate_of_not_hasUnpaired hb
  have hpaired : ∀ c ∈ codePoints a ++ codePoints b, ¬c.IsSurrogate := by
    intro c hc
    exact (List.mem_append.1 hc).elim (ha_points c) (hb_points c)
  have hpoints : codePoints (a ++ b) = codePoints a ++ codePoints b := by
    have hencode := codePoints_encode hpaired
    rwa [encode_append, encode_codePoints, encode_codePoints] at hencode
  refine ⟨_, _, write_all ha_points, write_all hb_points, ?_⟩
  rw [write_all (hpoints ▸ hpaired), hpoints, List.flatMap_append, String.ofList_append]

/-- **A spelling, code point by code point.** If some code point is bad, the first bad one is reported, and its position is
the number of units before it. If none is bad, there is a spelling: all code points escaped in a row, or the first one
escaped and the others as the characters they are. So with everything escaped a text may be cut wherever both parts have
their halves paired, and the spellings of the parts make up the spelling of the whole. -/
theorem write_by_code_points (form : Form) (coverage : Coverage) (text : List UInt16) :
    ((∃ i, ∃ h : i < (codePoints text).length, Bad form coverage i (codePoints text)[i]) →
      ∃ before c, IsFirst (Bad form coverage) (codePoints text) before c ∧
        write form coverage text = .error (faultAt form (encode before).length c)) ∧
    ((∀ i (h : i < (codePoints text).length), ¬Bad form coverage i (codePoints text)[i]) →
      ∃ s, SpelledAs form coverage (codePoints text) s ∧ write form coverage text = .ok s) ∧
    ∀ a b, text = a ++ b → hasUnpaired a = false → hasUnpaired b = false →
      ∃ s t, write form .all a = .ok s ∧ write form .all b = .ok t ∧ write form .all text = .ok (s ++ t) := by
  refine ⟨fun hbad => ?_, exists_write_of_forall_not_bad, ?_⟩
  · obtain ⟨before, c, hfirst⟩ := exists_isFirst hbad
    exact ⟨before, c, hfirst, write_of_isFirst hfirst⟩
  · rintro a b rfl ha hb
    exact write_all_append ha hb

/-- behind a pair and an ampersand, a backslash that source text may not copy comes before a half that is unpaired; markup
may copy the backslash; without the half the text may be cut behind the pair -/
theorem write_by_code_points_backslash :
    (∃ before c, IsFirst (Bad .numeric4 .firstOnly) (codePoints [0xD83D, 0xDE00, 0x26, 0x5C, 0xDC00]) before c ∧
      faultAt .numeric4 (encode before).length c = .introducer 3 '\\') ∧
    SpelledAs .entityHex .firstOnly (codePoints [0xD83D, 0xDE00, 0x5C]) "&#x1F600;\\" ∧
    ∃ s t, write .numeric4 .all [0xD83D, 0xDE00] = .ok s ∧ write .numeric4 .all [0x26, 0x5C] = .ok t ∧
      write .numeric4 .all [0xD83D, 0xDE00, 0x26, 0x5C] = .ok (s ++ t) := by
  have hfault : write .numeric4 .firstOnly [0xD83D, 0xDE00, 0x26, 0x5C, 0xDC00] = .error (.introducer 3 '\\') := rfl
  have hspelled : write .entityHex .firstOnly [0xD83D, 0xDE00, 0x5C] = .ok "&#x1F600;\\" := rfl
  refine ⟨?_, ?_, ?_⟩
  · obtain ⟨before, c, hfirst, hwrite⟩ :=
      (write_by_code_points .numeric4 .firstOnly [0xD83D, 0xDE00, 0x26, 0x5C, 0xDC00]).1 ⟨2, by decide, by decide⟩
    exact ⟨before, c, hfirst, Except.error.inj (hwrite.symm.trans hfault)⟩
  · obtain ⟨s, hs, hwrite⟩ := (write_by_code_points .entityHex .firstOnly [0xD83D, 0xDE00, 0x5C]).2.1 (by decide)
    obtain rfl : s = "&#x1F600;\\" := Except.ok.inj (hwrite.symm.trans hspelled)
    exact hs
  · exact (write_by_code_points .numeric4 .all [0xD83D, 0xDE00, 0x26, 0x5C]).2.2 [0xD83D, 0xDE00] [0x26, 0x5C] rfl
      (by decide) (by decide)

end Escape

end IdentifierText
