/-
Where the enumeration of a text may be cut.

Enumerating looks one unit ahead, so the code points of two texts in a row are those of the one and then those of the
other, unless a high half ends the first and a low half starts the second (`codePoints_append`). A code point that is no
surrogate starts with no low half and ends with no high half. It is a barrier: wherever its units stand in a text they are
enumerated as that code point, and what is before them and behind them is enumerated on its own (`codePoints_around`).

Surrogates are code points of their own as well, so a list can name halves that its encoding joins. An enumeration never
names such halves (`halvesApart_codePoints`), and lists without them are read back from their encoding
(`codePoints_encode_of_halvesApart`): enumerating and encoding are inverse just as far as that (`enumeration_inverse`).
-/
import Mathlib.Data.List.Chain
import IdentifierText.Utf16.Text

namespace IdentifierText

open Utf16

/-! ## Units of a code point -/

namespace CodePoint

/-- the units of an astral code point are the two halves that are read as it -/
theorem exists_halves {c : CodePoint} (h : c.IsAstral) :
    ∃ high low, c.units = [high, low] ∧ ofPair? high low = some c := by
  refine ⟨.ofNat (0xD800 + (c.val - 0x10000) / 0x400), .ofNat (0xDC00 + (c.val - 0x10000) % 0x400), ?_, ?_⟩
  · simp [units, pair?, h]
  · have hmax := c.le_max
    unfold IsAstral at h
    rw [ofPair?_eq_some_iff]
    simp only [IsHigh, IsLow, UInt16.toNat_ofNat']
    omega

theorem units_of_not_isAstral {c : CodePoint} (h : ¬c.IsAstral) : c.units = [.ofNat c.val] := by
  simp [units, pair?, h]

theorem IsAstral.not_isSurrogate {c : CodePoint} (h : c.IsAstral) : ¬c.IsSurrogate := by
  unfold IsAstral IsSurrogate at *
  omega

theorem units_of_isSurrogate {c : CodePoint} (h : c.IsSurrogate) : c.units = [.ofNat c.val] :=
  units_of_not_isAstral fun hastral => hastral.not_isSurrogate h

theorem isAstral_of_ofPair? {u v : UInt16} {c : CodePoint} (h : ofPair? u v = some c) : c.IsAstral := by
  have hval := (ofPair?_eq_some_iff.1 h).2.2
  unfold IsAstral
  omega

theorem toNat_ofNat_val {c : CodePoint} (h : ¬c.IsAstral) : (UInt16.ofNat c.val).toNat = c.val := by
  unfold IsAstral at h
  rw [UInt16.toNat_ofNat']
  omega

theorem units_ne_nil (c : CodePoint) : c.units ≠ [] := by
  intro h
  have hw := c.width_pos
  rw [← length_units, h] at hw
  exact absurd hw (Nat.lt_irrefl 0)

@[simp] theorem codePoints_units (c : CodePoint) : codePoints c.units = [c] := by
  by_cases h : c.IsAstral
  · obtain ⟨high, low, hunits, hpair⟩ := exists_halves h
    simp [hunits, codePoints, hpair]
  · have hc : ofUnit (.ofNat c.val) = c := CodePoint.ext (toNat_ofNat_val h)
    simp [units_of_not_isAstral h, codePoints, hc]

theorem not_isSurrogate_ofChar (c : Char) : ¬(ofChar c).IsSurrogate := by
  have hvalid := c.valid
  simp only [UInt32.isValidChar, Nat.isValidChar] at hvalid
  simp only [IsSurrogate, val_ofChar, Char.toNat]
  omega

def IsHighHalf (c : CodePoint) : Prop :=
  0xD800 ≤ c.val ∧ c.val ≤ 0xDBFF

def IsLowHalf (c : CodePoint) : Prop :=
  0xDC00 ≤ c.val ∧ c.val ≤ 0xDFFF

theorem IsHighHalf.isSurrogate {c : CodePoint} (h : c.IsHighHalf) : c.IsSurrogate := by
  unfold IsHighHalf IsSurrogate at *
  omega

theorem IsLowHalf.isSurrogate {c : CodePoint} (h : c.IsLowHalf) : c.IsSurrogate := by
  unfold IsLowHalf IsSurrogate at *
  omega

/-- only a low half starts with one -/
theorem isLow_iff_of_head {c : CodePoint} {u : UInt16} (hu : u ∈ c.units.head?) : IsLow u ↔ c.IsLowHalf := by
  by_cases h : c.IsAstral
  · obtain ⟨high, low, hunits, hpair⟩ := exists_halves h
    rw [hunits, List.head?_cons, Option.mem_some_iff] at hu
    have hnot : ¬IsLow u := hu ▸ (ofPair?_eq_some_iff.1 hpair).1.not_low
    unfold IsAstral IsLowHalf at *
    exact iff_of_false hnot (by omega)
  · rw [units_of_not_isAstral h, List.head?_cons, Option.mem_some_iff] at hu
    rw [IsLow, IsLowHalf, ← hu, toNat_ofNat_val h]

/-- only a high half ends with one -/
theorem isHigh_iff_of_getLast {c : CodePoint} {u : UInt16} (hu : u ∈ c.units.getLast?) : IsHigh u ↔ c.IsHighHalf := by
  by_cases h : c.IsAstral
  · obtain ⟨high, low, hunits, hpair⟩ := exists_halves h
    rw [hunits, List.getLast?_cons_cons, List.getLast?_singleton, Option.mem_some_iff] at hu
    have hnot : ¬IsHigh u := fun hhigh => hhigh.not_low (hu ▸ (ofPair?_eq_some_iff.1 hpair).2.1)
    unfold IsAstral IsHighHalf at *
    exact iff_of_false hnot (by omega)
  · rw [units_of_not_isAstral h, List.getLast?_singleton, Option.mem_some_iff] at hu
    rw [IsHigh, IsHighHalf, ← hu, toNat_ofNat_val h]

/-- a code point that is no surrogate does not start with a low half -/
theorem not_isLow_of_head {c : CodePoint} (hc : ¬c.IsSurrogate) {u : UInt16} (hu : u ∈ c.units.head?) : ¬IsLow u :=
  fun hlow => hc ((isLow_iff_of_head hu).1 hlow).isSurrogate

/-- a code point that is no surrogate does not end with a high half -/
theorem not_isHigh_of_getLast {c : CodePoint} (hc : ¬c.IsSurrogate) {u : UInt16} (hu : u ∈ c.units.getLast?) :
    ¬IsHigh u :=
  fun hhigh => hc ((isHigh_iff_of_getLast hu).1 hhigh).isSurrogate

end CodePoint

namespace Utf16

/-! ## Texts in a row -/

/-- no pair forms where the first text ends and the second starts -/
def Apart (a b : List UInt16) : Prop :=
  ∀ u ∈ a.getLast?, ∀ v ∈ b.head?, ¬(IsHigh u ∧ IsLow v)

theorem Apart.of_cons {u : UInt16} {a b : List UInt16} (h : Apart (u :: a) b) : Apart a b := by
  intro x hx
  refine h x ?_
  cases a with
  | nil => cases hx
  | cons v a => rwa [List.getLast?_cons_cons]

/-- **Enumerating part by part.** Texts that no pair joins are enumerated one after the other. -/
theorem codePoints_append {a b : List UInt16} (h : Apart a b) : codePoints (a ++ b) = codePoints a ++ codePoints b := by
  fun_induction codePoints a with
  | case1 => rfl
  | case2 u =>
    cases b with
    | nil => rfl
    | cons v b =>
      have hp : CodePoint.ofPair? u v = none := by
        have hno : ¬(IsHigh u ∧ IsLow v) := h u (by simp) v (by simp)
        simp [CodePoint.ofPair?, hno]
      simp [codePoints, hp]
  | case3 u v a c hp ih => simp [codePoints, hp, ih h.of_cons.of_cons]
  | case4 u v a hp ih => simpa [codePoints, hp] using ih h.of_cons

/-- a unit that makes up no pair with what follows is enumerated alone -/
theorem codePoints_cons_of_apart {u : UInt16} {text : List UInt16} (h : Apart [u] text) :
    codePoints (u :: text) = .ofUnit u :: codePoints text := by
  simpa [codePoints] using codePoints_append h

/-- **A barrier.** The units of a code point that is no surrogate are enumerated as that code point in any place, and what
stands around them as if it stood alone. -/
theorem codePoints_around {c : CodePoint} (hc : ¬c.IsSurrogate) (a b : List UInt16) :
    codePoints (a ++ c.units ++ b) = codePoints a ++ c :: codePoints b := by
  have hleft : Apart a c.units := fun _ _ v hv hp => CodePoint.not_isLow_of_head hc hv hp.2
  have hright : Apart (a ++ c.units) b := by
    intro u hu v _ hp
    have hlast : c.units.getLast?.isSome := by simp [c.units_ne_nil]
    rw [List.getLast?_append, Option.or_of_isSome hlast] at hu
    exact CodePoint.not_isHigh_of_getLast hc hu hp.1
  rw [codePoints_append hright, codePoints_append hleft, CodePoint.codePoints_units]
  simp

/-- a place in the enumeration is a place in the units -/
theorem eq_of_codePoints_split {text : List UInt16} {before after : List CodePoint} {c : CodePoint}
    (h : codePoints text = before ++ c :: after) : text = encode before ++ c.units ++ encode after := by
  rw [← encode_codePoints text, h, encode_append, encode_cons, List.append_assoc]

/-- texts with the same code points are the same -/
theorem codePoints_injective : Function.Injective codePoints :=
  Function.LeftInverse.injective encode_codePoints

theorem codePoints_eq_nil_iff {text : List UInt16} : codePoints text = [] ↔ text = [] := by
  constructor
  · intro h
    rw [← encode_codePoints text, h, encode_nil]
  · rintro rfl
    rfl

theorem not_isSurrogate_of_not_hasUnpaired {text : List UInt16} (h : hasUnpaired text = false) :
    ∀ c ∈ codePoints text, ¬c.IsSurrogate := by
  simpa [hasUnpaired] using h

/-! ## Enumerating an encoding -/

/-- no high half stands directly before a low half -/
def HalvesApart (points : List CodePoint) : Prop :=
  points.IsChain fun c d => ¬(c.IsHighHalf ∧ d.IsLowHalf)

/-- the first code point of a text starts with the first unit of the text -/
theorem head?_units_of_codePoints_cons {v : UInt16} {text : List UInt16} {c : CodePoint}
    (hc : c ∈ (codePoints (v :: text)).head?) : v ∈ c.units.head? := by
  obtain ⟨points, hpoints⟩ := List.head?_eq_some_iff.1 hc
  have htext := encode_codePoints (v :: text)
  rw [hpoints, encode_cons] at htext
  rcases List.append_eq_cons_iff.1 htext with ⟨hnil, -⟩ | ⟨units, hunits, -⟩
  · exact absurd hnil c.units_ne_nil
  · simp [hunits]

/-- the halves in an enumeration are unpaired, so a high one never meets a low one -/
theorem halvesApart_codePoints (text : List UInt16) : HalvesApart (codePoints text) := by
  unfold HalvesApart
  fun_induction codePoints text with
  | case1 => exact .nil
  | case2 u => exact .singleton _
  | case3 u v text c hpair ih =>
    refine ih.cons fun d _ hmeet => ?_
    have hastral := (CodePoint.ofPair?_eq_some_iff.1 hpair).2.2
    have hhigh := hmeet.1
    unfold CodePoint.IsHighHalf at hhigh
    omega
  | case4 u v text hpair ih =>
    refine ih.cons fun d hd hmeet => ?_
    have hhigh : IsHigh u := hmeet.1
    have hlow : IsLow v := (CodePoint.isLow_iff_of_head (head?_units_of_codePoints_cons hd)).2 hmeet.2
    simp [CodePoint.ofPair?, hhigh, hlow] at hpair

/-- encodings are apart where no high half stands directly before a low half -/
theorem apart_encode_iff {points others : List CodePoint} :
    Apart (encode points) (encode others) ↔
      ∀ c ∈ points.getLast?, ∀ d ∈ others.head?, ¬(c.IsHighHalf ∧ d.IsLowHalf) := by
  rcases List.eq_nil_or_concat points with rfl | ⟨front, c, rfl⟩
  · simp [Apart]
  · cases others with
    | nil => simp [Apart]
    | cons d back =>
      have hlast : c.units.getLast? = some (c.units.getLast c.units_ne_nil) := List.getLast?_eq_some_getLast _
      have hhead : d.units.head? = some (d.units.head d.units_ne_nil) := List.head?_eq_some_head _
      have hhigh := CodePoint.isHigh_iff_of_getLast hlast
      have hlow := CodePoint.isLow_iff_of_head hhead
      simp [Apart, hlast, hhead, hhigh, hlow]

/-- the parts of a list without such neighbours have none either, and their encodings are apart -/
theorem halvesApart_append_iff {points others : List CodePoint} :
    HalvesApart (points ++ others) ↔
      HalvesApart points ∧ HalvesApart others ∧ Apart (encode points) (encode others) := by
  rw [apart_encode_iff]
  exact List.isChain_append

/-- **What an encoding keeps.** Code points are read back from their encoding if no high half stands directly before a low
half. -/
theorem codePoints_encode_of_halvesApart {points : List CodePoint} (h : HalvesApart points) :
    codePoints (encode points) = points := by
  induction points with
  | nil => rfl
  | cons c points ih =>
    rw [← List.singleton_append] at h ⊢
    obtain ⟨-, htail, hapart⟩ := halvesApart_append_iff.1 h
    rw [encode_append, codePoints_append hapart, ih htail, encode_cons, encode_nil, List.append_nil,
      CodePoint.codePoints_units]

/-- **Cutting an enumeration.** Each part is the enumeration of its own units, and no pair would form where they meet. -/
theorem cut_codePoints {text : List UInt16} {before after : List CodePoint} (h : codePoints text = before ++ after) :
    codePoints (encode before) = before ∧ codePoints (encode after) = after ∧ Apart (encode before) (encode after) := by
  have hchain : HalvesApart (before ++ after) := h ▸ halvesApart_codePoints text
  obtain ⟨hbefore, hafter, hapart⟩ := halvesApart_append_iff.1 hchain
  exact ⟨codePoints_encode_of_halvesApart hbefore, codePoints_encode_of_halvesApart hafter, hapart⟩

/-- code points without surrogates among them are read back from their encoding -/
theorem codePoints_encode {points : List CodePoint} (h : ∀ c ∈ points, ¬c.IsSurrogate) :
    codePoints (encode points) = points := by
  refine codePoints_encode_of_halvesApart (List.isChain_iff_forall_rel_of_append_cons_cons.2 ?_)
  rintro c d before after rfl ⟨hhigh, -⟩
  exact h c (by simp) hhigh.isSurrogate

/-- **Enumerating and encoding are inverse.** Encoding the code points of a text gives the text, whether or not halves in it
are paired. Enumerating the encoding of code points gives them back exactly when none of them is a high half with a low half
directly behind it. -/
theorem enumeration_inverse :
    (∀ text, encode (codePoints text) = text) ∧
    ∀ points, codePoints (encode points) = points ↔
      ¬∃ before high low after, points = before ++ high :: low :: after ∧ high.IsHighHalf ∧ low.IsLowHalf := by
  refine ⟨encode_codePoints, fun points => ⟨fun h => ?_, fun h => ?_⟩⟩
  · rintro ⟨before, high, low, after, hsplit, hmeet⟩
    have hapart := halvesApart_codePoints (encode points)
    rw [h] at hapart
    exact List.isChain_iff_forall_rel_of_append_cons_cons.1 hapart hsplit hmeet
  · refine codePoints_encode_of_halvesApart (List.isChain_iff_forall_rel_of_append_cons_cons.2 ?_)
    intro high low before after hsplit hmeet
    exact h ⟨before, high, low, after, hsplit, hmeet⟩

/-- two halves in a list become one code point in its encoding -/
example : codePoints (encode [⟨0xD83D, by decide⟩, ⟨0xDE00, by decide⟩]) = [⟨0x1F600, by decide⟩] := by
  decide

/-! ## Positions -/

/-- positions in a row go on behind the units of what stands in front -/
theorem placeFrom_append (start : Nat) (before after : List CodePoint) :
    placeFrom start (before ++ after) = placeFrom start before ++ placeFrom (start + (encode before).length) after := by
  induction before generalizing start with
  | nil => rfl
  | cons c before ih =>
    rw [List.cons_append, placeFrom, placeFrom, ih, encode_cons, List.length_append, CodePoint.length_units,
      Nat.add_assoc, List.cons_append]

theorem map_point_placeFrom (start : Nat) (points : List CodePoint) : (placeFrom start points).map (·.point) = points := by
  induction points generalizing start with
  | nil => rfl
  | cons c points ih => rw [placeFrom, List.map_cons, ih]

theorem length_placeFrom (start : Nat) (points : List CodePoint) : (placeFrom start points).length = points.length := by
  rw [← List.length_map (·.point), map_point_placeFrom]

/-- placed code points start with the first one, and the others are behind its units -/
theorem placeFrom_eq_cons_iff {start : Nat} {points : List CodePoint} {placed : Placed} {back : List Placed} :
    placeFrom start points = placed :: back ↔
      ∃ after, points = placed.point :: after ∧ placed.offset = start ∧
        back = placeFrom (start + placed.point.width) after := by
  cases points with
  | nil => simp [placeFrom]
  | cons c points =>
    rw [placeFrom, List.cons.injEq]
    constructor
    · rintro ⟨rfl, rfl⟩
      exact ⟨points, rfl, rfl, rfl⟩
    · rintro ⟨after, hcons, hoffset, rfl⟩
      obtain ⟨rfl, rfl⟩ := List.cons.inj hcons
      exact ⟨by rw [← hoffset], rfl⟩

/-- a cut of placed code points is a cut of the code points -/
theorem placeFrom_eq_append_iff {start : Nat} {points : List CodePoint} {front back : List Placed} :
    placeFrom start points = front ++ back ↔
      ∃ before after, points = before ++ after ∧ front = placeFrom start before ∧
        back = placeFrom (start + (encode before).length) after := by
  constructor
  · intro h
    have hpoints : points = front.map (·.point) ++ back.map (·.point) := by
      rw [← List.map_append, ← h, map_point_placeFrom]
    have hlength : (placeFrom start (front.map (·.point))).length = front.length := by
      rw [length_placeFrom, List.length_map]
    rw [hpoints, placeFrom_append] at h
    obtain ⟨hfront, hback⟩ := List.append_inj h hlength
    exact ⟨_, _, hpoints, hfront.symm, hback.symm⟩
  · rintro ⟨before, after, rfl, rfl, rfl⟩
    exact placeFrom_append start before after

/-- the placed code points of a list are its members, each behind the units of those before it -/
theorem mem_placeFrom {start : Nat} {points : List CodePoint} {placed : Placed} :
    placed ∈ placeFrom start points ↔
      ∃ before after, points = before ++ placed.point :: after ∧ placed.offset = start + (encode before).length := by
  constructor
  · intro h
    obtain ⟨front, back, hsplit⟩ := List.append_of_mem h
    obtain ⟨before, rest, rfl, -, hrest⟩ := placeFrom_eq_append_iff.1 hsplit
    obtain ⟨after, rfl, hoffset, -⟩ := placeFrom_eq_cons_iff.1 hrest.symm
    exact ⟨before, after, rfl, hoffset⟩
  · rintro ⟨before, after, rfl, hoffset⟩
    rw [placeFrom_append, placeFrom, ← hoffset]
    exact List.mem_append_right _ List.mem_cons_self

/-- the first code point with a property splits the list, and its position counts the units in front of it -/
theorem find?_placeFrom_eq_some_iff {p : CodePoint → Bool} {start : Nat} {points : List CodePoint} {placed : Placed} :
    (placeFrom start points).find? (p ·.point) = some placed ↔
      ∃ before after, points = before ++ placed.point :: after ∧ placed.offset = start + (encode before).length ∧
        p placed.point = true ∧ ∀ c ∈ before, p c = false := by
  rw [List.find?_eq_some_iff_append]
  constructor
  · rintro ⟨hp, front, back, hsplit, hfront⟩
    obtain ⟨before, rest, rfl, rfl, hrest⟩ := placeFrom_eq_append_iff.1 hsplit
    obtain ⟨after, rfl, hoffset, -⟩ := placeFrom_eq_cons_iff.1 hrest.symm
    refine ⟨before, after, rfl, hoffset, hp, ?_⟩
    rw [← map_point_placeFrom start before, List.forall_mem_map]
    simpa using hfront
  · rintro ⟨before, after, rfl, hoffset, hp, hbefore⟩
    rw [← map_point_placeFrom start before, List.forall_mem_map] at hbefore
    refine ⟨hp, placeFrom start before, placeFrom (placed.offset + placed.point.width) after, ?_, ?_⟩
    · rw [placeFrom_append, placeFrom, ← hoffset]
    · simpa using hbefore

theorem indexed_eq_placeFrom (text : List UInt16) : indexed text = placeFrom 0 (codePoints text) :=
  indexedFrom_eq_placeFrom 0 text

theorem map_point_indexed (text : List UInt16) : (indexed text).map (·.point) = codePoints text := by
  rw [indexed_eq_placeFrom, map_point_placeFrom]

end Utf16

end IdentifierText
