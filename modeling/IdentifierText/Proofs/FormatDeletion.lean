/-
Deleting formatting code points one at a time, in any order.

A step takes one formatting code point out of a text (`Deletes`). The text that is left is enumerated afresh, so a step can
join a high and a low half that stood around the deleted code point, and the pair can be a formatting code point again.
Formatting code points are barriers, so a step is a rewriting of units: `a ++ c.units ++ b` becomes `a ++ b`
(`deletes_iff`).

Results:
- `deletes_diamond`: two different steps from one text are followed by one step each to a common text;
- `comparisonForm_normal_form`: steps come to an end, and wherever they end they end at the comparison form, which has no
  formatting code point;
- `comparisonForm_around`: a code point that is neither a surrogate nor for formatting stays, and the texts before it and
  behind it are settled each on its own;
- `comparisonForm_encode`: in a text without unpaired halves one filtering pass gives the comparison form;
- `sameIdentifier_iff`: texts are the same identifier exactly when they have the same comparison form, halves or not.
-/
import Mathlib.Logic.Relation
import IdentifierText.Identifier.ComparisonForm
import IdentifierText.Proofs.Enumeration

namespace IdentifierText.ComparisonForm

open Utf16 Relation

/-! ## Steps -/

/-- one formatting code point of the enumeration is deleted, the units before it and behind it stay -/
def Deletes (text shorter : List UInt16) : Prop :=
  ∃ placed ∈ indexed text, placed.point.category = .format ∧
    shorter = text.take placed.offset ++ text.drop (placed.offset + placed.point.width)

/-- a step in terms of units: the encoding of a formatting code point is cut out -/
theorem deletes_iff {text shorter : List UInt16} :
    Deletes text shorter ↔
      ∃ (a : List UInt16) (c : CodePoint) (b : List UInt16),
        c.category = .format ∧ text = a ++ c.units ++ b ∧ shorter = a ++ b := by
  constructor
  · rintro ⟨placed, hmem, hformat, rfl⟩
    rw [indexed_eq_placeFrom, mem_placeFrom] at hmem
    obtain ⟨before, after, hsplit, hoffset⟩ := hmem
    have htext := eq_of_codePoints_split hsplit
    rw [Nat.zero_add] at hoffset
    refine ⟨encode before, placed.point, encode after, hformat, htext, ?_⟩
    rw [hoffset, htext, List.append_assoc, List.take_left, ← CodePoint.length_units, List.drop_length_add_append,
      List.drop_left]
  · rintro ⟨a, c, b, hformat, rfl, rfl⟩
    have hsplit := codePoints_around (CodePoint.not_isSurrogate_of_format hformat) a b
    refine ⟨⟨a.length, c⟩, ?_, hformat, ?_⟩
    · rw [indexed_eq_placeFrom, mem_placeFrom, hsplit]
      exact ⟨codePoints a, codePoints b, rfl, by rw [encode_codePoints, Nat.zero_add]⟩
    · rw [List.append_assoc, List.take_left, ← CodePoint.length_units, List.drop_length_add_append, List.drop_left]

theorem Deletes.length_lt {text shorter : List UInt16} (h : Deletes text shorter) : shorter.length < text.length := by
  obtain ⟨a, c, b, -, rfl, rfl⟩ := deletes_iff.1 h
  have hw := c.width_pos
  simp only [List.length_append, CodePoint.length_units]
  omega

/-- a step is possible exactly where there is a formatting code point -/
theorem forall_not_deletes_iff {text : List UInt16} :
    (∀ shorter, ¬Deletes text shorter) ↔ ∀ c ∈ codePoints text, c.category ≠ .format := by
  constructor
  · intro h c hc hformat
    obtain ⟨before, after, hsplit⟩ := List.append_of_mem hc
    exact h _ (deletes_iff.2 ⟨encode before, c, encode after, hformat, eq_of_codePoints_split hsplit, rfl⟩)
  · intro h shorter hdel
    obtain ⟨a, c, b, hformat, rfl, rfl⟩ := deletes_iff.1 hdel
    rw [codePoints_around (CodePoint.not_isSurrogate_of_format hformat)] at h
    exact h c (by simp) hformat

/-- no text allows more steps than it has units -/
theorem exists_not_deletes (chain : Nat → List UInt16) :
    ∃ n ≤ (chain 0).length, ¬Deletes (chain n) (chain (n + 1)) := by
  -- on the length of the first text: a step leaves a shorter one, from which the rest of the chain goes on
  induction hlen : (chain 0).length using Nat.strongRecOn generalizing chain with
  | ind length ih =>
    by_cases hfirst : Deletes (chain 0) (chain 1)
    · have hlt : (chain 1).length < length := hlen ▸ hfirst.length_lt
      obtain ⟨n, hn, hstop⟩ := ih _ hlt (fun n => chain (n + 1)) rfl
      exact ⟨n + 1, by omega, hstop⟩
    · exact ⟨0, Nat.zero_le _, hfirst⟩

/-! ## Confluence -/

/-- two cuts of one text, the one at `a` not behind the one at `a'`: they are the same cut, or each can follow the other
because the text between them stays as it is -/
theorem deletes_in_order {a b a' b' : List UInt16} {c c' : CodePoint} {front : List CodePoint} (hc : c.category = .format)
    (hc' : c'.category = .format) (ha' : codePoints a' = codePoints a ++ front)
    (hrest : c :: codePoints b = front ++ c' :: codePoints b') :
    a ++ b = a' ++ b' ∨ ∃ w, Deletes (a ++ b) w ∧ Deletes (a' ++ b') w := by
  rcases List.cons_eq_append_iff.1 hrest with ⟨rfl, hsame⟩ | ⟨between, rfl, hb⟩
  · have ha_eq : a' = a := codePoints_injective (by rw [ha', List.append_nil])
    have hb_eq : b' = b := codePoints_injective (List.cons.inj hsame).2
    exact Or.inl (by rw [ha_eq, hb_eq])
  · have ha_units : a' = a ++ c.units ++ encode between := by
      rw [← encode_codePoints a', ha', encode_append, encode_cons, encode_codePoints, List.append_assoc]
    have hb_units : b = encode between ++ c'.units ++ b' := by
      rw [← encode_codePoints b, hb, encode_append, encode_cons, encode_codePoints, List.append_assoc]
    refine Or.inr ⟨a ++ encode between ++ b', deletes_iff.2 ?_, deletes_iff.2 ?_⟩
    · exact ⟨a ++ encode between, c', b', hc', by simp only [hb_units, List.append_assoc], rfl⟩
    · exact ⟨a, c, encode between ++ b', hc, by simp only [ha_units, List.append_assoc], by rw [List.append_assoc]⟩

/-- **Diamond.** Two steps from one text are the same step, or each can be followed by the other. -/
theorem deletes_diamond {text u v : List UInt16} (hu : Deletes text u) (hv : Deletes text v) :
    u = v ∨ ∃ w, Deletes u w ∧ Deletes v w := by
  obtain ⟨a, c, b, hc, rfl, rfl⟩ := deletes_iff.1 hu
  obtain ⟨a', c', b', hc', htext, rfl⟩ := deletes_iff.1 hv
  -- both cuts are places in the one enumeration of the text
  have hpoints : codePoints a ++ c :: codePoints b = codePoints a' ++ c' :: codePoints b' := by
    rw [← codePoints_around (CodePoint.not_isSurrogate_of_format hc),
      ← codePoints_around (CodePoint.not_isSurrogate_of_format hc'), htext]
  rcases List.append_eq_append_iff.1 hpoints with ⟨front, ha', hrest⟩ | ⟨front, ha, hrest⟩
  · exact deletes_in_order hc hc' ha' hrest
  · rcases deletes_in_order hc' hc ha hrest with heq | ⟨w, hv', hu'⟩
    · exact Or.inl heq.symm
    · exact Or.inr ⟨w, hu', hv'⟩

theorem deletes_confluent {text u v : List UInt16} (hu : ReflTransGen Deletes text u) (hv : ReflTransGen Deletes text v) :
    Join (ReflTransGen Deletes) u v := by
  refine church_rosser (fun _ y z hy hz => ?_) hu hv
  rcases deletes_diamond hy hz with rfl | ⟨w, hyw, hzw⟩
  · exact ⟨y, .refl, .refl⟩
  · exact ⟨w, .single hyw, .single hzw⟩

/-- all ways that cannot be continued end at the same text -/
theorem deletes_unique_end {text u v : List UInt16} (hu : ReflTransGen Deletes text u) (hv : ReflTransGen Deletes text v)
    (hu_end : ∀ w, ¬Deletes u w) (hv_end : ∀ w, ¬Deletes v w) : u = v := by
  obtain ⟨w, huw, hvw⟩ := deletes_confluent hu hv
  have hu_eq : w = u := (ReflTransGen.cases_head huw).elim Eq.symm fun ⟨x, hx, _⟩ => absurd hx (hu_end x)
  have hv_eq : w = v := (ReflTransGen.cases_head hvw).elim Eq.symm fun ⟨x, hx, _⟩ => absurd hx (hv_end x)
  rw [← hu_eq, hv_eq]

/-! ## Rounds -/

/-- what the filter takes out of an encoding can be taken out by steps, whatever stands in front -/
theorem reaches_significant (a : List UInt16) (points : List CodePoint) :
    ReflTransGen Deletes (a ++ encode points) (a ++ encode (significant points)) := by
  -- a code point that stays joins the text in front, hence any `a`
  induction points generalizing a with
  | nil => exact .refl
  | cons c points ih =>
    by_cases hc : c.category = .format
    · have hstep : Deletes (a ++ encode (c :: points)) (a ++ encode points) :=
        deletes_iff.2 ⟨a, c, encode points, hc, by simp, rfl⟩
      have hrest := ih a
      simpa [significant, CodePoint.isFormatting_eq, hc] using ReflTransGen.head hstep hrest
    · simpa [significant, CodePoint.isFormatting_eq, hc] using ih (a ++ c.units)

theorem reaches_dropFormatFrom (first : Nat) (text : List UInt16) :
    ReflTransGen Deletes text (dropFormatFrom first text) := by
  have h := reaches_significant (text.take first) (codePoints (text.drop first))
  rwa [encode_codePoints, List.take_append_drop] at h

theorem firstFormat?_eq_none_iff {text : List UInt16} :
    firstFormat? text = none ↔ ∀ c ∈ codePoints text, c.category ≠ .format := by
  rw [firstFormat?, Option.map_eq_none_iff, List.find?_eq_none, ← map_point_indexed, List.forall_mem_map]
  simp only [CodePoint.isFormatting_eq, decide_eq_true_eq, ne_eq]

/-- rounds are steps, and they go on until none is possible -/
theorem settle_spec (text : List UInt16) :
    ReflTransGen Deletes text (settle text) ∧ ∀ c ∈ codePoints (settle text), c.category ≠ .format := by
  fun_induction settle text with
  | case1 text h => exact ⟨.refl, firstFormat?_eq_none_iff.1 h⟩
  | case2 text first h ih => exact ⟨(reaches_dropFormatFrom first text).trans ih.1, ih.2⟩

theorem comparisonForm?_eq_none_iff {text : List UInt16} :
    comparisonForm? text = none ↔ ∀ c ∈ codePoints text, c.category ≠ .format := by
  rw [comparisonForm?, Option.map_eq_none_iff, firstFormat?_eq_none_iff]

theorem comparisonForm?_eq_some {text : List UInt16} (h : ∃ c ∈ codePoints text, c.category = .format) :
    comparisonForm? text = some (comparisonForm text) := by
  cases hform : comparisonForm? text with
  | none =>
    obtain ⟨c, hc, hformat⟩ := h
    exact absurd hformat (comparisonForm?_eq_none_iff.1 hform c hc)
  | some form => rw [comparisonForm, hform, Option.getD_some]

theorem comparisonForm_eq_settle (text : List UInt16) : comparisonForm text = settle text := by
  rw [comparisonForm, comparisonForm?, settle]
  split
  · rename_i h; rw [h]; rfl
  · rename_i first h; rw [h]; rfl

theorem comparisonForm_spec (text : List UInt16) :
    ReflTransGen Deletes text (comparisonForm text) ∧ ∀ c ∈ codePoints (comparisonForm text), c.category ≠ .format := by
  rw [comparisonForm_eq_settle]
  exact settle_spec text

/-- wherever steps end, they end at the comparison form -/
theorem eq_comparisonForm {text last : List UInt16} (h : ReflTransGen Deletes text last)
    (hlast : ∀ c ∈ codePoints last, c.category ≠ .format) : last = comparisonForm text := by
  rw [comparisonForm_eq_settle]
  exact deletes_unique_end h (settle_spec text).1 (forall_not_deletes_iff.2 hlast)
    (forall_not_deletes_iff.2 (settle_spec text).2)

/-- nothing is left to delete in a comparison form -/
theorem comparisonForm_comparisonForm (text : List UInt16) : comparisonForm (comparisonForm text) = comparisonForm text :=
  (eq_comparisonForm .refl (comparisonForm_spec text).2).symm

/-- **The comparison form is the one normal form of deletion.** No chain of steps from a text goes on for ever. The
comparison form is at the end of one, has no formatting code point, and is where every chain ends that cannot be
continued, whatever the order of its steps. -/
theorem comparisonForm_normal_form (text : List UInt16) :
    (∀ chain : Nat → List UInt16, chain 0 = text → ∃ n ≤ text.length, ¬Deletes (chain n) (chain (n + 1))) ∧
    ReflTransGen Deletes text (comparisonForm text) ∧
    (∀ c ∈ codePoints (comparisonForm text), c.category ≠ .format) ∧
    ∀ last, ReflTransGen Deletes text last → (∀ shorter, ¬Deletes last shorter) → last = comparisonForm text := by
  refine ⟨?_, ?_, ?_, ?_⟩
  · rintro chain rfl
    exact exists_not_deletes chain
  · rw [comparisonForm_eq_settle]
    exact (settle_spec text).1
  · rw [comparisonForm_eq_settle]
    exact (settle_spec text).2
  · intro last h hlast
    exact eq_comparisonForm h (forall_not_deletes_iff.1 hlast)

/-- two code points deleted from inside out: the second one is a pair that the first deletion joins -/
example : comparisonForm [0x61, 0xDB40, 0xAD, 0xDC01] = [0x61] := by decide +kernel

/-! ## Texts in a row -/

theorem Deletes.append_right {text shorter : List UInt16} (h : Deletes text shorter) (behind : List UInt16) :
    Deletes (text ++ behind) (shorter ++ behind) := by
  obtain ⟨a, c, b, hformat, rfl, rfl⟩ := deletes_iff.1 h
  exact deletes_iff.2 ⟨a, c, b ++ behind, hformat, by simp only [List.append_assoc], List.append_assoc a b behind⟩

theorem Deletes.append_left {text shorter : List UInt16} (h : Deletes text shorter) (front : List UInt16) :
    Deletes (front ++ text) (front ++ shorter) := by
  obtain ⟨a, c, b, hformat, rfl, rfl⟩ := deletes_iff.1 h
  exact deletes_iff.2
    ⟨front ++ a, c, b, hformat, by simp only [List.append_assoc], (List.append_assoc front a b).symm⟩

/-- steps in one of two texts in a row do not need the other -/
theorem reaches_append {a a' b b' : List UInt16} (ha : ReflTransGen Deletes a a') (hb : ReflTransGen Deletes b b') :
    ReflTransGen Deletes (a ++ b) (a' ++ b') :=
  (ReflTransGen.lift (· ++ b) (fun _ _ h => h.append_right b) _ _ ha).trans
    (ReflTransGen.lift (a' ++ ·) (fun _ _ h => h.append_left a') _ _ hb)

/-- in the parts of a text without formatting code points there is none either -/
theorem forall_category_ne_of_append {a b : List UInt16} (h : ∀ c ∈ codePoints (a ++ b), c.category ≠ .format) :
    (∀ c ∈ codePoints a, c.category ≠ .format) ∧ ∀ c ∈ codePoints b, c.category ≠ .format := by
  simp only [← forall_not_deletes_iff] at h ⊢
  exact ⟨fun shorter ha => h _ (ha.append_right b), fun shorter hb => h _ (hb.append_left a)⟩

/-- **A barrier to deletion.** A code point that is neither a surrogate nor for formatting stays where it is. No round joins
units across it. -/
theorem comparisonForm_around {c : CodePoint} (hc : ¬c.IsSurrogate) (hformat : c.category ≠ .format)
    (a b : List UInt16) :
    comparisonForm (a ++ c.units ++ b) = comparisonForm a ++ c.units ++ comparisonForm b := by
  obtain ⟨ha, ha_end⟩ := comparisonForm_spec a
  obtain ⟨hb, hb_end⟩ := comparisonForm_spec b
  have hreach := reaches_append (reaches_append ha (ReflTransGen.refl (a := c.units))) hb
  refine (eq_comparisonForm hreach fun d hd => ?_).symm
  rw [codePoints_around hc, List.mem_append, List.mem_cons] at hd
  rcases hd with hd | rfl | hd
  · exact ha_end d hd
  · exact hformat
  · exact hb_end d hd

/-! ## Texts without unpaired halves -/

theorem not_isSurrogate_significant {points : List CodePoint} (h : ∀ c ∈ points, ¬c.IsSurrogate) :
    ∀ c ∈ significant points, ¬c.IsSurrogate :=
  fun c hc => h c (List.mem_filter.1 hc).1

/-- one filtering pass is enough, because no two halves can meet -/
theorem comparisonForm_encode {points : List CodePoint} (h : ∀ c ∈ points, ¬c.IsSurrogate) :
    comparisonForm (encode points) = encode (significant points) := by
  refine (eq_comparisonForm (reaches_significant [] points) fun c hc => ?_).symm
  rw [List.nil_append, codePoints_encode (not_isSurrogate_significant h)] at hc
  simpa [CodePoint.isFormatting_eq] using (List.mem_filter.1 hc).2

theorem codePoints_encode_significant {text : List UInt16} (h : hasUnpaired text = false) :
    codePoints (encode (significant (codePoints text))) = significant (codePoints text) :=
  codePoints_encode (not_isSurrogate_significant (not_isSurrogate_of_not_hasUnpaired h))

theorem comparisonForm_of_not_hasUnpaired {text : List UInt16} (h : hasUnpaired text = false) :
    comparisonForm text = encode (significant (codePoints text)) := by
  have hform := comparisonForm_encode (not_isSurrogate_of_not_hasUnpaired h)
  rwa [encode_codePoints] at hform

theorem codePoints_comparisonForm_of_not_hasUnpaired {text : List UInt16} (h : hasUnpaired text = false) :
    codePoints (comparisonForm text) = significant (codePoints text) := by
  rw [comparisonForm_of_not_hasUnpaired h, codePoints_encode_significant h]

/-- comparing code point by code point is comparing what is left of the texts -/
theorem sameIdentifier_eq_decide (a b : List UInt16) :
    sameIdentifier a b = decide (comparisonForm a = comparisonForm b) := by
  unfold sameIdentifier
  split
  · rfl
  · rename_i hpaired
    simp only [Bool.or_eq_true, not_or, Bool.not_eq_true] at hpaired
    rw [← codePoints_comparisonForm_of_not_hasUnpaired hpaired.1, ← codePoints_comparisonForm_of_not_hasUnpaired hpaired.2]
    exact decide_eq_decide.2 codePoints_injective.eq_iff

/-- a text is the same identifier as its comparison form -/
theorem sameIdentifier_comparisonForm (text : List UInt16) : sameIdentifier text (comparisonForm text) = true := by
  rw [sameIdentifier_eq_decide, comparisonForm_comparisonForm]
  exact decide_eq_true rfl

/-- **Equality is equality of comparison forms**, for texts with and without unpaired halves in any combination. -/
theorem sameIdentifier_iff (a b : List UInt16) : sameIdentifier a b = true ↔ comparisonForm a = comparisonForm b := by
  rw [sameIdentifier_eq_decide, decide_eq_true_iff]

end IdentifierText.ComparisonForm
