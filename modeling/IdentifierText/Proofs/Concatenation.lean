/-
Texts in a row: the verdict on them, and their comparison form.

Where one text ends and the next starts, a high half and a low half can make up a code point that neither text has.
Nothing else happens there. So the first offence in a text stays the first offence whatever is put behind the text,
unless it is a high half at the very end that gets its partner. A text without an offence has no half at its end, and
what is put behind it is judged as the rest of an identifier.

Deletion can bring two halves together that stand far apart, and the code point that they make up can be deleted in
turn. As it may be done in any order, the texts can be settled first, each on its own.

Results:
- `codePoints_append_of_split`: a code point stays in its place when a text is continued, unless it is a high half at
  the end;
- `ofText_append`: the verdict on two texts in a row, from the verdict on the first and the code points of the second;
- `comparisonForm_append_eq_iff`: the comparison form of two texts in a row is that of the one and then that of the
  other, unless a formatting code point forms where these meet;
- `comparisonForm_append`: it depends on the two comparison forms only, and so does being the same identifier.
-/
import IdentifierText.Proofs.FormatDeletion
import IdentifierText.Proofs.IdentifierRules

namespace IdentifierText

open Utf16

/-! ## Enumerating a continued text -/

namespace Utf16

theorem getLast?_encode_concat (points : List CodePoint) (c : CodePoint) :
    (encode (points ++ [c])).getLast? = c.units.getLast? := by
  rw [encode_append, encode_cons, encode_nil, List.append_nil, List.getLast?_append_of_ne_nil _ c.units_ne_nil]

/-- **Continuing a text.** A code point of a text stays, and so do those before it, unless it is a high half at the end
of the text and a low half is put behind it. -/
theorem codePoints_append_of_split {a b : List UInt16} {before after : List CodePoint} {c : CodePoint}
    (hsplit : codePoints a = before ++ c :: after)
    (hopen : ¬(c.IsHighHalf ∧ after = [] ∧ ∃ low ∈ b.head?, IsLow low)) :
    codePoints (a ++ b) = before ++ c :: codePoints (encode after ++ b) := by
  obtain ⟨hfront, -, hcut⟩ := cut_codePoints (hsplit.trans (List.append_cons before c after))
  have hunits : a ++ b = encode (before ++ [c]) ++ (encode after ++ b) := by
    simp only [eq_of_codePoints_split hsplit, encode_append, encode_cons, encode_nil, List.append_nil,
      List.append_assoc]
  -- what is put behind matters only if `c` was the last code point
  have hapart : Apart (encode (before ++ [c])) (encode after ++ b) := by
    cases after with
    | nil =>
      rintro u hu v hv ⟨hhigh, hlow⟩
      rw [getLast?_encode_concat] at hu
      exact hopen ⟨(CodePoint.isHigh_iff_of_getLast hu).1 hhigh, rfl, v, hv, hlow⟩
    | cons d after =>
      intro u hu v hv
      rw [encode_cons, List.append_assoc, List.head?_append_of_ne_nil _ d.units_ne_nil] at hv
      exact hcut u hu v (by rwa [encode_cons, List.head?_append_of_ne_nil _ d.units_ne_nil])
  calc codePoints (a ++ b) = codePoints (encode (before ++ [c]) ++ (encode after ++ b)) := by rw [hunits]
    _ = codePoints (encode (before ++ [c])) ++ codePoints (encode after ++ b) := codePoints_append hapart
    _ = before ++ c :: codePoints (encode after ++ b) := by rw [hfront, List.append_assoc, List.singleton_append]

end Utf16

/-! ## Verdicts -/

namespace Verdict

theorem obeys_append_iff {before points : List CodePoint} (hne : before ≠ []) :
    Obeys (before ++ points) ↔ Obeys before ∧ ∀ c ∈ points, c.MayContinue := by
  obtain ⟨first, rest, rfl⟩ := List.exists_cons_of_ne_nil hne
  simp only [Obeys, List.cons_append, List.forall_mem_append, and_assoc]

/-- behind code points that obey the rules no half waits for its partner -/
theorem codePoints_append_of_obeys {a : List UInt16} (h : Obeys (codePoints a)) (b : List UInt16) :
    codePoints (a ++ b) = codePoints a ++ codePoints b := by
  rcases List.eq_nil_or_concat (codePoints a) with hnil | ⟨before, c, hlast⟩
  · rw [codePoints_eq_nil_iff.1 hnil]
    rfl
  · rw [List.concat_eq_append] at hlast
    have hc : ¬c.IsSurrogate := h.not_isSurrogate c (by rw [hlast]; simp)
    rw [codePoints_append_of_split hlast fun hopen => hc hopen.1.isSurrogate, hlast, encode_nil, List.nil_append,
      List.append_assoc, List.singleton_append]

/-- **Rejection is final.** A text that is rejected is rejected in the same way when it is continued, unless it was
rejected for a high half at its end, which now gets its partner. -/
theorem ofText_append_of_rejected {a b : List UInt16} (hempty : ofText a ≠ .empty) (hvalid : ofText a ≠ .valid)
    (hopen : ∀ offset half, ofText a = .unpaired offset half →
      ¬(IsHigh half ∧ offset + 1 = a.length ∧ ∃ low ∈ b.head?, IsLow low)) :
    ofText (a ++ b) = ofText a := by
  rcases ofText_cases a with ⟨-, he⟩ | ⟨-, -, hv⟩ | ⟨before, c, after, hsplit, hbefore, hc, hoffence⟩
  · exact absurd he hempty
  · exact absurd hv hvalid
  · rw [hoffence]
    refine ofText_of_offence (codePoints_append_of_split hsplit ?_) hbefore hc
    rintro ⟨hhigh, rfl, hlow⟩
    have hs : c.IsSurrogate := hhigh.isSurrogate
    rw [offence, if_pos hs] at hoffence
    refine hopen _ _ hoffence ⟨?_, ?_, hlow⟩
    · have hval : (UInt16.ofNat c.val).toNat = c.val := CodePoint.toNat_ofNat_val fun h => h.not_isSurrogate hs
      rwa [IsHigh, hval]
    · rw [eq_of_codePoints_split hsplit, CodePoint.units_of_isSurrogate hs]
      simp

/-- a valid text stays valid in front of code points that may continue an identifier -/
theorem ofText_append_of_forall {a b : List UInt16} (ha : ofText a = .valid) (hb : ∀ c ∈ codePoints b, c.MayContinue) :
    ofText (a ++ b) = .valid := by
  obtain ⟨hne, hobeys⟩ := obeys_of_valid ha
  have hpoints : codePoints a ≠ [] := mt codePoints_eq_nil_iff.1 hne
  refine ofText_of_obeys (List.append_ne_nil_of_left_ne_nil hne b) ?_
  rw [codePoints_append_of_obeys hobeys]
  exact (obeys_append_iff hpoints).2 ⟨hobeys, hb⟩

/-- behind a valid text the first code point that may not continue an identifier is reported -/
theorem ofText_append_of_not_mayContinue {a b : List UInt16} {before after : List CodePoint} {c : CodePoint}
    (ha : ofText a = .valid) (hsplit : codePoints b = before ++ c :: after) (hbefore : ∀ d ∈ before, d.MayContinue)
    (hc : ¬c.MayContinue) :
    ofText (a ++ b) =
      if c.IsSurrogate then .unpaired (a.length + (encode before).length) (.ofNat c.val)
      else .badPart (a.length + (encode before).length) c := by
  obtain ⟨hne, hobeys⟩ := obeys_of_valid ha
  have hpoints : codePoints a ≠ [] := mt codePoints_eq_nil_iff.1 hne
  have hfront : codePoints a ++ before ≠ [] := List.append_ne_nil_of_left_ne_nil hpoints before
  have hkept : Obeys (codePoints a ++ before) := (obeys_append_iff hpoints).2 ⟨hobeys, hbefore⟩
  have hbroken : ¬Obeys (codePoints a ++ before ++ [c]) := fun h =>
    hc (((obeys_append_iff hfront).1 h).2 c (List.mem_singleton_self c))
  have hall : codePoints (a ++ b) = codePoints a ++ before ++ c :: after := by
    rw [codePoints_append_of_obeys hobeys, hsplit, List.append_assoc]
  rw [ofText_of_offence hall hkept hbroken, offence, if_neg hfront, encode_append, encode_codePoints,
    List.length_append]

theorem isIdentifier_append {a b : List UInt16} (ha : isIdentifier a = true) (hb : isIdentifier b = true) :
    isIdentifier (a ++ b) = true := by
  rw [isIdentifier_iff_valid] at ha hb ⊢
  exact ofText_append_of_forall ha (obeys_of_valid hb).2.forall_mayContinue

/-- **Verdicts on texts in a row.** In front of another text an empty one does not count. A text with an offence decides
the verdict, unless the offence is a high half at its end and the other text starts with a low half. Behind a valid text
the other one is judged as the rest of an identifier, with the length of the first text added to its positions. So
identifiers in a row are an identifier. -/
theorem ofText_append (a b : List UInt16) :
    (ofText a = .empty → ofText (a ++ b) = ofText b) ∧
    (∀ c, ofText a = .badStart c → ofText (a ++ b) = .badStart c) ∧
    (∀ offset c, ofText a = .badPart offset c → ofText (a ++ b) = .badPart offset c) ∧
    (∀ offset half, ofText a = .unpaired offset half →
      ¬(IsHigh half ∧ offset + 1 = a.length ∧ ∃ low ∈ b.head?, IsLow low) →
      ofText (a ++ b) = .unpaired offset half) ∧
    (ofText a = .valid →
      (∀ c ∈ codePoints b, c.MayContinue) ∧ ofText (a ++ b) = .valid ∨
      ∃ before c after, codePoints b = before ++ c :: after ∧ (∀ d ∈ before, d.MayContinue) ∧ ¬c.MayContinue ∧
        ofText (a ++ b) =
          if c.IsSurrogate then .unpaired (a.length + (encode before).length) (.ofNat c.val)
          else .badPart (a.length + (encode before).length) c) ∧
    (isIdentifier a = true → isIdentifier b = true → isIdentifier (a ++ b) = true) := by
  refine ⟨fun h => ?_, fun c h => ?_, fun offset c h => ?_, fun offset half h hopen => ?_, fun h => ?_,
    isIdentifier_append⟩
  · rcases ofText_cases a with ⟨rfl, -⟩ | ⟨-, -, hv⟩ | ⟨before, c, after, -, -, -, ho⟩
    · rfl
    · cases hv.symm.trans h
    · exact absurd (ho.symm.trans h) (offence_ne_empty before c)
  · rw [← h]
    exact ofText_append_of_rejected (by simp [h]) (by simp [h]) (by simp [h])
  · rw [← h]
    exact ofText_append_of_rejected (by simp [h]) (by simp [h]) (by simp [h])
  · rw [← h]
    refine ofText_append_of_rejected (by simp [h]) (by simp [h]) fun offset' half' h' => ?_
    cases h.symm.trans h'
    exact hopen
  · by_cases hb : ∀ c ∈ codePoints b, c.MayContinue
    · exact Or.inl ⟨hb, ofText_append_of_forall h hb⟩
    · obtain ⟨before, c, after, hsplit, hbefore, hc⟩ := exists_not_mayContinue hb
      exact Or.inr ⟨before, c, after, hsplit, hbefore, hc, ofText_append_of_not_mayContinue h hsplit hbefore hc⟩

/-- a high half at the end stays unpaired in front of a letter; two identifiers are one -/
theorem ofText_append_half_before_letter :
    ofText [0x61, 0xD835] = .unpaired 1 0xD835 ∧ ofText ([0x61, 0xD835] ++ [0x62]) = .unpaired 1 0xD835 ∧
    isIdentifier ([0x61, 0xAD] ++ [0xD835, 0xDD38]) = true := by
  obtain ⟨hverdict, hfirst, hsecond⟩ : ofText [0x61, 0xD835] = .unpaired 1 0xD835 ∧ isIdentifier [0x61, 0xAD] = true ∧
      isIdentifier [0xD835, 0xDD38] = true := by
    decide +kernel
  have hopen : ¬(IsHigh 0xD835 ∧ 1 + 1 = [0x61, 0xD835].length ∧ ∃ low ∈ ([0x62] : List UInt16).head?, IsLow low) := by
    rintro ⟨-, -, _, ⟨⟩, hlow⟩
    exact absurd hlow (by decide)
  obtain ⟨-, -, -, hunpaired, -, -⟩ := ofText_append [0x61, 0xD835] [0x62]
  obtain ⟨-, -, -, -, -, hidentifier⟩ := ofText_append [0x61, 0xAD] [0xD835, 0xDD38]
  exact ⟨hverdict, hunpaired 1 0xD835 hverdict hopen, hidentifier hfirst hsecond⟩

/-- in front of its partner it is no offence any more -/
example : ofText [0x61, 0xD835] = .unpaired 1 0xD835 ∧ ofText ([0x61, 0xD835] ++ [0xDD38]) = .valid := by
  decide +kernel

end Verdict

/-! ## Comparison forms -/

namespace ComparisonForm

/-- texts that are not apart meet in a code point -/
theorem exists_pair_of_not_apart {a b : List UInt16} (h : ¬Apart a b) :
    ∃ front high low back c, a = front ++ [high] ∧ b = low :: back ∧ CodePoint.ofPair? high low = some c := by
  simp only [Apart, not_forall, not_not] at h
  obtain ⟨high, hhigh, low, hlow, hhalves⟩ := h
  obtain ⟨front, hfront⟩ := List.getLast?_eq_some_iff.1 hhigh
  obtain ⟨back, hback⟩ := List.head?_eq_some_iff.1 hlow
  exact ⟨front, high, low, back, _, hfront, hback, dif_pos hhalves⟩

theorem codePoints_append_of_pair {high low : UInt16} {c : CodePoint} (h : CodePoint.ofPair? high low = some c)
    (front back : List UInt16) :
    codePoints (front ++ [high] ++ low :: back) = codePoints front ++ c :: codePoints back := by
  have hs : ¬c.IsSurrogate := (CodePoint.isAstral_of_ofPair? h).not_isSurrogate
  rw [← codePoints_around hs, CodePoint.units_ofPair? h, List.append_assoc, List.append_assoc]
  rfl

/-- a formatting code point forms where the texts meet -/
def FormsFormat (a b : List UInt16) : Prop :=
  ∃ front high low back c, a = front ++ [high] ∧ b = low :: back ∧ CodePoint.ofPair? high low = some c ∧
    c.category = .format

/-- texts without formatting code points have one together only if it forms where they meet -/
theorem forall_category_ne_append_iff {a b : List UInt16} (ha : ∀ c ∈ codePoints a, c.category ≠ .format)
    (hb : ∀ c ∈ codePoints b, c.category ≠ .format) :
    (∀ c ∈ codePoints (a ++ b), c.category ≠ .format) ↔ ¬FormsFormat a b := by
  constructor
  · rintro h ⟨front, high, low, back, c, rfl, rfl, hpair, hformat⟩
    rw [codePoints_append_of_pair hpair] at h
    exact h c (by simp) hformat
  · intro h
    by_cases hapart : Apart a b
    · rw [codePoints_append hapart]
      exact List.forall_mem_append.2 ⟨ha, hb⟩
    · obtain ⟨front, high, low, back, c, rfl, rfl, hpair⟩ := exists_pair_of_not_apart hapart
      have hfront := (forall_category_ne_of_append ha).1
      have hback := (forall_category_ne_of_append (a := [low]) hb).2
      have hc : c.category ≠ .format := fun hformat => h ⟨front, high, low, back, c, rfl, rfl, hpair, hformat⟩
      rw [codePoints_append_of_pair hpair]
      exact List.forall_mem_append.2 ⟨hfront, List.forall_mem_cons.2 ⟨hc, hback⟩⟩

/-- what can be deleted in two texts in a row, each on its own, can be deleted first -/
theorem comparisonForm_append_settled (a b : List UInt16) :
    comparisonForm (a ++ b) = comparisonForm (comparisonForm a ++ comparisonForm b) := by
  obtain ⟨hreach, hend⟩ := comparisonForm_spec (comparisonForm a ++ comparisonForm b)
  have hparts := reaches_append (comparisonForm_spec a).1 (comparisonForm_spec b).1
  exact (eq_comparisonForm (hparts.trans hreach) hend).symm

/-- **Where comparison forms meet.** In a row they are the comparison form of the texts in a row exactly when no
formatting code point forms where they meet. -/
theorem comparisonForm_append_eq_iff (a b : List UInt16) :
    comparisonForm (a ++ b) = comparisonForm a ++ comparisonForm b ↔
      ¬FormsFormat (comparisonForm a) (comparisonForm b) := by
  obtain ⟨ha, ha_end⟩ := comparisonForm_spec a
  obtain ⟨hb, hb_end⟩ := comparisonForm_spec b
  rw [← forall_category_ne_append_iff ha_end hb_end]
  constructor
  · intro h
    rw [← h]
    exact (comparisonForm_spec (a ++ b)).2
  · intro h
    exact (eq_comparisonForm (reaches_append ha hb) h).symm

/-- **The comparison form of texts in a row** is that of their comparison forms in a row. It is these themselves if the
first does not end with a high half or the second does not start with a low half. So texts that are the same identifiers
may take each other's places in a row. -/
theorem comparisonForm_append (a b : List UInt16) :
    comparisonForm (a ++ b) = comparisonForm (comparisonForm a ++ comparisonForm b) ∧
    ((∀ u ∈ (comparisonForm a).getLast?, ¬IsHigh u) ∨ (∀ v ∈ (comparisonForm b).head?, ¬IsLow v) →
      comparisonForm (a ++ b) = comparisonForm a ++ comparisonForm b) ∧
    ∀ a' b', sameIdentifier a a' = true → sameIdentifier b b' = true → sameIdentifier (a ++ b) (a' ++ b') = true := by
  refine ⟨comparisonForm_append_settled a b, fun h => ?_, fun a' b' ha hb => ?_⟩
  · rw [comparisonForm_append_eq_iff]
    rintro ⟨front, high, low, back, c, hfront, hback, hpair, -⟩
    obtain ⟨hhigh, hlow, -⟩ := CodePoint.ofPair?_eq_some_iff.1 hpair
    rcases h with h | h
    · exact h high (by simp [hfront]) hhigh
    · exact h low (by simp [hback]) hlow
  · rw [sameIdentifier_eq_decide, decide_eq_true_iff] at ha hb ⊢
    calc comparisonForm (a ++ b)
      _ = comparisonForm (comparisonForm a ++ comparisonForm b) := comparisonForm_append_settled a b
      _ = comparisonForm (comparisonForm a' ++ comparisonForm b') := by rw [ha, hb]
      _ = comparisonForm (a' ++ b') := (comparisonForm_append_settled a' b').symm

/-- comparison forms in a row as they are, and two others with a tag that forms where they meet -/
theorem comparisonForm_append_tag :
    comparisonForm ([0x61, 0xAD] ++ [0xDC01, 0xAD]) = [0x61, 0xDC01] ∧
    comparisonForm ([0x61, 0xDB40, 0xAD] ++ [0xAD, 0xDC01]) = [0x61] ∧
    sameIdentifier ([0x61, 0xDB40, 0xAD] ++ [0xAD, 0xDC01]) ([0x61, 0xDB40] ++ [0xDC01]) = true := by
  obtain ⟨hletter, hlow, hmeet, hhigh, htag⟩ : comparisonForm [0x61, 0xAD] = [0x61] ∧
      comparisonForm [0xDC01, 0xAD] = [0xDC01] ∧
      comparisonForm (comparisonForm [0x61, 0xDB40, 0xAD] ++ comparisonForm [0xAD, 0xDC01]) = [0x61] ∧
      sameIdentifier [0x61, 0xDB40, 0xAD] [0x61, 0xDB40] = true ∧ sameIdentifier [0xAD, 0xDC01] [0xDC01] = true := by
    decide +kernel
  have hnot : ∀ u ∈ (comparisonForm [0x61, 0xAD]).getLast?, ¬IsHigh u := by
    rw [hletter]
    rintro _ ⟨⟩
    decide
  obtain ⟨-, hapart, -⟩ := comparisonForm_append [0x61, 0xAD] [0xDC01, 0xAD]
  obtain ⟨hparts, -, hsame⟩ := comparisonForm_append [0x61, 0xDB40, 0xAD] [0xAD, 0xDC01]
  refine ⟨?_, hparts.trans hmeet, hsame _ _ hhigh htag⟩
  rw [hapart (Or.inl hnot), hletter, hlow]
  rfl

end ComparisonForm

end IdentifierText
