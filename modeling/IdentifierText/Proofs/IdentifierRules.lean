/-
The verdict on a text, by the category table alone.

An identifier starts with the low line or a letter and goes on with letters, decimal digits, connectors, combining marks
and formatting code points; halves without a partner stand nowhere in it. `Obeys` states these rules of a list of code
points by looking every category up in the table, ASCII included.

Results:
- `isStart_iff`, `isPart_iff`: the tests, which decide ASCII without the table, agree with the table;
- `ofText_of_offence`: the code point with which the rules are first broken decides the verdict, with the number of units
  before it as its position;
- `ofText_by_category`: a text is valid exactly when it has units and obeys the rules, it is empty exactly when it has none,
  and otherwise there is such a code point, and it is reported.
-/
import Mathlib.Tactic.SplitIfs
import IdentifierText.Identifier.Verdict
import IdentifierText.Proofs.Enumeration

namespace IdentifierText

open Unicode Utf16

/-! ## Rules -/

namespace CodePoint

/-- the categories of letters, letter numbers among them -/
def letterCategories : List GeneralCategory :=
  [.uppercaseLetter, .lowercaseLetter, .titlecaseLetter, .modifierLetter, .otherLetter, .letterNumber]

/-- the categories of code points that stand in identifiers after the start -/
def partCategories : List GeneralCategory :=
  letterCategories ++ [.decimalNumber, .connectorPunctuation, .nonspacingMark, .spacingMark, .format]

def MayStart (c : CodePoint) : Prop :=
  ¬c.IsSurrogate ∧ (c.val = 0x5F ∨ c.category ∈ letterCategories)

def MayContinue (c : CodePoint) : Prop :=
  ¬c.IsSurrogate ∧ c.category ∈ partCategories

instance (c : CodePoint) : Decidable c.MayStart := inferInstanceAs (Decidable (_ ∧ _))

instance (c : CodePoint) : Decidable c.MayContinue := inferInstanceAs (Decidable (_ ∧ _))

theorem isStart_iff {c : CodePoint} : c.isStart = true ↔ c.val = 0x5F ∨ c.category ∈ letterCategories := by
  have hletter : ∀ g, CharClass.ofCategory? g = some .letter ↔ g ∈ letterCategories := by
    intro g
    cases g <;> decide
  rw [isStart_eq, Bool.or_eq_true, decide_eq_true_iff, hletter, isLowLine, decide_eq_true_iff, Or.comm]

theorem isPart_iff {c : CodePoint} : c.isPart = true ↔ c.category ∈ partCategories := by
  have hpart : ∀ g, (CharClass.ofCategory? g).isSome ↔ g ∈ partCategories := by
    intro g
    cases g <;> decide
  rw [isPart_eq, hpart]

/-- what may start an identifier may also stand in it later -/
theorem MayStart.mayContinue {c : CodePoint} (h : c.MayStart) : c.MayContinue := by
  refine ⟨h.1, ?_⟩
  rcases h.2 with hlow | hletter
  · -- the low line is ASCII, which is decided without the table
    have hlowLine : c = ⟨0x5F, by decide⟩ := CodePoint.ext hlow
    have hpart : c.isPart = true := by
      rw [hlowLine]
      decide
    exact isPart_iff.1 hpart
  · exact List.mem_append_left _ hletter

end CodePoint

namespace Verdict

/-- the rules for the code points of a text -/
def Obeys : List CodePoint → Prop
  | [] => True
  | first :: rest => first.MayStart ∧ ∀ c ∈ rest, c.MayContinue

/-- the report on a code point that breaks the rules behind others that keep them -/
def offence (before : List CodePoint) (c : CodePoint) : Verdict :=
  if c.IsSurrogate then .unpaired (encode before).length (.ofNat c.val)
  else if before = [] then .badStart c
  else .badPart (encode before).length c

theorem offence_ne_valid (before : List CodePoint) (c : CodePoint) : offence before c ≠ .valid := by
  unfold offence
  split_ifs <;> exact Verdict.noConfusion

theorem offence_ne_empty (before : List CodePoint) (c : CodePoint) : offence before c ≠ .empty := by
  unfold offence
  split_ifs <;> exact Verdict.noConfusion

/-- all of them may stand in an identifier, the first one too -/
theorem Obeys.forall_mayContinue {points : List CodePoint} (h : Obeys points) : ∀ c ∈ points, c.MayContinue := by
  cases points with
  | nil => exact fun c hc => absurd hc List.not_mem_nil
  | cons first rest => exact List.forall_mem_cons.2 ⟨h.1.mayContinue, h.2⟩

theorem Obeys.not_isSurrogate {points : List CodePoint} (h : Obeys points) : ∀ c ∈ points, ¬c.IsSurrogate :=
  fun c hc => (h.forall_mayContinue c hc).1

theorem obeys_snoc_iff {first : CodePoint} {rest : List CodePoint} {c : CodePoint} :
    Obeys (first :: rest ++ [c]) ↔ Obeys (first :: rest) ∧ c.MayContinue := by
  simp only [Obeys, List.cons_append, List.mem_append, List.mem_singleton, and_assoc]
  constructor
  · rintro ⟨hfirst, hall⟩
    exact ⟨hfirst, fun d hd => hall d (Or.inl hd), hall c (Or.inr rfl)⟩
  · rintro ⟨hfirst, hrest, hc⟩
    refine ⟨hfirst, fun d hd => ?_⟩
    rcases hd with hd | rfl
    · exact hrest d hd
    · exact hc

/-- where a later code point breaks the rule, one is the first to break it -/
theorem exists_not_mayContinue {points : List CodePoint} (h : ¬∀ c ∈ points, c.MayContinue) :
    ∃ before c after, points = before ++ c :: after ∧ (∀ d ∈ before, d.MayContinue) ∧ ¬c.MayContinue := by
  cases hfind : points.find? (fun c => ¬c.MayContinue) with
  | none =>
    rw [List.find?_eq_none] at hfind
    exact absurd (fun c hc => by simpa using hfind c hc) h
  | some c =>
    obtain ⟨hc, before, after, rfl, hbefore⟩ := List.find?_eq_some_iff_append.1 hfind
    exact ⟨before, c, after, rfl, fun d hd => by simpa using hbefore d hd, of_decide_eq_true hc⟩

/-- where the rules are broken, they are broken a first time -/
theorem exists_offence {points : List CodePoint} (h : ¬Obeys points) :
    ∃ before c after, points = before ++ c :: after ∧ Obeys before ∧ ¬Obeys (before ++ [c]) := by
  cases points with
  | nil => exact absurd trivial h
  | cons first rest =>
    by_cases hfirst : first.MayStart
    · obtain ⟨before, c, after, rfl, hbefore, hc⟩ := exists_not_mayContinue fun hrest => h ⟨hfirst, hrest⟩
      exact ⟨first :: before, c, after, rfl, ⟨hfirst, hbefore⟩, fun hobeys => hc (obeys_snoc_iff.1 hobeys).2⟩
    · exact ⟨[], first, rest, rfl, trivial, fun hobeys => hfirst hobeys.1⟩

/-! ## Judgement on code points -/

theorem atStart?_eq (placed : Placed) :
    atStart? placed =
      if placed.point.MayStart then none
      else some (if placed.point.IsSurrogate then .unpaired placed.offset (.ofNat placed.point.val)
        else .badStart placed.point) := by
  unfold atStart? CodePoint.half? CodePoint.MayStart
  by_cases hs : placed.point.IsSurrogate <;> simp [hs, ← CodePoint.isStart_iff]

theorem atPart?_eq (placed : Placed) :
    atPart? placed =
      if placed.point.MayContinue then none
      else some (if placed.point.IsSurrogate then .unpaired placed.offset (.ofNat placed.point.val)
        else .badPart placed.offset placed.point) := by
  unfold atPart? CodePoint.half? CodePoint.MayContinue
  by_cases hs : placed.point.IsSurrogate <;> simp [hs, ← CodePoint.isPart_iff]

theorem atStart?_eq_none {placed : Placed} (h : placed.point.MayStart) : atStart? placed = none := by
  rw [atStart?_eq, if_pos h]

theorem atPart?_eq_none {placed : Placed} (h : placed.point.MayContinue) : atPart? placed = none := by
  rw [atPart?_eq, if_pos h]

/-- later code points that keep the rules are passed, and count with their units -/
theorem findSome?_atPart?_append (start : Nat) {before : List CodePoint} (after : List CodePoint)
    (h : ∀ c ∈ before, c.MayContinue) :
    (placeFrom start (before ++ after)).findSome? atPart? =
      (placeFrom (start + (encode before).length) after).findSome? atPart? := by
  induction before generalizing start with
  | nil => rfl
  | cons c before ih =>
    have hc : atPart? ⟨start, c⟩ = none := atPart?_eq_none (h c List.mem_cons_self)
    have hrest : ∀ d ∈ before, d.MayContinue := fun d hd => h d (List.mem_cons_of_mem c hd)
    rw [List.cons_append, placeFrom, List.findSome?_cons_of_isNone (Option.isNone_iff_eq_none.2 hc), ih _ hrest,
      encode_cons, List.length_append, CodePoint.length_units, Nat.add_assoc]

/-! ## Verdicts -/

theorem ofText_eq_ofPoints (text : List UInt16) : ofText text = ofPoints (placeFrom 0 (codePoints text)) := by
  rw [ofText, indexed_eq_placeFrom]

theorem ofText_of_obeys {text : List UInt16} (hne : text ≠ []) (h : Obeys (codePoints text)) : ofText text = .valid := by
  rw [ofText_eq_ofPoints]
  cases hpoints : codePoints text with
  | nil => exact absurd (codePoints_eq_nil_iff.1 hpoints) hne
  | cons first rest =>
    rw [hpoints] at h
    have hstart : atStart? ⟨0, first⟩ = none := atStart?_eq_none h.1
    have hparts := findSome?_atPart?_append (0 + first.width) [] h.2
    rw [List.append_nil, placeFrom, List.findSome?_nil] at hparts
    rw [placeFrom, ofPoints, hstart, hparts]
    rfl

/-- **The first offence is reported.** The code point that first breaks the rules decides the verdict, whatever is behind
it. -/
theorem ofText_of_offence {text : List UInt16} {before after : List CodePoint} {c : CodePoint}
    (hsplit : codePoints text = before ++ c :: after) (hbefore : Obeys before) (hc : ¬Obeys (before ++ [c])) :
    ofText text = offence before c := by
  rw [ofText_eq_ofPoints, hsplit]
  cases before with
  | nil =>
    have hstart : ¬c.MayStart := fun h => hc ⟨h, fun d hd => absurd hd List.not_mem_nil⟩
    rw [List.nil_append, placeFrom, ofPoints, atStart?_eq, if_neg hstart]
    simp [offence]
  | cons first before =>
    have hstart : atStart? ⟨0, first⟩ = none := atStart?_eq_none hbefore.1
    have hpart : ¬c.MayContinue := fun h => hc (obeys_snoc_iff.2 ⟨hbefore, h⟩)
    rw [List.cons_append, placeFrom, ofPoints, hstart, findSome?_atPart?_append _ _ hbefore.2, placeFrom,
      List.findSome?_cons_of_isSome (by rw [atPart?_eq, if_neg hpart]; rfl), atPart?_eq, if_neg hpart]
    simp [offence]

/-- a text is empty, or it obeys the rules, or it has a first offence -/
theorem ofText_cases (text : List UInt16) :
    text = [] ∧ ofText text = .empty ∨
    text ≠ [] ∧ Obeys (codePoints text) ∧ ofText text = .valid ∨
    ∃ before c after, codePoints text = before ++ c :: after ∧ Obeys before ∧ ¬Obeys (before ++ [c]) ∧
      ofText text = offence before c := by
  by_cases hnil : text = []
  · subst hnil
    exact Or.inl ⟨rfl, rfl⟩
  · by_cases hobeys : Obeys (codePoints text)
    · exact Or.inr (Or.inl ⟨hnil, hobeys, ofText_of_obeys hnil hobeys⟩)
    · obtain ⟨before, c, after, hsplit, hbefore, hc⟩ := exists_offence hobeys
      exact Or.inr (Or.inr ⟨before, c, after, hsplit, hbefore, hc, ofText_of_offence hsplit hbefore hc⟩)

theorem obeys_of_valid {text : List UInt16} (h : ofText text = .valid) : text ≠ [] ∧ Obeys (codePoints text) := by
  rcases ofText_cases text with ⟨-, hempty⟩ | ⟨hne, hobeys, -⟩ | ⟨before, c, after, -, -, -, hoffence⟩
  · cases hempty.symm.trans h
  · exact ⟨hne, hobeys⟩
  · exact absurd (hoffence.symm.trans h) (offence_ne_valid before c)

theorem isIdentifier_iff_valid {text : List UInt16} : isIdentifier text = true ↔ ofText text = .valid := by
  rw [isIdentifier, isValid, decide_eq_true_iff]

/-- **Verdicts by category.** A text is valid exactly when it has units and its code points obey the rules. It is empty
exactly when it has no units. Any other text has a first code point that breaks the rules, and that one is reported:
as an unpaired half if it is one, else as a bad start or a bad part by where it stands. -/
theorem ofText_by_category (text : List UInt16) :
    (ofText text = .valid ↔ text ≠ [] ∧ Obeys (codePoints text)) ∧
    (ofText text = .empty ↔ text = []) ∧
    (text ≠ [] → ofText text ≠ .valid → ∃ before c after,
      codePoints text = before ++ c :: after ∧ Obeys before ∧ ¬Obeys (before ++ [c]) ∧
      ofText text = offence before c) := by
  refine ⟨⟨fun h => ?_, fun h => ofText_of_obeys h.1 h.2⟩, ⟨fun h => ?_, ?_⟩, fun hne hvalid => ?_⟩
  · rcases ofText_cases text with ⟨-, he⟩ | ⟨hne, hobeys, -⟩ | ⟨before, c, after, -, -, -, ho⟩
    · cases he.symm.trans h
    · exact ⟨hne, hobeys⟩
    · exact absurd (ho.symm.trans h) (offence_ne_valid before c)
  · rcases ofText_cases text with ⟨hnil, -⟩ | ⟨-, -, hv⟩ | ⟨before, c, after, -, -, -, ho⟩
    · exact hnil
    · cases hv.symm.trans h
    · exact absurd (ho.symm.trans h) (offence_ne_empty before c)
  · rintro rfl
    rfl
  · rcases ofText_cases text with ⟨hnil, -⟩ | ⟨-, -, hv⟩ | hoffence
    · exact absurd hnil hne
    · exact absurd hv hvalid
    · exact hoffence

end Verdict

end IdentifierText
