/-
What is wrong with an escape, by its run of digits.

A reader stops at the first place that cannot be right, so a reference is found too large in the middle of its digits. But the
flaw can be told from outside: take all digits that stand in a row behind the opening (`IsRun`), the number that they make
up, and the character behind them. More digits never make the number less, so if some of the digits are too large already,
all of them are, and the range is what counts first. Then it counts what ends the run.

Results:
- `exists_isRun`: every text starts with a run of digits, the empty one among others;
- `exists_isRun_of_large`: where the first digits are too large, the run is;
- `isFlawed_iff_runFlaw`: where an escape goes wrong against what its run is like;
- `read_eq_error_iff_runFlaw`: the fault of a string is the one that the run of its first malformed escape tells.
-/
import IdentifierText.Proofs.ReadingInParts

namespace IdentifierText

/-! ## Runs -/

namespace Radix

/-- the digits at the start of a text, as many as there are, the number that they make up, and what is behind them -/
structure IsRun (r : Radix) (text digits : List Char) (n : Nat) (rest : List Char) : Prop where
  split : text = digits ++ rest
  spells : r.Spells digits n
  ended : ∀ c ∈ rest.head?, ∀ d, ¬r.IsDigit c d

variable {r : Radix} {text digits rest : List Char} {n : Nat}

theorem accumulate_append (r : Radix) (value : Nat) (values more : List Nat) :
    r.accumulate value (values ++ more) = r.accumulate (r.accumulate value values) more :=
  List.foldl_append

theorem isRun_nil (hended : ∀ c ∈ text.head?, ∀ d, ¬r.IsDigit c d) : r.IsRun text [] 0 text :=
  ⟨rfl, spells_iff.2 ⟨[], .nil, rfl⟩, hended⟩

/-- digits in front are part of the run, and alone they make up no more than it -/
theorem IsRun.append_left {front : List Char} {values : List Nat} (hfront : List.Forall₂ r.IsDigit front values)
    (h : r.IsRun text digits n rest) :
    ∃ m, r.IsRun (front ++ text) (front ++ digits) m rest ∧ r.accumulate 0 values ≤ m := by
  obtain ⟨more, hmore, rfl⟩ := spells_iff.1 h.spells
  have hspells : r.Spells (front ++ digits) (r.accumulate 0 (values ++ more)) :=
    spells_iff.2 ⟨values ++ more, List.rel_append hfront hmore, rfl⟩
  refine ⟨_, ⟨?_, hspells, h.ended⟩, ?_⟩
  · rw [h.split, List.append_assoc]
  · rw [accumulate_append]
    exact r.le_accumulate _ more

theorem exists_isRun (r : Radix) (text : List Char) : ∃ digits n rest, r.IsRun text digits n rest := by
  induction text with
  | nil =>
    refine ⟨[], 0, [], isRun_nil ?_⟩
    intro c hc
    cases hc
  | cons x text ih =>
    by_cases hx : ∃ d, r.IsDigit x d
    · obtain ⟨d, hd⟩ := hx
      obtain ⟨digits, n, rest, hrun⟩ := ih
      obtain ⟨m, hmore, -⟩ := hrun.append_left (.cons hd .nil)
      exact ⟨x :: digits, m, rest, hmore⟩
    · refine ⟨[], 0, x :: text, isRun_nil ?_⟩
      intro c hc
      obtain rfl : x = c := Option.some.inj hc
      exact not_exists.1 hx

/-- **More digits do not make a number smaller.** Where digits in front of anything are too large, the run is. -/
theorem exists_isRun_of_large {front : List Char} {values : List Nat} (hfront : List.Forall₂ r.IsDigit front values)
    {max : Nat} (hlarge : max < r.accumulate 0 values) (text : List Char) :
    ∃ digits n rest, r.IsRun (front ++ text) digits n rest ∧ max < n := by
  obtain ⟨digits, n, rest, hrun⟩ := r.exists_isRun text
  obtain ⟨m, hmore, hle⟩ := hrun.append_left hfront
  exact ⟨front ++ digits, m, rest, hmore, Nat.lt_of_lt_of_le hlarge hle⟩

end Radix

namespace Escape

/-! ## Flaws by runs -/

/-- the letter behind an introducer that asks for a fixed number of digits, and this number -/
inductive FixedOpening : Char → Nat → Prop
  | unit : FixedOpening 'u' 4
  | point : FixedOpening 'U' 8

/-- a text behind an introducer that makes it open a reference: the radix, and the text from where the digits are to be -/
inductive ReferenceOpening : List Char → Radix → List Char → Prop
  | hexadecimal {x : Char} (hx : x = 'x' ∨ x = 'X') (text : List Char) :
    ReferenceOpening ('#' :: x :: text) .hexadecimal text
  | decimal {text : List Char} (hx : ∀ x ∈ text.head?, x ≠ 'x' ∧ x ≠ 'X') : ReferenceOpening ('#' :: text) .decimal text

/-- the flaw of the escape that the text behind an introducer starts, by the run of digits behind its opening -/
inductive RunFlaw : Grammar → List Char → Flaw → Prop
  /-- too few digits, and the text ends -/
  | truncated {letter : Char} {width : Nat} {text digits : List Char} {n : Nat} (hletter : FixedOpening letter width)
    (hrun : Radix.hexadecimal.IsRun text digits n []) (hshort : digits.length < width) :
    RunFlaw .source (letter :: text) .truncated
  /-- too few digits, and a character behind them -/
  | missingDigit {letter : Char} {width : Nat} {text digits rest : List Char} {n : Nat} {c : Char}
    (hletter : FixedOpening letter width) (hrun : Radix.hexadecimal.IsRun text digits n (c :: rest))
    (hshort : digits.length < width) : RunFlaw .source (letter :: text) (.badDigit c)
  /-- as many digits as there have to be, but too large a number; four digits are never too large -/
  | largePoint {digits : List Char} {n : Nat} (hlength : digits.length = 8) (hspells : Radix.hexadecimal.Spells digits n)
    (hlarge : 0x10FFFF < n) (rest : List Char) : RunFlaw .source ('U' :: (digits ++ rest)) .tooLarge
  /-- too large a number, whatever is behind its digits -/
  | largeReference {r : Radix} {opening text digits rest : List Char} {n : Nat} (hopening : ReferenceOpening opening r text)
    (hrun : r.IsRun text digits n rest) (hlarge : 0x10FFFF < n) : RunFlaw .markup opening .tooLarge
  /-- a semicolon, and no digits in front of it -/
  | noDigits {r : Radix} {opening text rest : List Char} {n : Nat} (hopening : ReferenceOpening opening r text)
    (hrun : r.IsRun text [] n (';' :: rest)) : RunFlaw .markup opening .noDigits
  /-- the text ends behind the digits, if there are any -/
  | unclosed {r : Radix} {opening text digits : List Char} {n : Nat} (hopening : ReferenceOpening opening r text)
    (hrun : r.IsRun text digits n []) (hsmall : n ≤ 0x10FFFF) : RunFlaw .markup opening .unclosed
  /-- behind the digits, if there are any, a character that closes nothing -/
  | strayCharacter {r : Radix} {opening text digits rest : List Char} {n : Nat} {c : Char}
    (hopening : ReferenceOpening opening r text) (hrun : r.IsRun text digits n (c :: rest)) (hsmall : n ≤ 0x10FFFF)
    (hc : c ≠ ';') : RunFlaw .markup opening (.badDigit c)

variable {g : Grammar} {r : Radix} {width : Nat} {letter : Char} {opening text : List Char} {flaw : Flaw}

theorem FixedFlaw.runFlaw (hletter : FixedOpening letter width) (h : FixedFlaw width text flaw) :
    RunFlaw .source (letter :: text) flaw := by
  cases h with
  | truncated hdigits hshort =>
    refine .truncated hletter ⟨(List.append_nil _).symm, Radix.spells_iff.2 ⟨_, hdigits, rfl⟩, ?_⟩ hshort
    intro c hc
    cases hc
  | @badDigit digits values c hdigits hshort hc rest =>
    refine .missingDigit hletter ⟨rfl, Radix.spells_iff.2 ⟨_, hdigits, rfl⟩, ?_⟩ hshort
    intro c' hc'
    obtain rfl : c = c' := Option.some.inj hc'
    exact hc

theorem ReferenceFlaw.runFlaw (hopening : ReferenceOpening opening r text) (h : ReferenceFlaw r 0 false text flaw) :
    RunFlaw .markup opening flaw := by
  cases h with
  | tooLarge hdigits hlarge rest =>
    obtain ⟨digits, n, rest, hrun, hn⟩ := Radix.exists_isRun_of_large hdigits hlarge rest
    exact .largeReference hopening hrun hn
  | noDigits _ rest =>
    refine .noDigits hopening (Radix.isRun_nil ?_)
    intro c hc d hd
    obtain rfl : ';' = c := Option.some.inj hc
    exact Radix.ne_semicolon_of_digit? (Radix.digit?_eq_some_iff.2 hd) rfl
  | unclosed hdigits hsmall =>
    refine .unclosed hopening ⟨(List.append_nil _).symm, Radix.spells_iff.2 ⟨_, hdigits, rfl⟩, ?_⟩ hsmall
    intro c hc
    cases hc
  | @badDigit digits values c hdigits hsmall hc hsemicolon rest =>
    refine .strayCharacter hopening ⟨rfl, Radix.spells_iff.2 ⟨_, hdigits, rfl⟩, ?_⟩ hsmall hsemicolon
    intro c' hc'
    obtain rfl : c = c' := Option.some.inj hc'
    exact hc

theorem RunFlaw.of_isFlawed (h : IsFlawed g text flaw) : RunFlaw g text flaw := by
  cases h with
  | unit h => exact h.runFlaw .unit
  | point h => exact h.runFlaw .point
  | largePoint hlength h hlarge rest => exact .largePoint hlength h hlarge rest
  | hexadecimal hx h => exact h.runFlaw (.hexadecimal hx _)
  | decimal hx h => exact h.runFlaw (.decimal hx)

theorem FixedFlaw.isFlawed (hletter : FixedOpening letter width) (h : FixedFlaw width text flaw) :
    IsFlawed .source (letter :: text) flaw := by
  cases hletter with
  | unit => exact .unit h
  | point => exact .point h

theorem ReferenceFlaw.isFlawed (hopening : ReferenceOpening opening r text) (h : ReferenceFlaw r 0 false text flaw) :
    IsFlawed .markup opening flaw := by
  cases hopening with
  | hexadecimal hx => exact .hexadecimal hx h
  | decimal hx => exact .decimal hx h

theorem RunFlaw.isFlawed (h : RunFlaw g text flaw) : IsFlawed g text flaw := by
  cases h with
  | truncated hletter hrun hshort =>
    obtain ⟨values, hdigits, -⟩ := Radix.spells_iff.1 hrun.spells
    obtain rfl := hrun.split
    exact FixedFlaw.isFlawed hletter (by simpa using .truncated hdigits hshort)
  | missingDigit hletter hrun hshort =>
    obtain ⟨values, hdigits, -⟩ := Radix.spells_iff.1 hrun.spells
    obtain rfl := hrun.split
    exact FixedFlaw.isFlawed hletter (.badDigit hdigits hshort (hrun.ended _ rfl) _)
  | largePoint hlength hspells hlarge rest => exact .largePoint hlength hspells hlarge rest
  | largeReference hopening hrun hlarge =>
    obtain ⟨values, hdigits, rfl⟩ := Radix.spells_iff.1 hrun.spells
    obtain rfl := hrun.split
    exact ReferenceFlaw.isFlawed hopening (.tooLarge hdigits hlarge _)
  | noDigits hopening hrun =>
    obtain rfl := hrun.split
    exact ReferenceFlaw.isFlawed hopening (.noDigits rfl _)
  | unclosed hopening hrun hsmall =>
    obtain ⟨values, hdigits, rfl⟩ := Radix.spells_iff.1 hrun.spells
    obtain rfl := hrun.split
    exact ReferenceFlaw.isFlawed hopening (by simpa using .unclosed hdigits hsmall)
  | strayCharacter hopening hrun hsmall hc =>
    obtain ⟨values, hdigits, rfl⟩ := Radix.spells_iff.1 hrun.spells
    obtain rfl := hrun.split
    exact ReferenceFlaw.isFlawed hopening (.badDigit hdigits hsmall (hrun.ended _ rfl) hc _)

/-- **Where an escape goes wrong is told by its run.** The reader stops somewhere in the digits or behind them, and the run
tells what for. -/
theorem isFlawed_iff_runFlaw : IsFlawed g text flaw ↔ RunFlaw g text flaw :=
  ⟨RunFlaw.of_isFlawed, RunFlaw.isFlawed⟩

/-- **The kind of a fault.** A string has a fault exactly where what is in front can be read and the run of digits behind
the opening of an escape tells a flaw, and this is the flaw of the fault: in source text that the digits are too few, with
the character behind them unless the text ends, or that eight of them are too large; in markup that they are too large,
else that there are none in front of the semicolon, that the text ends behind them, or that another character follows. -/
theorem read_eq_error_iff_runFlaw (g : Grammar) (s : String) (offset : Nat) (flaw : Flaw) :
    read g s = .error ⟨offset, flaw⟩ ↔
      ∃ (before after : String) (text : List Char), s = before ++ after ∧ before.utf8ByteSize = offset ∧
        (∃ us, read g before = .ok us) ∧ after.toList = g.introducer :: text ∧ RunFlaw g text flaw := by
  rw [read_eq_error_iff]
  constructor
  · intro h
    obtain ⟨before, after, hsplit, hoffset, hreadable, text, htext, hflawed⟩ := h
    exact ⟨before, after, text, hsplit, hoffset, hreadable, htext, isFlawed_iff_runFlaw.1 hflawed⟩
  · intro h
    obtain ⟨before, after, text, hsplit, hoffset, hreadable, htext, hflaw⟩ := h
    exact ⟨before, after, hsplit, hoffset, hreadable, text, htext, isFlawed_iff_runFlaw.2 hflaw⟩

/-- a number that is too large is the fault where its digits break off as well, and without one the character is -/
example : read .markup "é&#x110000é" = .error ⟨2, .tooLarge⟩ ∧ read .markup "é&#x11000é" = .error ⟨2, .badDigit 'é'⟩ := by
  refine ⟨?_, ?_⟩ <;> cbv

end Escape

end IdentifierText
