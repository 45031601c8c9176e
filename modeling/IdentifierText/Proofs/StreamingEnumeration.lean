/-
Enumerating a text from one unit at a time.

Enumeration looks one unit ahead. A decoder does not: it takes the units in order and cannot go back. A high half is
held, and with the next unit it is known what becomes of it. With a low half it makes up a code point; before any other
unit it stands for itself, and that unit is taken as if nothing had been held. A half that is held when the text ends
stands for itself.

The decoder gives a code point later than enumeration does, and its state says nothing of positions. What relates the
two is what is still to come: the code points given so far, followed by the enumeration of the half held and the units
not yet taken, stay the same from unit to unit.

Results:
- `points_take`: taking a unit leaves them as they are;
- `points_run`: hence taking many does, and nothing that a decoder has given is ever revised;
- `streaming_eq_enumeration`: at the end a decoder has given the code points of the text, which are also those that a
  cursor gives call by call.
-/
import IdentifierText.Proofs.CursorReading

namespace IdentifierText.Utf16

/-! ## The decoder -/

abbrev HighHalf := { u : UInt16 // IsHigh u }

abbrev LowHalf := { u : UInt16 // IsLow u }

/-- the code point of two halves: ten bits of each, beyond the reach of a single unit -/
def join (high : HighHalf) (low : LowHalf) : CodePoint :=
  ⟨(high.val.toNat - 0xD800) * 0x400 + (low.val.toNat - 0xDC00) + 0x10000, by
    have hhigh := high.property
    have hlow := low.property
    unfold IsHigh at hhigh
    unfold IsLow at hlow
    omega⟩

/-- what has been given, and the half that is held, if there is one -/
structure Decoder where
  given : List CodePoint
  held : Option HighHalf

namespace Decoder

def start : Decoder :=
  ⟨[], none⟩

/-- a unit when nothing is held -/
def takeFresh (given : List CodePoint) (u : UInt16) : Decoder :=
  if h : IsHigh u then ⟨given, some ⟨u, h⟩⟩ else ⟨given ++ [.ofUnit u], none⟩

def take (d : Decoder) (u : UInt16) : Decoder :=
  match d.held with
  | none => takeFresh d.given u
  | some high =>
    if h : IsLow u then ⟨d.given ++ [join high ⟨u, h⟩], none⟩
    else takeFresh (d.given ++ [.ofUnit high]) u

def run (d : Decoder) (text : List UInt16) : Decoder :=
  text.foldl take d

/-- the end of the text: a half that is still held is given as it is -/
def finish (d : Decoder) : List CodePoint :=
  match d.held with
  | none => d.given
  | some high => d.given ++ [.ofUnit high]

/-! ## What stays the same -/

/-- the units that have been taken and not given -/
def heldUnits (d : Decoder) : List UInt16 :=
  d.held.toList.map (·.val)

/-- all code points of a text of which some units have been taken and others are to come -/
def points (d : Decoder) (coming : List UInt16) : List CodePoint :=
  d.given ++ codePoints (d.heldUnits ++ coming)

theorem ofPair?_eq_join (high : HighHalf) (low : LowHalf) : CodePoint.ofPair? high low = some (join high low) := by
  refine CodePoint.ofPair?_eq_some_iff.2 ⟨high.property, low.property, ?_⟩
  simp only [join]
  omega

theorem codePoints_cons_of_not_high {u : UInt16} (h : ¬IsHigh u) (text : List UInt16) :
    codePoints (u :: text) = .ofUnit u :: codePoints text := by
  refine codePoints_cons_of_apart ?_
  rintro v hv w - ⟨hhigh, -⟩
  obtain rfl : u = v := by simpa using hv
  exact h hhigh

theorem codePoints_cons_of_not_low {u v : UInt16} (h : ¬IsLow v) (text : List UInt16) :
    codePoints (u :: v :: text) = .ofUnit u :: codePoints (v :: text) := by
  refine codePoints_cons_of_apart ?_
  rintro _ - w hw ⟨-, hlow⟩
  obtain rfl : v = w := by simpa using hw
  exact h hlow

theorem points_takeFresh (given : List CodePoint) (u : UInt16) (coming : List UInt16) :
    (takeFresh given u).points coming = given ++ codePoints (u :: coming) := by
  unfold takeFresh
  split
  · rfl
  · rename_i hhigh
    rw [codePoints_cons_of_not_high hhigh]
    simp [points, heldUnits]

/-- **One unit.** Taking it changes what is given and what is held, and not what they make up with the units to come. -/
theorem points_take (d : Decoder) (u : UInt16) (coming : List UInt16) :
    (d.take u).points coming = d.points (u :: coming) := by
  obtain ⟨given, held⟩ := d
  cases held with
  | none => exact points_takeFresh given u coming
  | some high =>
    by_cases hlow : IsLow u
    · have hpair : CodePoint.ofPair? high u = some (join high ⟨u, hlow⟩) := ofPair?_eq_join high ⟨u, hlow⟩
      simp [take, hlow, points, heldUnits, codePoints, hpair]
    · have hfresh : (Decoder.mk given (some high)).take u = takeFresh (given ++ [.ofUnit high]) u := dif_neg hlow
      rw [hfresh, points_takeFresh, List.append_assoc, List.singleton_append, ← codePoints_cons_of_not_low hlow]
      rfl

/-- **A run.** However many units have been taken, what has been given stays, and the rest follows from the half held
and the units to come. -/
theorem points_run (d : Decoder) (front coming : List UInt16) :
    (d.run front).points coming = d.points (front ++ coming) := by
  -- what is to come is kept fixed; the decoder changes with each unit of the front
  induction front generalizing d with
  | nil => rfl
  | cons u front ih => rw [run, List.foldl_cons, ← run, ih, points_take, List.cons_append]

theorem points_start (text : List UInt16) : start.points text = codePoints text := rfl

theorem points_nil (d : Decoder) : d.points [] = d.finish := by
  obtain ⟨given, held⟩ := d
  cases held with
  | none => simp [points, heldUnits, finish, codePoints]
  | some high => simp [points, heldUnits, finish, codePoints]

/-- **Streaming is enumeration.** Taking a text unit by unit, a decoder gives the code points that enumeration with one
unit of lookahead gives, whether of the whole text at once or call by call. -/
theorem streaming_eq_enumeration (text : List UInt16) :
    (start.run text).finish = codePoints text ∧
    (start.run text).finish = (Cursor.start text).rest.map (·.point) := by
  have hfinish : (start.run text).finish = codePoints text :=
    calc (start.run text).finish = (start.run text).points [] := (points_nil _).symm
      _ = start.points (text ++ []) := points_run start text []
      _ = codePoints text := by rw [List.append_nil, points_start]
  refine ⟨hfinish, ?_⟩
  rw [hfinish, Cursor.map_point_rest, Cursor.remaining_start]

/-- two high halves, a low half for the second, and another high half that is held to the end -/
example : (start.run [0xD800, 0xD83D, 0xDE00, 0xD801]).given = [⟨0xD800, by decide⟩, ⟨0x1F600, by decide⟩] ∧
    (start.run [0xD800, 0xD83D, 0xDE00, 0xD801]).held = some ⟨0xD801, by decide⟩ := by
  decide

end Decoder

end IdentifierText.Utf16
