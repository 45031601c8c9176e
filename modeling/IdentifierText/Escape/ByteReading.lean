/-
Reading escaped text by bytes.

`Escape.read` goes through the characters of a text. The reader here goes through its bytes, in rounds: it looks for the next
introducer, takes what is in front of it as it is, decodes the escape there byte by byte, and goes on behind it. Positions
count bytes, and the text is cut at them; numbers are computed in 32 bits and tested behind every digit, or behind the last
one. So there is more that can go wrong than the faults of a text. Each such step is checked where it is taken, and ends
reading with a `Breach` if it fails. A round that goes on gets further and stays in the text (`round_advances`), so
the rounds come to an end.
-/
import IdentifierText.Escape.Read
import IdentifierText.Utf16.Text

namespace IdentifierText.Escape.Bytes

open String.Pos.Raw (IsValid)

/-- a step that no text should lead to -/
inductive Breach where
  /-- a text is cut inside a character, beyond its end, or from a position to one in front of it -/
  | cut
  /-- a number does not fit in 32 bits -/
  | overflow
  /-- no character stands where a digit is wrong -/
  | noCharacter
  /-- a reference that no digit has made too large is too large behind the last one -/
  | tooLargeAtEnd
  deriving DecidableEq, Repr

/-- why reading stops: a fault of the text, or a breach of the reader -/
inductive Stop where
  | fault (fault : ReadFault)
  | breach (breach : Breach)
  deriving DecidableEq, Repr

/-! ## Positions in a text -/

/-- the part of a text between two positions; both have to be character boundaries -/
def cut (s : String) (i j : Nat) : Except Stop String :=
  if h : IsValid s ⟨i⟩ ∧ IsValid s ⟨j⟩ ∧ i ≤ j then .ok (s.extract (s.pos ⟨i⟩ h.1) (s.pos ⟨j⟩ h.2.1))
  else .error (.breach .cut)

def byteAt? (s : String) (i : Nat) : Option UInt8 :=
  s.toByteArray[i]?

/-- the number of bytes in front of the first `c` -/
def bytesBefore? (c : Char) : List Char → Option Nat
  | [] => none
  | d :: text => if d = c then some 0 else (bytesBefore? c text).map (d.utf8Size + ·)

theorem lt_of_byteAt? {s : String} {i : Nat} {byte : UInt8} (h : byteAt? s i = some byte) : i < s.utf8ByteSize := by
  unfold byteAt? at h
  rw [getElem?_def] at h
  split at h
  · rwa [← String.size_toByteArray]
  · cases h

theorem bytesBefore?_eq_none {c : Char} {text : List Char} (h : bytesBefore? c text = none) : c ∉ text := by
  induction text with
  | nil => exact List.not_mem_nil
  | cons d text ih =>
    rw [bytesBefore?] at h
    split at h
    · cases h
    · rename_i hd
      rw [Option.map_eq_none_iff] at h
      simp only [List.mem_cons, not_or]
      exact ⟨fun hc => hd hc.symm, ih h⟩

theorem bytesBefore?_eq_some {c : Char} {text : List Char} {n : Nat} (h : bytesBefore? c text = some n) :
    ∃ front rest, text = front ++ c :: rest ∧ c ∉ front ∧ byteLength front = n := by
  induction text generalizing n with
  | nil => cases h
  | cons d text ih =>
    rw [bytesBefore?] at h
    split at h
    · rename_i hd
      cases h
      exact ⟨[], text, by rw [hd, List.nil_append], List.not_mem_nil, rfl⟩
    · rename_i hd
      obtain ⟨m, hm, rfl⟩ := Option.map_eq_some_iff.1 h
      obtain ⟨front, rest, rfl, hfront, rfl⟩ := ih hm
      refine ⟨d :: front, rest, rfl, ?_, rfl⟩
      simp only [List.mem_cons, not_or]
      exact ⟨fun hc => hd hc.symm, hfront⟩

/-- a part has the bytes between its ends -/
theorem utf8ByteSize_of_cut {s part : String} {i j : Nat} (h : cut s i j = .ok part) :
    i + part.utf8ByteSize = j ∧ j ≤ s.utf8ByteSize := by
  unfold cut at h
  split at h
  · rename_i hij
    have hj : j ≤ s.utf8ByteSize := hij.2.1.le_utf8ByteSize
    cases h
    refine ⟨?_, hj⟩
    rw [← String.size_toByteArray, String.toByteArray_extract, ByteArray.size_extract, String.size_toByteArray]
    simp only [String.offset_pos]
    omega
  · cases h

/-! ## Digits -/

def digit? (r : Radix) (byte : UInt8) : Option Nat :=
  r.digit? (.ofNat byte.toNat)

/-- the fault of a byte that is no digit, in the escape at `start`: it names the character there -/
def wrongDigit (s : String) (start i : Nat) : Stop :=
  match cut s i s.utf8ByteSize with
  | .error stop => stop
  | .ok rest =>
    match rest.toList with
    | [] => .breach .noCharacter
    | c :: _ => .fault ⟨start, .badDigit c⟩

/-- the value of hexadecimal digits, as many as `width`, after digits of value `value` -/
def fixedDigits (s : String) (start value i : Nat) : Nat → Except Stop Nat
  | 0 => .ok value
  | width + 1 =>
    match byteAt? s i with
    | none => .error (.fault ⟨start, .truncated⟩)
    | some byte =>
      match digit? .hexadecimal byte with
      | none => .error (wrongDigit s start i)
      | some d =>
        if 0x100000000 ≤ value <<< 4 ||| d then .error (.breach .overflow)
        else fixedDigits s start (value <<< 4 ||| d) (i + 1) width

/-- the value of the digits of a character reference, of which the first is at `first`, and the position of the semicolon -/
def referenceDigits (s : String) (start : Nat) (r : Radix) (first value i : Nat) : Except Stop (Nat × Nat) :=
  match _ : byteAt? s i with
  | none => .error (.fault ⟨start, .unclosed⟩)
  | some byte =>
    if byte = ';'.toUInt8 then if i = first then .error (.fault ⟨start, .noDigits⟩) else .ok (value, i)
    else
      match digit? r byte with
      | none => .error (wrongDigit s start i)
      | some d =>
        if 0x100000000 ≤ value * r.base + d then .error (.breach .overflow)
        else if 0x10FFFF < value * r.base + d then .error (.fault ⟨start, .tooLarge⟩)
        else referenceDigits s start r first (value * r.base + d) (i + 1)
termination_by s.utf8ByteSize - i
decreasing_by
  have := lt_of_byteAt? ‹_›
  omega

/-! ## Escapes -/

/-- four digits behind an introducer and a letter: their unit, and the number of bytes of the escape -/
def unitAt (s : String) (start : Nat) : Except Stop (List UInt16 × Nat) := do
  let value ← fixedDigits s start 0 (start + 2) 4
  return ([.ofNat value], 6)

/-- eight digits, for a code point -/
def pointAt (s : String) (start : Nat) : Except Stop (List UInt16 × Nat) := do
  let value ← fixedDigits s start 0 (start + 2) 8
  match CodePoint.ofNat? value with
  | none => throw (.fault ⟨start, .tooLarge⟩)
  | some c => return (c.units, 10)

/-- a character reference with its digits from `first` on -/
def referenceAt (s : String) (start : Nat) (r : Radix) (first : Nat) : Except Stop (List UInt16 × Nat) := do
  let (value, i) ← referenceDigits s start r first 0 first
  match CodePoint.ofNat? value with
  | none => throw (.breach .tooLargeAtEnd)
  | some c => return (c.units, i + 1 - start)

/-- what the introducer at `start` stands for, and the number of bytes up to where reading goes on -/
def escapeAt (g : Grammar) (s : String) (start : Nat) : Except Stop (List UInt16 × Nat) :=
  match g with
  | .source =>
    if byteAt? s (start + 1) = some 'u'.toUInt8 then unitAt s start
    else if byteAt? s (start + 1) = some 'U'.toUInt8 then pointAt s start
    else .ok ([.ofNat '\\'.toNat], 1)
  | .markup =>
    if byteAt? s (start + 1) = some '#'.toUInt8 then
      if byteAt? s (start + 2) = some 'x'.toUInt8 ∨ byteAt? s (start + 2) = some 'X'.toUInt8 then
        referenceAt s start .hexadecimal (start + 3)
      else referenceAt s start .decimal (start + 2)
    else .ok ([.ofNat '&'.toNat], 1)

/-! ## The reader -/

/-- what a round comes to -/
inductive Round where
  /-- no introducer is left -/
  | last (units : List UInt16)
  /-- an introducer has been read, and reading goes on at a position -/
  | next (units : List UInt16) (pos : Nat)
  deriving DecidableEq, Repr

/-- one round from a position on: what is in front of the next introducer, and what the introducer stands for -/
def round (g : Grammar) (s : String) (pos : Nat) : Except Stop Round := do
  let unread ← cut s pos s.utf8ByteSize
  match bytesBefore? g.introducer unread.toList with
  | none => return .last (Utf16.ofString unread)
  | some n =>
    let literal ← cut s pos (pos + n)
    let (units, consumed) ← escapeAt g s (pos + n)
    return .next (Utf16.ofString literal ++ units) (pos + n + consumed)

theorem le_of_fixedDigits {s : String} {start value i width v : Nat} (h : fixedDigits s start value i width = .ok v)
    (hi : i ≤ s.utf8ByteSize) : i + width ≤ s.utf8ByteSize := by
  fun_induction fixedDigits s start value i width with
  | case1 => exact hi
  | case5 value i width byte hbyte d hd hfits ih =>
    have := ih h (lt_of_byteAt? hbyte)
    omega
  | _ => cases h

theorem lt_of_referenceDigits {s : String} {start first value i v j : Nat} {r : Radix}
    (h : referenceDigits s start r first value i = .ok (v, j)) : i ≤ j ∧ j < s.utf8ByteSize := by
  fun_induction referenceDigits s start r first value i with
  | case3 value i byte hbyte =>
    cases h
    exact ⟨Nat.le_refl _, lt_of_byteAt? ‹_›⟩
  | case7 value i byte hbyte hsemicolon d hd hfits hsmall ih =>
    have := ih h
    omega
  | _ => cases h

theorem le_of_unitAt {s : String} {start n : Nat} {us : List UInt16} (h : unitAt s start = .ok (us, n))
    (hstart : start + 2 ≤ s.utf8ByteSize) : 0 < n ∧ start + n ≤ s.utf8ByteSize := by
  unfold unitAt at h
  cases hdigits : fixedDigits s start 0 (start + 2) 4 with
  | error stop => rw [hdigits] at h; cases h
  | ok value =>
    have hle := le_of_fixedDigits hdigits hstart
    rw [hdigits] at h
    cases h
    omega

theorem le_of_pointAt {s : String} {start n : Nat} {us : List UInt16} (h : pointAt s start = .ok (us, n))
    (hstart : start + 2 ≤ s.utf8ByteSize) : 0 < n ∧ start + n ≤ s.utf8ByteSize := by
  unfold pointAt at h
  cases hdigits : fixedDigits s start 0 (start + 2) 8 with
  | error stop => rw [hdigits] at h; cases h
  | ok value =>
    have hle := le_of_fixedDigits hdigits hstart
    cases hc : CodePoint.ofNat? value with
    | none => simp [hdigits, hc, bind, Except.bind, throw, throwThe, MonadExceptOf.throw] at h
    | some c =>
      simp only [hdigits, hc, bind, Except.bind] at h
      cases h
      omega

theorem le_of_referenceAt {s : String} {start first n : Nat} {r : Radix} {us : List UInt16}
    (h : referenceAt s start r first = .ok (us, n)) (hfirst : start < first) : 0 < n ∧ start + n ≤ s.utf8ByteSize := by
  unfold referenceAt at h
  cases hdigits : referenceDigits s start r first 0 first with
  | error stop => rw [hdigits] at h; cases h
  | ok result =>
    have hle := lt_of_referenceDigits hdigits
    cases hc : CodePoint.ofNat? result.1 with
    | none => simp [hdigits, hc, bind, Except.bind, throw, throwThe, MonadExceptOf.throw] at h
    | some c =>
      simp only [hdigits, hc, bind, Except.bind] at h
      cases h
      omega

/-- an escape has bytes, and they are in the text -/
theorem le_of_escapeAt {g : Grammar} {s : String} {start n : Nat} {us : List UInt16} (h : escapeAt g s start = .ok (us, n))
    (hstart : start < s.utf8ByteSize) : 0 < n ∧ start + n ≤ s.utf8ByteSize := by
  unfold escapeAt at h
  cases g with
  | source =>
    simp only at h
    split at h
    · exact le_of_unitAt h (lt_of_byteAt? ‹_›)
    · split at h
      · exact le_of_pointAt h (lt_of_byteAt? ‹_›)
      · cases h
        omega
  | markup =>
    simp only at h
    split at h
    · split at h
      · exact le_of_referenceAt h (by omega)
      · exact le_of_referenceAt h (by omega)
    · cases h
      omega

/-- **A round gets further.** It goes on behind the position it started from, and not beyond the end of the text. -/
theorem round_advances {g : Grammar} {s : String} {pos next : Nat} {us : List UInt16}
    (h : round g s pos = .ok (.next us next)) : pos < next ∧ next ≤ s.utf8ByteSize := by
  unfold round at h
  cases hunread : cut s pos s.utf8ByteSize with
  | error stop => rw [hunread] at h; cases h
  | ok unread =>
    cases hn : bytesBefore? g.introducer unread.toList with
    | none => simp only [hunread, hn, bind, Except.bind] at h; cases h
    | some n =>
      cases hliteral : cut s pos (pos + n) with
      | error stop => simp only [hunread, hn, hliteral, bind, Except.bind] at h; cases h
      | ok literal =>
        cases hescape : escapeAt g s (pos + n) with
        | error stop => simp only [hunread, hn, hliteral, hescape, bind, Except.bind] at h; cases h
        | ok escape =>
          simp only [hunread, hn, hliteral, hescape, bind, Except.bind] at h
          cases h
          -- the introducer is in the part that is left, so it starts in front of its end
          obtain ⟨front, rest, htext, -, rfl⟩ := bytesBefore?_eq_some hn
          have hsize := (utf8ByteSize_of_cut hunread).1
          rw [← byteLength_toList, htext, byteLength_append, byteLength] at hsize
          have hpos := g.introducer.utf8Size_pos
          have := le_of_escapeAt hescape (by omega)
          omega

def readFrom (g : Grammar) (s : String) (pos : Nat) : Except Stop (List UInt16) :=
  match _ : round g s pos with
  | .error stop => .error stop
  | .ok (.last units) => .ok units
  | .ok (.next units next) => (readFrom g s next).map (units ++ ·)
termination_by s.utf8ByteSize - pos
decreasing_by
  have := round_advances ‹_›
  omega

def read (g : Grammar) (s : String) : Except Stop (List UInt16) :=
  readFrom g s 0

end IdentifierText.Escape.Bytes
