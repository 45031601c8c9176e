/-
Reading escaped text.

A text is read piece by piece. An introducer that the grammar takes as the start of an escape must be followed by a
complete one; every other character stands for itself. Each piece leaves less to read (`length_le_of_readPiece`). The first
flawed escape is the fault reported; its position counts the UTF-8 bytes before its introducer.

In source text `\u` gives one unit, so that two escapes can denote a pair, and `\U` gives a code point. A character
reference in markup has any number of digits, and is too large as soon as its digits so far are.
-/
import IdentifierText.Escape.Form
import IdentifierText.Quoted

namespace IdentifierText.Escape

/-- what is wrong with an escape -/
inductive Flaw where
  /-- the text ends before the last digit -/
  | truncated
  /-- no digit where one must stand -/
  | badDigit (found : Char)
  /-- beyond the code space -/
  | tooLarge
  /-- a character reference that the text does not close -/
  | unclosed
  /-- a character reference without digits -/
  | noDigits
  deriving DecidableEq, Repr

/-- a flawed escape and the position of its introducer, in bytes -/
structure ReadFault where
  offset : Nat
  flaw : Flaw
  deriving DecidableEq, Repr

def ReadFault.message (fault : ReadFault) : String :=
  match fault.flaw with
  | .truncated => s!"escape at byte {fault.offset} ends before its digits"
  | .badDigit found => s!"invalid digit {Quoted.char found} in escape at byte {fault.offset}"
  | .tooLarge => s!"escape at byte {fault.offset} is above U+10FFFF"
  | .unclosed => s!"character reference at byte {fault.offset} is missing its `;`"
  | .noDigits => s!"character reference at byte {fault.offset} has no digits"

/-! ## Escapes -/

/-- hexadecimal digits, as many as `width`: their value, after digits of value `value`, and the text behind them -/
def readFixed (value : Nat) : Nat → List Char → Except Flaw (Nat × List Char)
  | 0, text => .ok (value, text)
  | _ + 1, [] => .error .truncated
  | width + 1, c :: text =>
    match Radix.hexadecimal.digit? c with
    | none => .error (.badDigit c)
    | some d => readFixed (value * 16 + d) width text

/-- the digits of a character reference and the semicolon: their value, after digits of value `value` if there were
`any`, and the text behind them -/
def readReference (radix : Radix) (value : CodePoint) (any : Bool) : List Char → Except Flaw (CodePoint × List Char)
  | [] => .error .unclosed
  | c :: text =>
    if c = ';' then if any then .ok (value, text) else .error .noDigits
    else
      match radix.digit? c with
      | none => .error (.badDigit c)
      | some d =>
        match CodePoint.ofNat? (value.val * radix.base + d) with
        | none => .error .tooLarge
        | some value => readReference radix value true text

/-- four digits, for one unit -/
def readUnit (text : List Char) : Except Flaw (List UInt16 × List Char) := do
  let (value, rest) ← readFixed 0 4 text
  return ([.ofNat value], rest)

/-- eight digits, for a code point -/
def readPoint (text : List Char) : Except Flaw (List UInt16 × List Char) := do
  let (value, rest) ← readFixed 0 8 text
  match CodePoint.ofNat? value with
  | none => throw .tooLarge
  | some c => return (c.units, rest)

/-- a character reference from its first digit on -/
def readEntity (radix : Radix) (text : List Char) : Except Flaw (List UInt16 × List Char) := do
  let (c, rest) ← readReference radix ⟨0, Nat.zero_le _⟩ false text
  return (c.units, rest)

/-- the escape behind an introducer: its units and the text after it; `none` if there the introducer stands for itself -/
def Grammar.readEscape? : Grammar → List Char → Option (Except Flaw (List UInt16 × List Char))
  | source, 'u' :: text => some (readUnit text)
  | source, 'U' :: text => some (readPoint text)
  | markup, '#' :: 'x' :: text => some (readEntity .hexadecimal text)
  | markup, '#' :: 'X' :: text => some (readEntity .hexadecimal text)
  | markup, '#' :: text => some (readEntity .decimal text)
  | _, _ => none

/-! ## Texts -/

/-- the first piece of a text, given by its first character and the rest: its units and the text after it -/
def readPiece (g : Grammar) (c : Char) (text : List Char) : Except Flaw (List UInt16 × List Char) :=
  if c = g.introducer then (g.readEscape? text).getD (.ok ((CodePoint.ofChar c).units, text))
  else .ok ((CodePoint.ofChar c).units, text)

theorem suffix_of_readFixed {value width v : Nat} {text rest : List Char}
    (h : readFixed value width text = .ok (v, rest)) : rest <:+ text := by
  fun_induction readFixed value width text with
  | case1 => cases h; exact List.suffix_refl _
  | case2 => cases h
  | case3 => cases h
  | case4 _ _ c _ _ _ ih => exact (ih h).trans (List.suffix_cons _ _)

theorem suffix_of_readReference {radix : Radix} {value v : CodePoint} {any : Bool} {text rest : List Char}
    (h : readReference radix value any text = .ok (v, rest)) : rest <:+ text := by
  fun_induction readReference radix value any text with
  | case2 => cases h; exact List.suffix_cons _ _
  | case6 _ _ _ _ _ _ _ _ _ ih => exact (ih h).trans (List.suffix_cons _ _)
  | _ => cases h

theorem suffix_of_readUnit {text rest : List Char} {us : List UInt16} (h : readUnit text = .ok (us, rest)) :
    rest <:+ text := by
  unfold readUnit at h
  cases hf : readFixed 0 4 text with
  | error e => simp [hf, bind, Except.bind] at h
  | ok r => simp only [hf, bind, Except.bind] at h; cases h; exact suffix_of_readFixed hf

theorem suffix_of_readPoint {text rest : List Char} {us : List UInt16} (h : readPoint text = .ok (us, rest)) :
    rest <:+ text := by
  unfold readPoint at h
  cases hf : readFixed 0 8 text with
  | error e => simp [hf, bind, Except.bind] at h
  | ok r =>
    simp only [hf, bind, Except.bind] at h
    cases hc : CodePoint.ofNat? r.1 with
    | none => simp [hc, throw, throwThe, MonadExceptOf.throw] at h
    | some c => simp only [hc] at h; cases h; exact suffix_of_readFixed hf

theorem suffix_of_readEntity {radix : Radix} {text rest : List Char} {us : List UInt16}
    (h : readEntity radix text = .ok (us, rest)) : rest <:+ text := by
  unfold readEntity at h
  cases hf : readReference radix ⟨0, Nat.zero_le _⟩ false text with
  | error e => simp [hf, bind, Except.bind] at h
  | ok r => simp only [hf, bind, Except.bind] at h; cases h; exact suffix_of_readReference hf

theorem suffix_of_readEscape? {g : Grammar} {text rest : List Char} {us : List UInt16}
    (h : g.readEscape? text = some (.ok (us, rest))) : rest <:+ text := by
  unfold Grammar.readEscape? at h
  split at h <;> simp only [Option.some.injEq, reduceCtorEq] at h
  · exact (suffix_of_readUnit h).trans (List.suffix_cons _ _)
  · exact (suffix_of_readPoint h).trans (List.suffix_cons _ _)
  · exact (suffix_of_readEntity h).trans ((List.suffix_cons _ _).trans (List.suffix_cons _ _))
  · exact (suffix_of_readEntity h).trans ((List.suffix_cons _ _).trans (List.suffix_cons _ _))
  · exact (suffix_of_readEntity h).trans (List.suffix_cons _ _)

/-- What a piece leaves is the end of the text. -/
theorem suffix_of_readPiece {g : Grammar} {c : Char} {text rest : List Char} {us : List UInt16}
    (h : readPiece g c text = .ok (us, rest)) : rest <:+ text := by
  unfold readPiece at h
  split at h
  · cases he : g.readEscape? text with
    | none => rw [he] at h; cases h; exact List.suffix_refl _
    | some r => rw [he] at h; exact suffix_of_readEscape? (he.trans (congrArg some h))
  · cases h; exact List.suffix_refl _

/-- a flaw with the text from the introducer on -/
structure Flawed where
  flaw : Flaw
  unread : List Char
  deriving DecidableEq, Repr

/-- the units that a text denotes, or its first flawed escape -/
def readChars (g : Grammar) : List Char → Except Flawed (List UInt16)
  | [] => .ok []
  | c :: text =>
    match _ : readPiece g c text with
    | .error flaw => .error ⟨flaw, c :: text⟩
    | .ok (units, rest) => (readChars g rest).map (units ++ ·)
termination_by text => text.length
decreasing_by
  have := (suffix_of_readPiece ‹_›).length_le
  simp only [List.length_cons]; omega

/-- the number of bytes in the UTF-8 encoding of a text -/
def byteLength : List Char → Nat
  | [] => 0
  | c :: text => c.utf8Size + byteLength text

theorem byteLength_append (a b : List Char) : byteLength (a ++ b) = byteLength a + byteLength b := by
  induction a with
  | nil => simp [byteLength]
  | cons c a ih => simp [byteLength, ih, Nat.add_assoc]

theorem byteLength_eq (text : List Char) : byteLength text = (String.ofList text).utf8ByteSize := by
  induction text with
  | nil => rfl
  | cons c text ih =>
    have hcons : String.ofList (c :: text) = String.singleton c ++ String.ofList text := by
      rw [String.singleton_eq_ofList, ← String.ofList_append, List.singleton_append]
    rw [byteLength, ih, hcons, String.utf8ByteSize_append, String.utf8ByteSize_singleton]

/-- the bytes of a string are those of its characters -/
theorem byteLength_toList (s : String) : byteLength s.toList = s.utf8ByteSize := by
  rw [byteLength_eq, String.ofList_toList]

/-- the units that a string denotes; the position of a fault is what is read before it -/
def read (g : Grammar) (s : String) : Except ReadFault (List UInt16) :=
  (readChars g s.toList).mapError fun flawed =>
    ⟨byteLength s.toList - byteLength flawed.unread, flawed.flaw⟩

end IdentifierText.Escape
