/-
Spellings that mix forms.

The writer spells a text in one form, escapes all of it or its first code point, and refuses unpaired halves. The reader
asks for none of this: characters and escapes of every form in its grammar may stand in any order, and a half may be escaped
like any other code point. Each part is read on its own, wherever it stands. A high and a low half that are escaped one
after the other, be it in two different forms, are the two units of a pair, so the text has one code point there.

Results:
- `Item.readsAs_spelling`: each part is read as the code point that it stands for;
- `codePoints_denoted_of_halves`: two halves in a row are one code point of the text;
- `read_spelled`: a string made of parts is read as the units of their code points.
-/
import IdentifierText.Proofs.RoundTrip

namespace IdentifierText.Escape

open Utf16

/-- a part of a spelling: a character that opens no escape, or a code point, surrogates too, in a form of the grammar -/
inductive Item (g : Grammar) where
  | character (c : Char) (hc : c ≠ g.introducer)
  | escape (form : Form) (hform : form.grammar = g) (c : CodePoint)

variable {g : Grammar}

namespace Item

def spelling : Item g → List Char
  | character c _ => [c]
  | escape form _ c => form.encode c

def point : Item g → CodePoint
  | character c _ => .ofChar c
  | escape _ _ c => c

theorem readsAs_spelling (item : Item g) : ReadsAs g item.spelling item.point.units := by
  cases item with
  | character c hc => exact readsAs_literal hc
  | escape form hform c =>
    have hreads : ReadsAs form.grammar (form.encode c) c.units := readsAs_encode form c
    rwa [hform] at hreads

end Item

def spelled (items : List (Item g)) : String :=
  .ofList (items.flatMap (·.spelling))

def denoted (items : List (Item g)) : List UInt16 :=
  encode (items.map (·.point))

theorem readsAs_spellings (items : List (Item g)) : ReadsAs g (items.flatMap (·.spelling)) (denoted items) := by
  induction items with
  | nil => exact .nil g
  | cons item items ih => exact item.readsAs_spelling.append ih

/-- **Two halves in a row are a pair**, in whatever forms they are escaped. -/
theorem codePoints_denoted_of_halves {before after : List (Item g)} {high low : UInt16} {c : CodePoint}
    (hpair : CodePoint.ofPair? high low = some c) {first second : Item g} (hfirst : first.point = .ofUnit high)
    (hsecond : second.point = .ofUnit low) :
    codePoints (denoted (before ++ first :: second :: after)) =
      codePoints (denoted before) ++ c :: codePoints (denoted after) := by
  have hc : ¬c.IsSurrogate := (CodePoint.isAstral_of_ofPair? hpair).not_isSurrogate
  have hunits : denoted (before ++ first :: second :: after) = denoted before ++ c.units ++ denoted after := by
    simp [denoted, hfirst, hsecond, CodePoint.units_ofPair? hpair]
  rw [hunits, codePoints_around hc]

/-- **Mixed spellings are read part by part.** A string made of characters and escapes is read as the units of their code
points in a row. Where a high and a low half are escaped one after the other, the text that is read has the code point of
the pair, and around it the code points of what stands in front and behind. -/
theorem read_spelled (items : List (Item g)) :
    read g (spelled items) = .ok (denoted items) ∧
    ∀ (before after : List (Item g)) (form form' : Form) (hform : form.grammar = g) (hform' : form'.grammar = g)
      (high low : UInt16) (c : CodePoint), CodePoint.ofPair? high low = some c →
      items = before ++ .escape form hform (.ofUnit high) :: .escape form' hform' (.ofUnit low) :: after →
      codePoints (denoted items) = codePoints (denoted before) ++ c :: codePoints (denoted after) := by
  constructor
  · rw [read_eq_ok_iff_readChars, spelled, String.toList_ofList]
    exact (readsAs_spellings items).readChars_eq
  · intro before after form form' hform hform' high low c hpair hitems
    rw [hitems]
    exact codePoints_denoted_of_halves hpair rfl rfl

/-- a high half in four digits and a low one in eight, between two letters -/
theorem read_spelled_halves :
    read .source "é\\uD83D\\U0000DE00u" = .ok [0xE9, 0xD83D, 0xDE00, 0x75] ∧
    codePoints [0xE9, 0xD83D, 0xDE00, 0x75] = codePoints [0xE9] ++ ⟨0x1F600, by decide⟩ :: codePoints [0x75] := by
  have hread := read_spelled (g := .source) ([.character 'é' (by decide)] ++
    .escape .numeric4 rfl (.ofUnit 0xD83D) :: .escape .numeric8 rfl (.ofUnit 0xDE00) :: [.character 'u' (by decide)])
  exact ⟨hread.1, hread.2 _ _ .numeric4 .numeric8 rfl rfl 0xD83D 0xDE00 ⟨0x1F600, by decide⟩ rfl rfl⟩

end IdentifierText.Escape
