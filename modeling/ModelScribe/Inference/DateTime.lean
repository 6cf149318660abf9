import ModelScribe.Text.Blank

/-! # Texts that look like a date and a time

`YYYY-MM-DD HH:MM:SS` with decimal digits of ASCII and one blank of any kind in the middle. The
numbers are not checked: the thirteenth month is as good as the first.
-/

namespace ModelScribe.Inference

/-- What may stand at one place of such a text. -/
inductive DateTimeSlot
  | digit
  | blank
  | mark (character : Char)

/-- Whether a character may stand at a place. -/
def DateTimeSlot.admits : DateTimeSlot → Char → Bool
  | digit, character => character.isDigit
  | blank, character => Text.isBlank character
  | mark expected, character => character = expected

/-- The places of such a text, in order. -/
def dateTimeSlots : List DateTimeSlot :=
  [.digit, .digit, .digit, .digit, .mark '-', .digit, .digit, .mark '-', .digit, .digit, .blank,
    .digit, .digit, .mark ':', .digit, .digit, .mark ':', .digit, .digit]

/-- Whether each place admits its character and no character is left. -/
def fills : (slots : List DateTimeSlot) → (text : List Char) → Bool
  | [], [] => true
  | slot :: slots, character :: text => slot.admits character && fills slots text
  | _, _ => false

/-- The text is a date and a time, one blank between them, and nothing else. -/
def isDateTime (text : String) : Bool :=
  fills dateTimeSlots text.toList

end ModelScribe.Inference
