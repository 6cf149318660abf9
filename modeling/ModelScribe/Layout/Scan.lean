import ModelScribe.Layout

/-! # Scanning by places

A layout seen as a cursor that goes through a text.

* `Piece.literalEnd`, `Piece.commentEnd`: where a string and a comment end, looked for place by
  place.
* `Piece.endAt`: the place behind the piece at the cursor.
* `Layout.round`: one round of a layout, which places the piece at the cursor.
-/

namespace ModelScribe

namespace Piece

/-- The place behind the first closing quote from a place on. A backslash takes the next place with
it, and a string that nothing closes ends with the text. -/
def literalFrom (text : List Char) (quote : Char) (place : Nat) : Nat :=
  if inside : place < text.length then
    if text[place] = '\\' then literalFrom text quote (place + 2)
    else if text[place] = quote then place + 1
    else literalFrom text quote (place + 1)
  else text.length
termination_by text.length - place

/-- The place behind the string that starts at a place of a text. -/
def literalEnd (text : List Char) (start : Nat) : Nat :=
  if inside : start < text.length then literalFrom text text[start] (start + 1) else start

/-- The place behind the first closing mark from a place on. A comment that nothing closes ends with
the text. -/
def commentFrom (text : List Char) (place : Nat) : Nat :=
  if inside : place + 1 < text.length then
    if text[place] = '*' ∧ text[place + 1] = '/' then place + 2 else commentFrom text (place + 1)
  else text.length
termination_by text.length - place

/-- The place behind the comment that starts at a place of a text. -/
def commentEnd (text : List Char) (start : Nat) : Nat :=
  commentFrom text (start + 2)

/-- The piece that starts at a place of a text. -/
def at? (text : List Char) (start : Nat) : Option Piece :=
  match text.drop start with
  | [] => none
  | character :: rest => some (first character rest).1

/-- The place behind the piece that starts at a place of a text. -/
def endAt (text : List Char) (start : Nat) : Nat :=
  start + ((at? text start).map fun piece => piece.text.length).getD 0

end Piece

namespace Layout

/-- One round of a layout: the piece at the cursor is placed and the cursor goes behind it. -/
def round (text : List Char) (state : Nat × Draft) : Nat × Draft :=
  match Piece.at? text state.1 with
  | none => state
  | some piece => (Piece.endAt text state.1, state.2.place piece)

end Layout

end ModelScribe
