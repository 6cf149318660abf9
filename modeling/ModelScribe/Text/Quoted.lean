import ModelScribe.Text.Invisible

/-! # Quoted texts

A text between double quotes, with quotes, backslashes and invisible characters spelled out.
-/

namespace ModelScribe.Text

/-- The code point of a character in lower-case hexadecimal between braces. -/
def codePointEscape (character : Char) : List Char :=
  ['\\', 'u', '{'] ++ Nat.toDigits 16 character.toNat ++ ['}']

/-- How one character is written inside quotes. -/
def quotedChar (character : Char) : List Char :=
  if character = '"' then ['\\', '"']
  else if character = '\\' then ['\\', '\\']
  else if character = '\n' then ['\\', 'n']
  else if character = '\r' then ['\\', 'r']
  else if character = '\t' then ['\\', 't']
  else if character = '\x00' then ['\\', '0']
  else if isInvisible character then codePointEscape character
  else [character]

/-- The text between double quotes, its special and invisible characters spelled out. -/
def quoted (text : String) : String :=
  String.ofList ('"' :: text.toList.flatMap quotedChar ++ ['"'])

end ModelScribe.Text
