import HubPublisher.Text.Unshown

/-!
Quoted texts as messages show them: between quotation marks, with the quotation mark and the
backslash escaped, tab, newline, carriage return and NUL by their short escapes, and every other
character without a visible form by its number.
-/
namespace HubPublisher.Text

/-- Two braces around the number of a character, in lower-case hexadecimal. -/
def braced (n : Nat) : List Char :=
  Char.ofNat 0x7B :: (Nat.toDigits 16 n ++ [Char.ofNat 0x7D])

/-- A character inside a quoted text. -/
def quotedChar (c : Char) : List Char :=
  if c = '"' then ['\\', '"']
  else if c = '\\' then ['\\', '\\']
  else if c = '\t' then ['\\', 't']
  else if c = '\n' then ['\\', 'n']
  else if c = '\r' then ['\\', 'r']
  else if c = Char.ofNat 0 then ['\\', '0']
  else if unshown.contains c then '\\' :: 'u' :: braced c.toNat
  else [c]

/-- A text as a message shows it. -/
def quoted (s : String) : String :=
  String.ofList ('"' :: (s.toList.flatMap quotedChar ++ ['"']))

end HubPublisher.Text
