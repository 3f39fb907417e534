import SchemaScaffold.Unicode.Printable

/-!
# Texts shown in messages

* `quoteVisible`: a text in double quotes in which every character that would not show as itself,
  and every mark that would join the character before it, is written as an escape.
-/

namespace SchemaScaffold.Unicode

/-- The code point of a character in hexadecimal, without leading zeros. -/
def hexCode (c : Char) : List Char := Nat.toDigits 16 c.toNat

/-- A character as it is shown inside double quotes. -/
def visible (c : Char) : List Char :=
  if c.toNat = 0 then ['\\', '0']
  else if c = '\t' then ['\\', 't']
  else if c = '\r' then ['\\', 'r']
  else if c = '\n' then ['\\', 'n']
  else if c = '\\' then ['\\', '\\']
  else if c = '"' then ['\\', '"']
  else if isExtendingMark c || !isPrintable c then ['\\', 'u', '\x7b'] ++ hexCode c ++ ['\x7d']
  else [c]

/-- A text in double quotes, with escapes for what would not show. -/
def quoteVisible (text : String) : String :=
  String.ofList ('"' :: text.toList.flatMap visible ++ ['"'])

end SchemaScaffold.Unicode
