import Jukebox.Text.Case
import Jukebox.Text.ShapeTable

/-!
# Quoted text

A text as it is shown to someone who inspects it: between double quotes, with every character that
would not show written as an escape.

## Main definitions

* `Jukebox.Text.quoteChar`: one character inside the quotes.
* `Jukebox.Text.quote`: the text between its quotes.
-/

namespace Jukebox.Text

/-- The character does not show by itself. -/
def isShapeless (c : Char) : Bool :=
  c.toNat < 0x20 || c.toNat == 0x7F || (0x80 ≤ c.toNat && inSpans shapelessSpans c)

/-- An escape by code point, in lower-case hexadecimal digits without leading zeros. -/
def codePointEscape (c : Char) : List Char :=
  '\\' :: 'u' :: '\x7b' :: (Nat.toDigits 16 c.toNat ++ ['\x7d'])

/-- One character as it stands between the quotes. -/
def quoteChar (c : Char) : List Char :=
  if c = '\x00' then ['\\', '0']
  else if c = '\t' then ['\\', 't']
  else if c = '\r' then ['\\', 'r']
  else if c = '\n' then ['\\', 'n']
  else if c = '\\' then ['\\', '\\']
  else if c = '"' then ['\\', '"']
  else if isShapeless c then codePointEscape c
  else [c]

/-- The text between double quotes. -/
def quote (s : String) : String :=
  String.ofList ('"' :: (s.toList.flatMap quoteChar ++ ['"']))

end Jukebox.Text
