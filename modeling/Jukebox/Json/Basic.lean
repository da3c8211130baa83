import Jukebox.Text.SpanTable
import Jukebox.Text.Utf8

/-!
# JSON documents

A document as it is written: strings and numbers keep their spelling, since what they mean is a question
only for those that somebody reads.

## Main definitions

* `Jukebox.Json`: a document.
* `Jukebox.Json.escape`, `Jukebox.Json.unescape?`: the spelling of a text and the text of a spelling.
* `Jukebox.Json.compact`, `Jukebox.Json.pretty`: a document on one line or on many.
-/

namespace Jukebox

/-- A document. A string holds the bytes between its quotes and a number its digits and signs. -/
inductive Json where
  | null
  | bool (b : Bool)
  | number (literal : Bytes)
  | string (spelling : Bytes)
  | array (items : List Json)
  | object (fields : List (Bytes × Json))

namespace Json

abbrev code (c : Char) : UInt8 := c.toUInt8

/-- The four digits of a code point in an escape. -/
def fourDigits (n : Nat) : List Char :=
  let digits := Nat.toDigits 16 n
  List.replicate (4 - digits.length) '0' ++ digits

/-- One character as it is spelt in a string. -/
def escapeChar (c : Char) : List Char :=
  match c with
  | '"' => ['\\', '"']
  | '\\' => ['\\', '\\']
  | '\x08' => ['\\', 'b']
  | '\x0c' => ['\\', 'f']
  | '\n' => ['\\', 'n']
  | '\r' => ['\\', 'r']
  | '\t' => ['\\', 't']
  | c => if c.toNat < 0x20 then '\\' :: 'u' :: fourDigits c.toNat else [c]

/-- The spelling of a text. -/
def escape (s : String) : Bytes :=
  Bytes.ofString (String.ofList (s.toList.flatMap escapeChar))

/-- The value of a hexadecimal digit. -/
def hexByte? (b : UInt8) : Option Nat :=
  Text.hexDigit? (Char.ofNat b.toNat)

/-- The number of four hexadecimal digits, and what follows them. -/
def takeFour? : Bytes → Option (Nat × Bytes)
  | a :: b :: c :: d :: rest => do
    let a ← hexByte? a
    let b ← hexByte? b
    let c ← hexByte? c
    let d ← hexByte? d
    some (((a * 16 + b) * 16 + c) * 16 + d, rest)
  | _ => none

/-- Reads the digits of an escape by code point, with what follows. A high surrogate needs a low one
behind it, and a low one may not stand by itself. -/
def takeCodePoint? (bytes : Bytes) : Option (Char × Bytes) := do
  let (high, rest) ← takeFour? bytes
  if high < 0xD800 ∨ 0xE000 ≤ high then some (Char.ofNat high, rest)
  else if 0xDC00 ≤ high then none
  else match rest with
    | b :: u :: rest => do
      if b ≠ code '\\' ∨ u ≠ code 'u' then none
      let (low, rest) ← takeFour? rest
      if low < 0xDC00 ∨ 0xE000 ≤ low then none
      some (Char.ofNat (0x10000 + (high - 0xD800) * 0x400 + (low - 0xDC00)), rest)
    | _ => none

/-- The byte for which a letter stands behind a backslash. -/
def shortEscape? (b : UInt8) : Option UInt8 :=
  if b = code '"' ∨ b = code '\\' ∨ b = code '/' then some b
  else if b = code 'b' then some 0x08
  else if b = code 'f' then some 0x0C
  else if b = code 'n' then some 0x0A
  else if b = code 'r' then some 0x0D
  else if b = code 't' then some 0x09
  else none

/-- The bytes that a spelling stands for, behind those in `done`, which come backwards. The bound is the
number of steps that may be taken. -/
def unescapeBytes? : Nat → Bytes → Bytes → Option Bytes
  | _, [], done => some done.reverse
  | 0, _ :: _, _ => none
  | bound + 1, b :: rest, done =>
    if b ≠ code '\\' then unescapeBytes? bound rest (b :: done)
    else match rest with
      | [] => none
      | e :: rest =>
        if e = code 'u' then
          match takeCodePoint? rest with
          | none => none
          | some (c, rest) => unescapeBytes? bound rest ((String.utf8EncodeChar c).reverse ++ done)
        else match shortEscape? e with
          | none => none
          | some b => unescapeBytes? bound rest (b :: done)

/-- The text of a spelling. -/
def unescape? (spelling : Bytes) : Option String := do
  Bytes.toString? (← unescapeBytes? spelling.length spelling [])

/-- A text in a document. -/
def ofString (s : String) : Json := .string (escape s)

/-- A number in a document. -/
def ofNat (n : Nat) : Json := .number (Bytes.ofString (toString n))

/-- An object in a document. -/
def ofFields (fields : List (String × Json)) : Json :=
  .object (fields.map fun (name, value) => (escape name, value))

/-- A string with its quotes. -/
def quoted (spelling : Bytes) : Bytes :=
  code '"' :: (spelling ++ [code '"'])

/-- The parts with a separator between them. -/
def joined (separator : Bytes) (parts : List Bytes) : Bytes :=
  separator.intercalate parts

mutual

/-- A document on one line. -/
def compact : Json → Bytes
  | .null => Bytes.ofString "null"
  | .bool b => Bytes.ofString (if b then "true" else "false")
  | .number literal => literal
  | .string spelling => quoted spelling
  | .array items => code '[' :: (joined [code ','] (compactItems items) ++ [code ']'])
  | .object fields => code '\x7b' :: (joined [code ','] (compactFields fields) ++ [code '\x7d'])

/-- Each item on one line. -/
def compactItems : List Json → List Bytes
  | [] => []
  | item :: items => compact item :: compactItems items

/-- Each field on one line. -/
def compactFields : List (Bytes × Json) → List Bytes
  | [] => []
  | (name, value) :: fields =>
    (quoted name ++ code ':' :: compact value) :: compactFields fields

end

/-- A line end and the indentation of the next line, two blanks for each level. -/
def newLine (level : Nat) : Bytes :=
  code '\n' :: List.replicate (2 * level) (code ' ')

/-- The parts on lines of their own between brackets; without parts, the brackets alone. -/
def block (level : Nat) (opening closing : Char) (parts : List Bytes) : Bytes :=
  if parts.isEmpty then [code opening, code closing]
  else code opening :: (newLine (level + 1) ++
    joined (code ',' :: newLine (level + 1)) parts ++ newLine level ++ [code closing])

mutual

/-- A document with every item and field on a line of its own, at a level of indentation. -/
def prettyAt (level : Nat) : Json → Bytes
  | .null => Bytes.ofString "null"
  | .bool b => Bytes.ofString (if b then "true" else "false")
  | .number literal => literal
  | .string spelling => quoted spelling
  | .array items => block level '[' ']' (prettyItems (level + 1) items)
  | .object fields => block level '\x7b' '\x7d' (prettyFields (level + 1) fields)

/-- Each item at a level of indentation. -/
def prettyItems (level : Nat) : List Json → List Bytes
  | [] => []
  | item :: items => prettyAt level item :: prettyItems level items

/-- Each field at a level of indentation. -/
def prettyFields (level : Nat) : List (Bytes × Json) → List Bytes
  | [] => []
  | (name, value) :: fields =>
    (quoted name ++ code ':' :: code ' ' :: prettyAt level value) :: prettyFields level fields

end

/-- A document with every item and field on a line of its own. -/
def pretty (j : Json) : Bytes := prettyAt 0 j

end Json

end Jukebox
