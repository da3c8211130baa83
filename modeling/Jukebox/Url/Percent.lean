import Jukebox.Text.SpanTable
import Jukebox.Text.Utf8

/-!
# Percent encoding

Characters that may not stand in a part of an address are written as the bytes of their UTF-8 form, each
as a percent sign and two hexadecimal digits.

## Main definitions

* `Jukebox.Url.EncodeSet`: the ASCII characters that a part of an address encodes.
* `Jukebox.Url.percentEncode`: encodes the characters of a set and all beyond ASCII.
* `Jukebox.Url.percentDecode`: the bytes that a text stands for.
* `Jukebox.Url.formEncode`: the encoding of form values.
-/

namespace Jukebox.Url

/-- The ASCII characters that a part of an address encodes. -/
abbrev EncodeSet := Char → Bool

def controlSet : EncodeSet := fun c => c.toNat < 0x20 || c.toNat == 0x7F

def fragmentSet : EncodeSet := fun c => controlSet c || [' ', '"', '<', '>', '`'].contains c

def querySet : EncodeSet := fun c => controlSet c || [' ', '"', '#', '<', '>', '\''].contains c

def pathSet : EncodeSet := fun c => fragmentSet c || ['#', '?', '\x7b', '\x7d'].contains c

/-- What a user name or a password encodes. -/
def userSet : EncodeSet := fun c =>
  pathSet c || ['/', ':', ';', '=', '@', '[', '\\', ']', '^', '|'].contains c

/-- An upper-case hexadecimal digit. -/
def hexChar (v : Nat) : Char :=
  if v < 10 then Char.ofNat (0x30 + v) else Char.ofNat (0x41 + (v - 10))

/-- A byte as a percent sign and two digits. -/
def percentByte (b : UInt8) : List Char :=
  ['%', hexChar (b.toNat / 16), hexChar (b.toNat % 16)]

def percentChar (set : EncodeSet) (c : Char) : List Char :=
  if c.toNat < 0x80 ∧ set c = false then [c]
  else (String.utf8EncodeChar c).flatMap percentByte

/-- Encodes the characters of a set and all beyond ASCII. -/
def percentEncode (set : EncodeSet) (s : List Char) : List Char :=
  s.flatMap (percentChar set)

/-- The bytes that a text stands for. A percent sign without two digits stands for itself. -/
def percentDecode : List Char → Bytes
  | [] => []
  | '%' :: h :: l :: rest =>
    match Text.hexDigit? h, Text.hexDigit? l with
    | some h, some l => UInt8.ofNat (h * 16 + l) :: percentDecode rest
    | _, _ => 0x25 :: percentDecode (h :: l :: rest)
  | c :: rest => String.utf8EncodeChar c ++ percentDecode rest

/-- The character stands for itself in a form value. -/
def isFormSafe (c : Char) : Bool :=
  c.isAlphanum || ['*', '-', '.', '_'].contains c

/-- The encoding of form values, in which a space is a plus sign. -/
def formEncode (s : List Char) : List Char :=
  s.flatMap fun c => if c = ' ' then ['+'] else percentChar (!isFormSafe ·) c

end Jukebox.Url
