import Jukebox.Text.Utf8

/-!
# Base 64

Bytes written as letters of a sixty-four letter alphabet, three bytes to four letters.

## Main definitions

* `Jukebox.Base64.encode`: the standard alphabet, filled up with `=` to groups of four.
* `Jukebox.Base64.decode?`: accepts exactly what `encode` writes.
* `Jukebox.Base64.encodeForName`: the alphabet that suits file names, not filled up.
-/

namespace Jukebox.Base64

/-- The letter for a value below 64, with the last two letters of the alphabet given. -/
def letter (c62 c63 : Char) (v : Nat) : Char :=
  if v < 26 then Char.ofNat (0x41 + v)
  else if v < 52 then Char.ofNat (0x61 + (v - 26))
  else if v < 62 then Char.ofNat (0x30 + (v - 52))
  else if v = 62 then c62
  else c63

/-- The value of a letter of the standard alphabet. -/
def value? (c : Char) : Option Nat :=
  let n := c.toNat
  if 0x41 ≤ n ∧ n ≤ 0x5A then some (n - 0x41)
  else if 0x61 ≤ n ∧ n ≤ 0x7A then some (n - 0x61 + 26)
  else if 0x30 ≤ n ∧ n ≤ 0x39 then some (n - 0x30 + 52)
  else if c = '+' then some 62
  else if c = '/' then some 63
  else none

/-- The letters of a byte sequence. The last group is filled up with copies of `fill`. -/
def groups (letterOf : Nat → Char) (fill : List Char) : Bytes → List Char
  | [] => []
  | [a] => letterOf (a.toNat / 4) :: letterOf (a.toNat % 4 * 16) :: (fill ++ fill)
  | [a, b] =>
    letterOf (a.toNat / 4) :: letterOf (a.toNat % 4 * 16 + b.toNat / 16) ::
      letterOf (b.toNat % 16 * 4) :: fill
  | a :: b :: c :: rest =>
    letterOf (a.toNat / 4) :: letterOf (a.toNat % 4 * 16 + b.toNat / 16) ::
      letterOf (b.toNat % 16 * 4 + c.toNat / 64) :: letterOf (c.toNat % 64) ::
      groups letterOf fill rest

/-- The standard form. -/
def encode (bytes : Bytes) : String :=
  String.ofList (groups (letter '+' '/') ['='] bytes)

/-- The form for file names. -/
def encodeForName (bytes : Bytes) : String :=
  String.ofList (groups (letter '-' '_') [] bytes)

/-- The bytes of a group of letters, of which only the last group may be filled up. Bits that no byte
uses must be zero. -/
def decodeLetters? : List Char → Option Bytes
  | [] => some []
  | [w, x, '=', '='] => do
    let w ← value? w
    let x ← value? x
    if x % 16 = 0 then some [UInt8.ofNat (w * 4 + x / 16)] else none
  | [w, x, y, '='] => do
    let w ← value? w
    let x ← value? x
    let y ← value? y
    if y % 4 = 0 then
      some [UInt8.ofNat (w * 4 + x / 16), UInt8.ofNat (x % 16 * 16 + y / 4)]
    else none
  | w :: x :: y :: z :: rest => do
    let w ← value? w
    let x ← value? x
    let y ← value? y
    let z ← value? z
    let bytes ← decodeLetters? rest
    some (UInt8.ofNat (w * 4 + x / 16) :: UInt8.ofNat (x % 16 * 16 + y / 4) ::
      UInt8.ofNat (y % 4 * 64 + z) :: bytes)
  | _ => none

/-- The bytes of a standard form. -/
def decode? (s : String) : Option Bytes :=
  decodeLetters? s.toList

end Jukebox.Base64
