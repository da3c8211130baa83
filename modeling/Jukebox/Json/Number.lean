import Jukebox.Json.Token

/-!
# Numbers in JSON

What the spelling of a number stands for: a whole number within a bound, or a floating-point number.

## Main definitions

* `Jukebox.Json.unsigned?`: a whole number that is not negative.
* `Jukebox.Json.float?`: a floating-point number.

## Design notes

A floating-point number is read as a significand of at most 64 bits and a power of ten. Digits for which
the significand has no room only count for the power. The significand is then multiplied or divided once,
or repeatedly if the power is beyond the range; a number that is too large has no value.
-/

namespace Jukebox.Json

/-- The values of the digits that a text starts with. -/
def digitValues (s : Bytes) : List Nat :=
  (s.takeWhile isDigit).map fun b => b.toNat - 0x30

/-- The number of some digits. -/
def digitsValue (digits : List Nat) : Nat :=
  digits.foldl (fun n d => n * 10 + d) 0

/-- The whole number that a spelling stands for, if it is not negative and at most `bound`. -/
def unsigned? (bound : Nat) (literal : Bytes) : Option Nat :=
  if literal.all isDigit then
    let n := digitsValue (digitValues literal)
    if n ≤ bound then some n else none
  else none

/-- Appends digits to a significand as long as it has room, and tells how many are left over. -/
def fill : Nat → List Nat → Nat × Nat
  | n, [] => (n, 0)
  | n, d :: digits => if 2 ^ 64 ≤ n * 10 + d then (n, digits.length + 1) else fill (n * 10 + d) digits

/-- A power of ten. -/
def tenTo (n : Nat) : Float := Float.ofScientific 1 false n

/-- Divides by a power of ten, beyond the range in several steps. -/
def divideByTens (x : Float) (n : Nat) : Float :=
  if n ≤ 308 then x / tenTo n
  else if x == 0 then x
  else divideByTens (x / tenTo 308) (n - 308)
termination_by n

/-- Multiplies by a power of ten. The result may be too large. -/
def multiplyByTens? (x : Float) (n : Nat) : Option Float :=
  if n ≤ 308 then
    let y := x * tenTo n
    if y.isInf then none else some y
  else if x == 0 then some x
  else none

def scaleByTens? (significand : Nat) (power : Int) : Option Float :=
  let x := (UInt64.ofNat significand).toFloat
  if 0 ≤ power then multiplyByTens? x power.toNat else some (divideByTens x (-power).toNat)

/-- The sign, and the digits of a whole number. -/
def signedDigits (s : Bytes) : Bool × List Nat :=
  (s.head? = some (code '-'), digitValues (if s.head?.any isDigit then s else s.tail))

/-- The size of the floating-point number that a spelling without sign stands for. -/
def magnitude? (literal : Bytes) : Option Float :=
  let (significand, surplus) := fill 0 (digitValues literal)
  let rest := literal.dropWhile isDigit
  let fraction := if rest.head? = some (code '.') then digitValues rest.tail else []
  let (significand, unused) := fill significand fraction
  let power : Int := surplus - (fraction.length - unused)
  let tail := (literal.dropWhile fun b => b ≠ code 'e' && b ≠ code 'E')
  match tail with
  | [] => scaleByTens? significand power
  | _ :: exponent =>
    let (isNegative, digits) := signedDigits exponent
    let n := digitsValue digits
    if 0x80000000 ≤ n then
      if significand ≠ 0 ∧ isNegative = false then none else some 0
    else scaleByTens? significand (if isNegative then power - n else power + n)

/-- The floating-point number that a spelling stands for. -/
def float? (literal : Bytes) : Option Float :=
  (magnitude? (dropSign literal)).map fun x =>
    if literal.head? = some (code '-') then -x else x

end Jukebox.Json
