/-!
# Numbers in text

Reading an unsigned number of bounded size, with the cause of a failure, and writing numbers with a
fixed number of digits.

## Main definitions

* `Jukebox.Text.NumberFault`: why a text is no such number.
* `Jukebox.Text.readUnsigned`: the number up to a bound.
* `Jukebox.Text.pad`: decimal digits, filled up with zeros.
* `Jukebox.Text.fixedPoint`: a binary fraction with a fixed number of decimals.
-/

namespace Jukebox.Text

/-- Why a text is no unsigned number within a bound. -/
inductive NumberFault where
  | empty
  | invalidDigit
  | tooLarge
  deriving DecidableEq, Repr

/-- The wording of a fault. -/
def NumberFault.message : NumberFault → String
  | .empty => "cannot parse integer from empty string"
  | .invalidDigit => "invalid digit found in string"
  | .tooLarge => "number too large to fit in target type"

/-- The value of a decimal digit. -/
def digit? (c : Char) : Option Nat :=
  if '0' ≤ c ∧ c ≤ '9' then some (c.toNat - 0x30) else none

/-- Reads digits from the left on top of `value`; the first fault met is reported. -/
def readDigits (bound value : Nat) : List Char → Except NumberFault Nat
  | [] => .ok value
  | c :: rest =>
    match digit? c with
    | none => .error .invalidDigit
    | some d => if bound < value * 10 + d then .error .tooLarge else readDigits bound (value * 10 + d) rest

/-- The number written in the text, at most `bound`. A plus sign may stand in front of the digits. -/
def readUnsigned (bound : Nat) : List Char → Except NumberFault Nat
  | [] => .error .empty
  | ['+'] => .error .invalidDigit
  | '+' :: digits => readDigits bound 0 digits
  | digits => readDigits bound 0 digits

/-- The largest number of 64 bits. -/
def maxUInt64 : Nat := 0xFFFFFFFFFFFFFFFF

/-- Decimal digits, filled up with zeros to `width`. -/
def pad (width n : Nat) : String :=
  let digits := Nat.toDigits 10 n
  String.ofList (List.replicate (width - digits.length) '0' ++ digits)

/-- The quotient rounded to the nearest number, a half going to the even one. -/
def roundDiv (num den : Nat) : Nat :=
  let q := num / den
  let twice := 2 * (num % den)
  if den < twice ∨ (twice = den ∧ q % 2 = 1) then q + 1 else q

/-- A finite number that is not negative, with `places` decimals. Its exact value is rounded, a half
going to the even neighbour. -/
def fixedPoint (places : Nat) (x : Float) : String :=
  let bits := x.toBits.toNat
  let exponent := bits / 0x10000000000000 % 2048
  let fraction := bits % 0x10000000000000
  let mantissa := if exponent = 0 then fraction else fraction + 0x10000000000000
  let power := max exponent 1
  let unit := Nat.pow 10 places
  let scaled := roundDiv (mantissa * Nat.pow 2 (power - 1075) * unit) (Nat.pow 2 (1075 - power))
  toString (scaled / unit) ++ "." ++ pad places (scaled % unit)

end Jukebox.Text
