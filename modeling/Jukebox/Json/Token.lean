import Jukebox.Json.Basic

/-!
# JSON tokens

The marks, words, numbers and strings that a document consists of.

## Main definitions

* `Jukebox.Json.Token`: one of them.
* `Jukebox.Json.isNumber`: the spelling of a number.
* `Jukebox.Json.scan?`: the tokens of a text.

## Design notes

The scanner looks at each byte once. Its state says what kind of token the byte continues. A run of the
characters of numbers or of letters is collected first and looked at when it ends, since two tokens of
these kinds never stand side by side.
-/

namespace Jukebox.Json

/-- A token. -/
inductive Token where
  | openArray
  | closeArray
  | openObject
  | closeObject
  | comma
  | colon
  | scalar (value : Json)

/-- The byte is a decimal digit. -/
def isDigit (b : UInt8) : Bool := code '0' ≤ b && b ≤ code '9'

/-- What follows the digits that a text starts with, if there are any. -/
def dropDigits? (s : Bytes) : Option Bytes :=
  if s.head?.any isDigit then some (s.dropWhile isDigit) else none

/-- What follows an integer without needless zeros. -/
def dropInteger? (s : Bytes) : Option Bytes :=
  if s.head? = some (code '0') then some s.tail else dropDigits? s

/-- What follows a fraction, which need not be there. -/
def dropFraction? (s : Bytes) : Option Bytes :=
  if s.head? = some (code '.') then dropDigits? s.tail else some s

/-- What follows an exponent, which need not be there. -/
def dropExponent? (s : Bytes) : Option Bytes :=
  if s.head? = some (code 'e') ∨ s.head? = some (code 'E') then
    let digits := s.tail
    dropDigits? (if digits.head? = some (code '+') ∨ digits.head? = some (code '-') then digits.tail
      else digits)
  else some s

/-- The text without the minus sign it may start with. -/
def dropSign (s : Bytes) : Bytes :=
  if s.head? = some (code '-') then s.tail else s

def isNumber (s : Bytes) : Bool :=
  match dropInteger? (dropSign s) >>= dropFraction? >>= dropExponent? with
  | some [] => true
  | _ => false

/-- The value of a word. -/
def word? (s : Bytes) : Option Json :=
  if s = Bytes.ofString "null" then some .null
  else if s = Bytes.ofString "true" then some (.bool true)
  else if s = Bytes.ofString "false" then some (.bool false)
  else none

/-- What a byte may continue. Collected bytes come backwards. -/
inductive Scan where
  | idle
  | string (read : Bytes)
  | escape (read : Bytes)
  | digits (left : Nat) (read : Bytes)
  | number (read : Bytes)
  | word (read : Bytes)

/-- The byte may stand in the spelling of a number. -/
def inNumber (b : UInt8) : Bool :=
  isDigit b || [code '-', code '+', code '.', code 'e', code 'E'].contains b

/-- The byte is a letter in a word. -/
def inWord (b : UInt8) : Bool := code 'a' ≤ b && b ≤ code 'z'

/-- The byte is blank between tokens. -/
def isSpace (b : UInt8) : Bool :=
  [code ' ', code '\t', code '\n', code '\r'].contains b

def mark? (b : UInt8) : Option Token :=
  if b = code '[' then some .openArray
  else if b = code ']' then some .closeArray
  else if b = code '\x7b' then some .openObject
  else if b = code '\x7d' then some .closeObject
  else if b = code ',' then some .comma
  else if b = code ':' then some .colon
  else none

/-- Reads a byte between tokens. -/
def scanIdle? (tokens : List Token) (b : UInt8) : Option (Scan × List Token) :=
  if isSpace b then some (.idle, tokens)
  else if b = code '"' then some (.string [], tokens)
  else if b = code '-' || isDigit b then some (.number [b], tokens)
  else if inWord b then some (.word [b], tokens)
  else (mark? b).map fun t => (.idle, t :: tokens)

/-- Adds the number whose spelling has ended. -/
def endNumber? (read : Bytes) (tokens : List Token) : Option (List Token) :=
  if isNumber read.reverse then some (.scalar (.number read.reverse) :: tokens) else none

/-- Adds the word whose spelling has ended. -/
def endWord? (read : Bytes) (tokens : List Token) : Option (List Token) :=
  (word? read.reverse).map fun value => .scalar value :: tokens

/-- Reads one byte. The tokens read so far come backwards. -/
def scanByte? (state : Scan × List Token) (b : UInt8) : Option (Scan × List Token) :=
  let (scan, tokens) := state
  match scan with
  | .idle => scanIdle? tokens b
  | .string read =>
    if b = code '"' then some (.idle, .scalar (.string read.reverse) :: tokens)
    else if b = code '\\' then some (.escape (b :: read), tokens)
    else if b < 0x20 then none
    else some (.string (b :: read), tokens)
  | .escape read =>
    if b = code 'u' then some (.digits 4 (b :: read), tokens)
    else if (shortEscape? b).isSome then some (.string (b :: read), tokens)
    else none
  | .digits left read =>
    if (hexByte? b).isNone then none
    else if left = 1 then some (.string (b :: read), tokens)
    else some (.digits (left - 1) (b :: read), tokens)
  | .number read =>
    if inNumber b then some (.number (b :: read), tokens)
    else do scanIdle? (← endNumber? read tokens) b
  | .word read =>
    if inWord b then some (.word (b :: read), tokens)
    else do scanIdle? (← endWord? read tokens) b

/-- Ends a text. -/
def scanEnd? (state : Scan × List Token) : Option (List Token) :=
  match state with
  | (.idle, tokens) => some tokens
  | (.number read, tokens) => endNumber? read tokens
  | (.word read, tokens) => endWord? read tokens
  | _ => none

/-- The tokens of a text. -/
def scan? (bytes : Bytes) : Option (List Token) := do
  let state ← bytes.foldlM scanByte? (.idle, [])
  some (← scanEnd? state).reverse

end Jukebox.Json
