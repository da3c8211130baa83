import Jukebox.Url.DomainName
import Jukebox.Url.Percent

/-!
# Hosts

The host of an address: a domain name, or a number of the fourth or sixth version of the internet
protocol.

## Main definitions

* `Jukebox.Url.Host`: a host.
* `Jukebox.Url.Host.parse?`: the host written in an address.
* `Jukebox.Url.Host.text`: the normal form of a host.
-/

namespace Jukebox.Url

/-- The host of an address. The pieces of a number of the sixth version have sixteen bits each. -/
inductive Host where
  | domain (name : String)
  | ipv4 (number : Nat)
  | ipv6 (pieces : List Nat)
  deriving DecidableEq, Repr

namespace Host

/-- A character that no domain name may hold. -/
def isForbidden (c : Char) : Bool :=
  c.toNat ≤ 0x20 || c.toNat == 0x7F ||
    ['#', '%', '/', ':', '<', '>', '?', '@', '[', '\\', ']', '^', '|'].contains c

/-- The number written in the digits of a base, if there are only such digits. -/
def readBase? (base : Nat) (digits : List Char) : Option Nat :=
  digits.foldl (fun n c => do
    let v ← Text.hexDigit? c
    if v < base then some ((← n) * base + v) else none) (some 0)

/-- A part of a dotted number: decimal, octal behind a zero, or hexadecimal behind `0x`. -/
def dottedPart? : List Char → Option Nat
  | [] => none
  | '0' :: x :: rest =>
    if x = 'x' ∨ x = 'X' then readBase? 16 rest else readBase? 8 (x :: rest)
  | digits => readBase? 10 digits

/-- The parts of a name, without the empty one behind a full stop at the end. -/
def dottedParts (name : List Char) : List (List Char) :=
  let parts := labels name
  if parts.getLast? = some [] then parts.dropLast else parts

/-- The last part of the name is a number, so that the whole has to be one. -/
def endsInNumber (name : List Char) : Bool :=
  match (dottedParts name).getLast? with
  | none => false
  | some last => (!last.isEmpty && last.all Char.isDigit) || (dottedPart? last).isSome

/-- The number of at most four parts, of which the last fills the bytes that the others leave. -/
def parseIpv4? (name : List Char) : Option Nat := do
  let parts ← (dottedParts name).mapM dottedPart?
  let last ← parts.getLast?
  let front := parts.dropLast
  if 3 < front.length ∨ Nat.pow 256 (4 - front.length) ≤ last ∨ front.any (255 < ·) then none
  else some (front.foldr (fun p n => p * 0x1000000 + n / 256) 0 + last)

/-- A piece of one to four hexadecimal digits. -/
def parsePiece? (s : List Char) : Option Nat :=
  if s.isEmpty ∨ 4 < s.length then none else readBase? 16 s

/-- A byte in decimal digits without leading zeros. -/
def parseByte? (s : List Char) : Option Nat :=
  match s with
  | [] => none
  | ['0'] => some 0
  | '0' :: _ => none
  | _ =>
    if 3 < s.length then none
    else match readBase? 10 s with
      | some n => if n < 256 then some n else none
      | none => none

/-- Four bytes as two pieces. -/
def parseBytes? (s : List Char) : Option (List Nat) :=
  match (labels s).mapM parseByte? with
  | some [a, b, c, d] => some [a * 256 + b, c * 256 + d]
  | _ => none

/-- The pieces between colons; the last two may be written as four bytes. -/
def parsePieces? (mayEndInBytes : Bool) (s : List Char) : Option (List Nat) :=
  if s.isEmpty then some []
  else do
    let parts := s.splitOnP (· = ':')
    let last ← parts.getLast?
    let front ← parts.dropLast.mapM parsePiece?
    let back ←
      if mayEndInBytes && last.contains '.' then parseBytes? last
      else (parsePiece? last).map fun n => [n]
    some (front ++ back)

/-- The text before and after the first double colon. -/
def splitAtGap? : List Char → Option (List Char × List Char)
  | [] => none
  | ':' :: ':' :: rest => some ([], rest)
  | c :: rest => (splitAtGap? rest).map fun (before, after) => (c :: before, after)

/-- The eight pieces, of which a double colon may leave out those that are zero. -/
def parseIpv6? (s : List Char) : Option (List Nat) :=
  match splitAtGap? s with
  | none => do
    let pieces ← parsePieces? true s
    if pieces.length = 8 then some pieces else none
  | some (before, after) => do
    let front ← parsePieces? false before
    let back ← parsePieces? true after
    let given := front.length + back.length
    if given < 8 then some (front ++ List.replicate (8 - given) 0 ++ back) else none

/-- The host that a domain name stands for, percent signs decoded. -/
def parseName? (s : List Char) : Option Host := do
  let decoded ← Bytes.toString? (percentDecode s)
  let name ← domainToAscii? decoded.toList
  if name.isEmpty ∨ name.any isForbidden then none
  else if endsInNumber name then (parseIpv4? name).map ipv4
  else some (domain (String.ofList name))

/-- The host written in an address. -/
def parse? (s : List Char) : Option Host :=
  match s with
  | '[' :: rest =>
    match rest.reverse with
    | ']' :: inner => (parseIpv6? inner.reverse).map ipv6
    | _ => none
  | _ => parseName? s

/-- A number in four decimal parts. -/
def ipv4Text (n : Nat) : String :=
  ".".intercalate ([3, 2, 1, 0].map fun i => toString (n / Nat.pow 256 i % 256))

/-- The length of the run of zeros that the pieces start with. -/
def zeroRun (pieces : List Nat) : Nat :=
  (pieces.takeWhile (· = 0)).length

/-- The start and the length of the first longest run of zeros, from the piece with index `i` on. -/
def longestRun : List Nat → Nat → Nat × Nat → Nat × Nat
  | [], _, best => best
  | p :: rest, i, best =>
    let run := zeroRun (p :: rest)
    longestRun rest (i + 1) (if best.2 < run then (i, run) else best)

/-- Pieces in lower-case hexadecimal digits, with colons between them. -/
def piecesText (pieces : List Nat) : String :=
  ":".intercalate (pieces.map fun p => String.ofList (Nat.toDigits 16 p))

/-- A number in pieces, in which the first longest run of several zeros is left out. -/
def ipv6Text (pieces : List Nat) : String :=
  let (start, length) := longestRun pieces 0 (0, 0)
  if length < 2 then piecesText pieces
  else piecesText (pieces.take start) ++ "::" ++ piecesText (pieces.drop (start + length))

/-- The normal form of a host. -/
def text : Host → String
  | domain name => name
  | ipv4 n => ipv4Text n
  | ipv6 pieces => "[" ++ ipv6Text pieces ++ "]"

end Host

end Jukebox.Url
