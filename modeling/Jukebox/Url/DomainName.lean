import Jukebox.Text.Case
import Jukebox.Text.Normal
import Jukebox.Url.MappingTable
import Jukebox.Url.Punycode
import Jukebox.Url.ScriptTable

/-!
# Domain names

The ASCII form of a domain name that may be written in any script. Its characters are mapped and
composed; then each label has to be fit to be shown, and a label beyond ASCII is written in Punycode.

## Main definitions

* `Jukebox.Url.mapName?`: the name after mapping and composing.
* `Jukebox.Url.isFitLabel`: the label may stand in a domain name.
* `Jukebox.Url.obeysDirection`: the label reads in one direction.
* `Jukebox.Url.domainToAscii?`: the ASCII form of a domain name.

## Design notes

Hyphens in a label are not looked at, and its length counts only if the label is or has to be encoded:
the time for that grows with the square of the length. A name in ASCII without encoded labels only
changes its letters to lower case, and the tables are not asked.
-/

namespace Jukebox.Url

open Jukebox.Text

/-- What becomes of a character of a domain name. -/
inductive NameFate where
  | stays
  | refused
  | replaced (by_ : List Char)

/-- Reads the fate of a character in the mapping table. -/
def NameFate.read : List Char → NameFate
  | ['V'] => .stays
  | ['X'] => .refused
  | [] => .replaced []
  | dotted => .replaced (dottedChars dotted)

/-- The fates of all characters. -/
def mappingTable : SpanTable NameFate :=
  SpanTable.read NameFate.read mappingData

/-- What becomes of a character of a domain name. -/
def nameFate (c : Char) : NameFate :=
  (mappingTable.get? c.toNat).getD .refused

/-- What a fate makes of a character. -/
def NameFate.image (c : Char) : NameFate → Option (List Char)
  | .stays => some [c]
  | .refused => none
  | .replaced s => some s

/-- What a character of a domain name is mapped to. -/
def mapNameChar? (c : Char) : Option (List Char) :=
  (nameFate c).image c

/-- The name after mapping and composing. -/
def mapName? (name : List Char) : Option (List Char) :=
  (name.mapM mapNameChar?).map fun parts => composed parts.flatten

/-- The text is all ASCII. -/
def isAscii (s : List Char) : Bool :=
  s.all (·.toNat < 0x80)

/-- The most characters of a label that may be written in Punycode. -/
def maxTextLength : Nat := 1000

/-- The most letters behind the front of a label in Punycode. -/
def maxCodeLength : Nat := 2000

def punycodeFront : List Char := ['x', 'n', '-', '-']

/-- The bidirectional classes that the direction rule tells apart. -/
inductive Direction where
  | left | right | arabicLetter | arabicNumber | europeanNumber | europeanSeparator
  | commonSeparator | europeanTerminator | otherNeutral | boundaryNeutral | mark | other
  deriving DecidableEq

/-- Reads a class in the direction table. -/
def Direction.read (s : List Char) : Direction :=
  match String.ofList s with
  | "L" => .left
  | "R" => .right
  | "AL" => .arabicLetter
  | "AN" => .arabicNumber
  | "EN" => .europeanNumber
  | "ES" => .europeanSeparator
  | "CS" => .commonSeparator
  | "ET" => .europeanTerminator
  | "ON" => .otherNeutral
  | "BN" => .boundaryNeutral
  | "NSM" => .mark
  | _ => .other

/-- The bidirectional classes of all characters. -/
def directionTable : SpanTable Direction :=
  SpanTable.read Direction.read directionData

/-- The bidirectional class of a character. -/
def direction (c : Char) : Direction :=
  (directionTable.get? c.toNat).getD .left

/-- The joining types of all characters, by their letters. -/
def joiningTable : SpanTable Char :=
  SpanTable.read (fun s => s.headD 'U') joiningData

def joiningType (c : Char) : Char :=
  (joiningTable.get? c.toNat).getD 'U'

/-- The characters that are combining marks. -/
def markTable : SpanTable Bool :=
  SpanTable.read (fun s => s = ['M']) markData

def isMark (c : Char) : Bool :=
  (markTable.get? c.toNat).getD false

/-- The first character with a joining type other than transparent has one of the given types. -/
def joinsWith (types : List Char) (s : List Char) : Bool :=
  ((s.map joiningType).dropWhile (· = 'T')).head?.any (types.contains ·)

/-- Each joiner in the rest of a label stands where it has an effect: behind a virama, or, if it is a
non-joiner, between two letters that would join. The characters before the rest come backwards. -/
def joinersFit (before : List Char) : List Char → Bool
  | [] => true
  | c :: rest =>
    let behindVirama := before.head?.any (combiningClass · = 9)
    let fits :=
      if c = '\u200D' then behindVirama
      else if c = '\u200C' then
        behindVirama || (joinsWith ['L', 'D'] before && joinsWith ['R', 'D'] rest)
      else true
    fits && joinersFit (c :: before) rest

/-- The label may stand in a domain name: it is not too long to be encoded, is composed, does not start
with a mark, holds only characters that stay as they are, and its joiners stand where they have an
effect. -/
def isFitLabel (label : List Char) : Bool :=
  (isAscii label || label.length ≤ maxTextLength) &&
    composed label == label &&
    !label.head?.any isMark &&
    label.all (fun c => match nameFate c with | .stays => c ≠ '.' | _ => false) &&
    joinersFit [] label

/-- The character makes its whole name subject to the direction rule. -/
def isRightToLeft (c : Char) : Bool :=
  [Direction.right, .arabicLetter, .arabicNumber].contains (direction c)

/-- The label reads in one direction. The class of its first character says which; the other characters
and the last one that is no mark have to agree with it. -/
def obeysDirection (label : List Char) : Bool :=
  let classes := label.map direction
  let last := (classes.reverse.dropWhile (· = .mark)).headD .other
  let within (allowed : List Direction) : Bool := classes.all (allowed.contains ·)
  let neutral : List Direction :=
    [.europeanNumber, .europeanSeparator, .commonSeparator, .europeanTerminator, .otherNeutral,
      .boundaryNeutral, .mark]
  match classes with
  | [] => true
  | first :: _ =>
    if first = .left then
      within (.left :: neutral) && [Direction.left, .europeanNumber].contains last
    else if first = .right ∨ first = .arabicLetter then
      within (.right :: .arabicLetter :: .arabicNumber :: neutral) &&
        [Direction.right, .arabicLetter, .europeanNumber, .arabicNumber].contains last &&
        !(classes.contains .europeanNumber && classes.contains .arabicNumber)
    else false

/-- What a label of a mapped name stands for. A label in Punycode stands for its text, which has to need
that form. -/
def labelText? (label : List Char) : Option (List Char) :=
  if punycodeFront.isPrefixOf label then
    let code := label.drop punycodeFront.length
    if isAscii code && code.length ≤ maxCodeLength then
      match Punycode.decode? code with
      | some text => if isAscii text then none else some text
      | none => none
    else none
  else some label

def labelToAscii (text : List Char) : List Char :=
  if isAscii text then text else punycodeFront ++ Punycode.encode text

/-- The parts between the full stops. -/
def labels (name : List Char) : List (List Char) :=
  name.splitOnP (· = '.')

/-- The parts joined by full stops. -/
def joinLabels (parts : List (List Char)) : List Char :=
  ['.'].intercalate parts

/-- The ASCII form of a domain name in any script. -/
def internationalToAscii? (name : List Char) : Option (List Char) := do
  let mapped ← mapName? name
  let texts ← (labels mapped).mapM labelText?
  if !texts.all isFitLabel then none
  else if texts.any (·.any isRightToLeft) && !texts.all obeysDirection then none
  else some (joinLabels (texts.map labelToAscii))

/-- The name is in ASCII, and none of its labels is in Punycode. -/
def isPlainName (name : List Char) : Bool :=
  isAscii name && (labels name).all fun label => !punycodeFront.isPrefixOf label

def domainToAscii? (name : List Char) : Option (List Char) :=
  let lowered := name.map lowerAscii
  if isPlainName lowered then some lowered else internationalToAscii? name

end Jukebox.Url
