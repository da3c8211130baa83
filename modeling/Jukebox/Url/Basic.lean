import Jukebox.Text.Search
import Jukebox.Url.Host

/-!
# Web addresses

Absolute addresses of the two web schemes, read as browsers read them, and their normal form.

## Main definitions

* `Jukebox.WebUrl`: an absolute address.
* `Jukebox.WebUrl.parse?`: the address that a text stands for.
* `Jukebox.WebUrl.text`: the normal form of an address.

## Design notes

Reading is lenient: blanks and controls around the text do not count, nor do tabs and line ends in it; a
backslash counts as a slash, and there may be any number of slashes behind the scheme. Every part is
encoded as it is read, so that an address is its own normal form.
-/

namespace Jukebox

open Jukebox.Url

/-- The two schemes of the web. -/
inductive WebScheme where
  | http
  | https
  deriving DecidableEq, Repr

namespace WebScheme

def name : WebScheme → String
  | http => "http"
  | https => "https"

/-- The port that need not be written. -/
def defaultPort : WebScheme → Nat
  | http => 80
  | https => 443

end WebScheme

/-- An absolute web address in its normal form. The default port is left out. The path has a segment at
least. -/
structure WebUrl where
  scheme : WebScheme
  user : String
  password : String
  host : Host
  port : Option Nat
  path : List String
  query : Option String
  fragment : Option String
  deriving DecidableEq, Repr

namespace WebUrl

/-- The character does not count at either end of an address. -/
def isOuterBlank (c : Char) : Bool := c.toNat ≤ 0x20

/-- The character does not count anywhere in an address. -/
def isInnerBlank (c : Char) : Bool := c == '\t' || c == '\n' || c == '\r'

/-- The characters of an address that count. -/
def significant (s : List Char) : List Char :=
  let s := s.dropWhile isOuterBlank
  (s.reverse.dropWhile isOuterBlank).reverse.filter (!isInnerBlank ·)

/-- The character separates the segments of a path. -/
def isSlash (c : Char) : Bool := c == '/' || c == '\\'

/-- The character ends the part with the host. -/
def endsAuthority (c : Char) : Bool := isSlash c || c == '?' || c == '#'

/-- The scheme, in letters of any case, and what follows the colon behind it. -/
def takeScheme? (s : List Char) : Option (WebScheme × List Char) := do
  let (front, rest) ← Text.splitAt? (· = ':') s
  match String.ofList (front.map Text.lowerAscii) with
  | "http" => some (.http, rest)
  | "https" => some (.https, rest)
  | _ => none

/-- Splits at the last sign `@`, which ends the user part. -/
def splitUser (authority : List Char) : List Char × List Char :=
  let host := (authority.reverse.takeWhile (· ≠ '@')).reverse
  (authority.take (authority.length - host.length - 1), host)

/-- Splits at the first colon outside of brackets, which starts the port. -/
def splitPort (inBrackets : Bool) : List Char → List Char × Option (List Char)
  | [] => ([], none)
  | c :: rest =>
    if c = ':' ∧ inBrackets = false then ([], some rest)
    else
      let (host, port) := splitPort (c = '[' || (inBrackets && c ≠ ']')) rest
      (c :: host, port)

/-- The number of a port; there need not be one behind the colon. -/
def parsePort? (scheme : WebScheme) : Option (List Char) → Option (Option Nat)
  | none | some [] => some none
  | some digits => do
    let n ← Host.readBase? 10 digits
    if 65535 < n then none else some (if n = scheme.defaultPort then none else some n)

/-- The encoded user name and password. -/
def parseUser (s : List Char) : String × String :=
  let encode (part : List Char) := String.ofList (percentEncode userSet part)
  match Text.splitAt? (· = ':') s with
  | some (user, password) => (encode user, encode password)
  | none => (encode s, "")

/-- The segment stands for the directory it is in. -/
def isSingleDot (segment : List Char) : Bool :=
  [".", "%2e"].contains (String.ofList (segment.map Text.lowerAscii))

/-- The segment stands for the directory above. -/
def isDoubleDot (segment : List Char) : Bool :=
  ["..", ".%2e", "%2e.", "%2e%2e"].contains (String.ofList (segment.map Text.lowerAscii))

/-- The segment names a drive. It cannot be left for the directory above. -/
def isDrive : List Char → Bool
  | [letter, mark] => letter.isAlpha && (mark == ':' || mark == '|')
  | _ => false

/-- The directory above, its segments backwards. -/
def parent : List (List Char) → List (List Char)
  | [] => []
  | segment :: above => if isDrive segment then segment :: above else above

/-- Resolves the segments of a path, in which `before` comes backwards. -/
def resolve (before : List (List Char)) : List (List Char) → List (List Char)
  | [] => before.reverse
  | segment :: rest =>
    let close (before : List (List Char)) := if rest.isEmpty then [] :: before else before
    if isDoubleDot segment then resolve (close (parent before)) rest
    else if isSingleDot segment then resolve (close before) rest
    else resolve (segment :: before) rest

/-- The encoded segments of a path. The slash it starts with may be missing if it is empty. -/
def parsePath (s : List Char) : List String :=
  let segments := (s.drop 1).splitOnP isSlash
  (resolve [] (segments.map (percentEncode pathSet))).map String.ofList

/-- The address that a text stands for. -/
def parse? (s : List Char) : Option WebUrl := do
  let (scheme, rest) ← takeScheme? (significant s)
  let rest := rest.dropWhile isSlash
  let authority := rest.takeWhile (!endsAuthority ·)
  let rest := rest.dropWhile (!endsAuthority ·)
  let (userPart, hostPart) := splitUser authority
  let (user, password) := parseUser userPart
  let (hostText, portText) := splitPort false hostPart
  let host ← Host.parse? hostText
  let port ← parsePort? scheme portText
  let beforeFragment := rest.takeWhile (· ≠ '#')
  let path := parsePath (beforeFragment.takeWhile (· ≠ '?'))
  let query := (beforeFragment.dropWhile (· ≠ '?')).tail?
  let fragment := (rest.dropWhile (· ≠ '#')).tail?
  some { scheme, user, password, host, port, path
         query := query.map fun q => String.ofList (percentEncode querySet q)
         fragment := fragment.map fun f => String.ofList (percentEncode fragmentSet f) }

/-- The user part in front of the host, with the sign behind it. -/
def userText (u : WebUrl) : String :=
  let password := if u.password.isEmpty then "" else ":" ++ u.password
  if u.user.isEmpty && u.password.isEmpty then "" else u.user ++ password ++ "@"

/-- The path with the slash it starts with. -/
def pathText (u : WebUrl) : String :=
  "/" ++ "/".intercalate u.path

/-- The normal form of an address. -/
def text (u : WebUrl) : String :=
  u.scheme.name ++ "://" ++ u.userText ++ u.host.text ++
    (u.port.map fun n => ":" ++ toString n).getD "" ++ u.pathText ++
    (u.query.map ("?" ++ ·)).getD "" ++ (u.fragment.map ("#" ++ ·)).getD ""

/-- The text is an absolute web address. -/
def isValid (s : List Char) : Bool :=
  (parse? s).isSome

end WebUrl

end Jukebox
