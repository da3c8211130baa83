import Jukebox.Provider
import Jukebox.Text.Blank
import Jukebox.Url.Basic

/-!
# Queries

What a user asks for, attributed to a provider. A query is either a web address or terms to search for.

## Main definitions

* `Jukebox.Query`: a query with its provider.
* `Jukebox.Query.ofInput`: the query in what a user typed.
* `Jukebox.Query.request`: the text that is sent to a loader.
* `Jukebox.Query.normal`, `Jukebox.Query.fingerprint`: what makes two queries the same.
-/

namespace Jukebox

/-- The text, without the blanks around it, is a web address. -/
def isWebAddress (s : List Char) : Bool :=
  WebUrl.isValid (Text.trim s)

/-- A query. `provider` may change when another provider takes over; `requested` stays. -/
structure Query where
  text : String
  provider : Provider
  requested : Provider
  isAddress : Bool
  deriving DecidableEq, Repr

namespace Query

def new (text : List Char) (provider : Provider) : Query :=
  { text := String.ofList text, provider, requested := provider, isAddress := isWebAddress text }

/-- The text that a user meant: without blanks around it, and without the angle brackets that keep a
chat from unfolding an address. -/
def unwrap (s : List Char) : List Char :=
  let opened := (Text.trim s).dropWhile (· = '<')
  Text.trim (opened.reverse.dropWhile (· = '>')).reverse

/-- The query in what a user typed. An address goes to the provider whose domain it mentions, terms
behind a search prefix to the provider of the prefix, and all else to `preferred`. -/
def ofInput (input : List Char) (preferred : Provider) : Query :=
  let text := unwrap input
  if isWebAddress text then new text (Provider.ofText text)
  else
    match Provider.ofSearch? text with
    | some (p, terms) => new (Text.trim terms) p
    | none => new text preferred

/-- The query asks for something to be searched for. -/
def isSearch (q : Query) : Bool := !q.isAddress

/-- Of what the search finds, only the first track is kept. -/
def keepsOnlyFirst (q : Query) : Bool :=
  q.isSearch && q.provider.keepsOnlyFirst

def withProvider (p : Provider) (q : Query) : Query :=
  { q with provider := p }

/-- The text that is sent to a loader: behind the search prefix of the provider, if it is a search. -/
def request (q : Query) : String :=
  match q.provider.searchPrefix with
  | some front => if q.isSearch && q.provider.isSearchable then front ++ q.text else q.text
  | none => q.text

/-- The normal form of the text. Terms count up to case and blanks; an address counts in its normal
form. -/
def normal (q : Query) : String :=
  let trimmed := Text.trim q.text.toList
  if q.isAddress then
    match WebUrl.parse? trimmed with
    | some url => url.text
    | none => String.ofList trimmed
  else String.ofList (Text.lower (Text.collapse trimmed))

/-- What makes two queries the same: the provider and the normal form of the text. -/
def fingerprint (q : Query) : String :=
  q.provider.name ++ ":" ++ q.normal

end Query

end Jukebox
