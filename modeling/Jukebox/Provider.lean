import Jukebox.Text.Blank
import Jukebox.Text.Case
import Jukebox.Text.Search

/-!
# Providers

The sources of audio that a request can be attributed to. Their order matters: a text that mentions
domains of several providers belongs to the first of them.

## Main definitions

* `Jukebox.Provider`: the seven providers.
* `Jukebox.Provider.ofText`: the provider whose domain a text mentions.
* `Jukebox.Provider.ofName?`: the provider of a name.
* `Jukebox.Provider.ofSearch?`: the provider that a search prefix asks for, and the terms after it.
* `Jukebox.Provider.partner`: where a search goes when its provider cannot serve it.
-/

namespace Jukebox

/-- A source of audio. -/
inductive Provider where
  | youtubeMusic
  | youtube
  | soundcloud
  | bandcamp
  | twitch
  | vimeo
  | http
  deriving DecidableEq, Repr

namespace Provider

/-- All providers, the more specific domains first. -/
def all : List Provider :=
  [youtubeMusic, youtube, soundcloud, bandcamp, twitch, vimeo, http]

/-- The name by which tracks, settings and fingerprints refer to the provider. -/
def name : Provider → String
  | youtubeMusic => "youtube_music"
  | youtube => "youtube"
  | soundcloud => "soundcloud"
  | bandcamp => "bandcamp"
  | twitch => "twitch"
  | vimeo => "vimeo"
  | http => "http"

def jsonName : Provider → String
  | youtubeMusic => "you_tube_music"
  | youtube => "you_tube"
  | soundcloud => "sound_cloud"
  | bandcamp => "bandcamp"
  | twitch => "twitch"
  | vimeo => "vimeo"
  | http => "http"

/-- What stands in front of the terms of a search at this provider. -/
def searchPrefix : Provider → Option String
  | youtubeMusic => some "ytmsearch:"
  | youtube => some "ytsearch:"
  | soundcloud => some "scsearch:"
  | bandcamp => some "bcsearch:"
  | twitch | vimeo | http => none

/-- The domains under which the provider serves its tracks. -/
def domains : Provider → List String
  | youtubeMusic => ["music.youtube.com"]
  | youtube => ["youtube.com", "youtu.be"]
  | soundcloud => ["soundcloud.com"]
  | bandcamp => ["bandcamp.com"]
  | twitch => ["twitch.tv"]
  | vimeo => ["vimeo.com"]
  | http => []

def isSearchable (p : Provider) : Bool :=
  p.searchPrefix.isSome && !p.domains.isEmpty

/-- Of what a search at this provider finds, only the first track is kept. -/
def keepsOnlyFirst : Provider → Bool
  | youtubeMusic | youtube | soundcloud => true
  | bandcamp | twitch | vimeo | http => false

/-- The provider that takes over a search this one cannot serve. -/
def partner : Provider → Option Provider
  | youtube => some soundcloud
  | soundcloud => some youtube
  | youtubeMusic | bandcamp | twitch | vimeo | http => none

/-- The lower-case text `s` mentions a domain of the provider. -/
def ownsLower (p : Provider) (s : List Char) : Bool :=
  p.domains.any fun domain => Text.contains domain.toList s

/-- The text mentions a domain of the provider, in letters of any case. -/
def owns (p : Provider) (s : List Char) : Bool :=
  p.ownsLower (Text.lower s)

/-- The first provider of which the text mentions a domain; a text that mentions none is a bare
address. -/
def ofText (s : List Char) : Provider :=
  let lowered := Text.lower s
  (all.find? fun p => p.ownsLower lowered).getD http

/-- The provider with the given name, in ASCII letters of any case and with blanks around it. -/
def ofName? (s : List Char) : Option Provider :=
  let trimmed := Text.trim s
  all.find? fun p => Text.sameAscii p.name.toList trimmed

def ofJsonName? (s : String) : Option Provider :=
  all.find? fun p => p.jsonName == s

/-- What follows the provider's search prefix in a text that starts with it, in ASCII letters of any
case. -/
def searchTerms? (p : Provider) (s : List Char) : Option (List Char) := do
  let front := (← p.searchPrefix).toList
  if Text.sameAscii front (s.take front.length) then some (s.drop front.length) else none

/-- The provider whose search prefix starts the text, with what follows the prefix. -/
def ofSearch? (s : List Char) : Option (Provider × List Char) :=
  all.findSome? fun p => (p.searchTerms? s).map (p, ·)

/-- Every provider is listed. -/
theorem mem_all (p : Provider) : p ∈ all := by
  cases p <;> decide

/-- Failing over twice leads back. -/
theorem partner_partner {p q : Provider} (h : p.partner = some q) : q.partner = some p := by
  revert h
  cases p <;> cases q <;> decide

/-- A provider answers searches exactly if it has a search prefix. -/
theorem isSearchable_iff {p : Provider} : p.isSearchable = true ↔ p.searchPrefix.isSome = true := by
  cases p <;> decide

end Provider

end Jukebox
