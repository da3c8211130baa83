import Jukebox.Json.Decode
import Jukebox.Loader.Outcome
import Jukebox.Text.Digits

/-!
# The extractor

Tracks through the `yt-dlp` program, which is given a target and prints a JSON document about it.

## Main definitions

* `Jukebox.Extractor`: how the program is run.
* `Jukebox.Extractor.target`: what the program is asked for, and which provider the tracks belong to.
* `Jukebox.Extractor.Entry`: what is read of the document.
* `Jukebox.Extractor.outcome`: what a run of the program means.
* `Jukebox.Extractor.version`: the version that the program tells.
-/

namespace Jukebox

/-- How the program is run: its name, and how many results a search asks for. -/
structure Extractor where
  executable : String := "yt-dlp"
  searchResults : Nat := 5

namespace Extractor

/-- How a run of the program ended. -/
inductive Exit where
  | code (n : Nat)
  | killed
  deriving DecidableEq, Repr

/-- The wording of an end. -/
def Exit.text : Exit → String
  | code n => "exit status: " ++ toString n
  | killed => "signal: 9 (SIGKILL)"

/-- What a finished run left. -/
structure Finished where
  exit : Exit
  output : Bytes
  errors : Bytes

/-- The extractor that asks for so many results of a search, one at least. -/
def withSearchResults (n : Nat) (x : Extractor) : Extractor :=
  { x with searchResults := max n 1 }

/-- What the program is asked for when a provider is searched. -/
def searchTarget (x : Extractor) (p : Provider) (terms : List Char) : String :=
  let counted (front : String) := front ++ toString x.searchResults ++ ":" ++ String.ofList terms
  let encoded := String.ofList (Url.formEncode terms)
  match p with
  | .youtube => counted "ytsearch"
  | .soundcloud => counted "scsearch"
  | .youtubeMusic => "https://music.youtube.com/search?q=" ++ encoded
  | .bandcamp => "https://bandcamp.com/search?q=" ++ encoded ++ "&item_type=t"
  | .twitch | .vimeo | .http => String.ofList terms

/-- What the program is asked for, and which provider the tracks belong to. -/
def target (x : Extractor) (request : String) : String × Provider :=
  match Provider.ofSearch? request.toList with
  | some (p, terms) => (x.searchTarget p (Text.trim terms), p)
  | none => (request, Provider.ofText request.toList)

def arguments (target : String) : List String :=
  ["--dump-single-json", "--flat-playlist", "--no-warnings", "--ignore-config", "--", target]

/-- An argument can be handed to a program: it holds no NUL and has fewer than 2 ^ 17 bytes. -/
def isArgument (s : String) : Bool :=
  !s.toList.contains '\x00' && s.utf8ByteSize < 131072

/-- What is read of an entry of the document. -/
inductive Entry where
  | mk (kind id title uploader channel : Option String) (duration : Option Float)
      (url webpageUrl : Option String) (isLive : Option Bool) (liveStatus : Option String)
      (entries : Option (List Entry))

def entryFields : List String :=
  ["_type", "id", "title", "uploader", "channel", "duration", "url", "webpage_url", "is_live",
    "live_status", "entries"]

/-- Reads an entry. Entries and lists of them may be nested to a depth below `depth`. -/
def Entry.read? : Nat → Json → Option Entry
  | 0, _ | 1, _ => none
  | depth + 2, j => do
    let fields ← Json.fields? entryFields j
    match fields with
    | [kind, id, title, uploader, channel, duration, url, webpageUrl, isLive, liveStatus, entries] =>
      some (.mk (← Json.optional? Json.text? kind) (← Json.optional? Json.text? id)
        (← Json.optional? Json.text? title) (← Json.optional? Json.text? uploader)
        (← Json.optional? Json.text? channel) (← Json.optional? Json.real? duration)
        (← Json.optional? Json.text? url) (← Json.optional? Json.text? webpageUrl)
        (← Json.optional? Json.flag? isLive) (← Json.optional? Json.text? liveStatus)
        (← Json.optional?
          (fun list => if depth = 0 then none else Json.list? (Entry.read? depth) list) entries))
    | _ => none

/-- A length in seconds as milliseconds, at least zero and at most the largest 64-bit number. -/
def milliseconds (seconds : Float) : UInt64 := (seconds * 1000).toUInt64

/-- The track of an entry, which needs an identifier. -/
def Entry.track? (p : Provider) : Entry → Option Track
  | .mk _ id title uploader channel duration url webpageUrl isLive liveStatus _ =>
    id.map fun identifier =>
      { title := title.getD "Unknown title"
        author := (uploader <|> channel).getD "Unknown artist"
        lengthMs := (duration.map milliseconds).getD 0
        identifier
        isStream := isLive.getD false || liveStatus = some "is_live"
        uri := webpageUrl <|> url
        source := p.name }

/-- What an entry means: a playlist, or a track. -/
def Entry.outcome (p : Provider) (e : Entry) : LoadOutcome :=
  match e with
  | .mk (some "playlist") _ title _ _ _ _ _ _ _ entries =>
    let tracks := (entries.getD []).filterMap (Entry.track? p)
    if tracks.isEmpty then .noMatches else .playlist ⟨title.getD "", tracks, none⟩
  | _ =>
    match e.track? p with
    | some t => .track t
    | none => .noMatches

/-- The depth that nested entries and lists stay below. -/
def maxDepth : Nat := 128

/-- What the document means. -/
def documentOutcome (p : Provider) (output : Bytes) : LoadOutcome :=
  match (Json.parse? output).bind (Entry.read? maxDepth) with
  | some e => e.outcome p
  | none =>
    .failed
      { kind := .other, message := "yt-dlp produced unreadable output"
        causes := ["the document is not an entry"] }

/-- The three digits behind the first mention of an error status. -/
def errorStatus? : List Char → Option (List Char)
  | [] => none
  | c :: rest =>
    match Text.dropFront? "HTTP Error ".toList (c :: rest) with
    | some (a :: b :: d :: _) =>
      if [a, b, d].all Text.isAnyDigit then some [a, b, d] else errorStatus? rest
    | _ => errorStatus? rest

/-- The failure that a program reports in its error output. -/
def failureOfErrors (errors : List Char) : LoadFailure :=
  let kind :=
    match (errorStatus? errors).map String.ofList with
    | some "429" => FailureKind.rateLimited
    | some "503" => FailureKind.overloaded
    | _ => FailureKind.other
  { kind
    message :=
      if errors.isEmpty then "yt-dlp exited with a non-zero status" else String.ofList errors }

/-- Bytes that a program printed, as text without blanks around it. -/
def printed (bytes : Bytes) : List Char :=
  Text.trim bytes.toStringLossy.toList

/-- What a run means for the tracks of a provider; it may not have started. -/
def outcome (x : Extractor) (p : Provider) : Option Finished → LoadOutcome
  | none =>
    .failed
      { kind := .other, message := "failed to spawn " ++ x.executable
        causes := ["the program cannot be started"] }
  | some run =>
    if run.exit = .code 0 then documentOutcome p run.output
    else .failed (failureOfErrors (printed run.errors))

/-- The arguments with which the program is asked for its version. -/
def versionArguments : List String := ["--version"]

/-- The version that the program tells, or what is wrong with its end. -/
def version (x : Extractor) (run : Finished) : Except String String :=
  if run.exit = .code 0 then .ok (String.ofList (printed run.output))
  else .error (x.executable ++ " --version terminó con " ++ run.exit.text)

end Extractor

end Jukebox
