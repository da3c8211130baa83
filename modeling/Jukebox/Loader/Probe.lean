import Jukebox.Loader.Outcome

/-!
# Probing addresses

Asks the server of a bare address what it would deliver, and takes it as a track if it is audio.

## Main definitions

* `Jukebox.Probe.Response`: the answer of a server.
* `Jukebox.Probe.outcome`: what an answer means.
* `Jukebox.Probe.load`: what a request comes to, given what the server of an address answers.
-/

namespace Jukebox.Probe

/-- The final answer of a server: its status, and the type of the content if that is readable. -/
structure Response where
  status : Nat
  contentType : Option String
  deriving DecidableEq, Repr

/-- The answer with the type of its content in lower case. -/
def Response.lower (r : Response) : Response :=
  { r with contentType := r.contentType.map fun type => String.ofList (Text.lower type.toList) }

def audioEndings : List String := [".mp3", ".wav", ".ogg", ".flac", ".m4a", ".opus"]

/-- The content type is one of audio. -/
def isAudioType (type : List Char) : Bool :=
  "audio/".toList.isPrefixOf type || Text.contains "ogg".toList type ||
    Text.contains "mpegurl".toList type

/-- The content type is one of an endless stream. -/
def isStreamType (type : List Char) : Bool :=
  Text.contains "mpegurl".toList type || Text.contains "aacp".toList type

/-- The lower-case address ends, before its query, like an audio file. -/
def isFileLike (address : List Char) : Bool :=
  let path := address.takeWhile (· ≠ '?')
  audioEndings.any fun ending => Text.endsWith ending.toList path

/-- The lower-case address mentions the ending of an audio file. -/
def mentionsFile (address : List Char) : Bool :=
  audioEndings.any fun ending => Text.contains ending.toList address

/-- The phrases of the registered statuses. -/
def phrases : List (Nat × String) := [
  (100, "Continue"), (101, "Switching Protocols"), (102, "Processing"), (200, "OK"), (201, "Created"),
  (202, "Accepted"), (203, "Non Authoritative Information"), (204, "No Content"),
  (205, "Reset Content"), (206, "Partial Content"), (207, "Multi-Status"), (208, "Already Reported"),
  (226, "IM Used"), (300, "Multiple Choices"), (301, "Moved Permanently"), (302, "Found"),
  (303, "See Other"), (304, "Not Modified"), (305, "Use Proxy"), (307, "Temporary Redirect"),
  (308, "Permanent Redirect"), (400, "Bad Request"), (401, "Unauthorized"),
  (402, "Payment Required"), (403, "Forbidden"), (404, "Not Found"), (405, "Method Not Allowed"),
  (406, "Not Acceptable"), (407, "Proxy Authentication Required"), (408, "Request Timeout"),
  (409, "Conflict"), (410, "Gone"), (411, "Length Required"), (412, "Precondition Failed"),
  (413, "Payload Too Large"), (414, "URI Too Long"), (415, "Unsupported Media Type"),
  (416, "Range Not Satisfiable"), (417, "Expectation Failed"), (418, "I'm a teapot"),
  (421, "Misdirected Request"), (422, "Unprocessable Entity"), (423, "Locked"),
  (424, "Failed Dependency"), (425, "Too Early"), (426, "Upgrade Required"),
  (428, "Precondition Required"), (429, "Too Many Requests"),
  (431, "Request Header Fields Too Large"), (451, "Unavailable For Legal Reasons"),
  (500, "Internal Server Error"), (501, "Not Implemented"), (502, "Bad Gateway"),
  (503, "Service Unavailable"), (504, "Gateway Timeout"), (505, "HTTP Version Not Supported"),
  (506, "Variant Also Negotiates"), (507, "Insufficient Storage"), (508, "Loop Detected"),
  (510, "Not Extended"), (511, "Network Authentication Required")]

/-- A status with its phrase. -/
def statusText (status : Nat) : String :=
  toString status ++ " " ++ (phrases.lookup status).getD "<unknown status code>"

/-- The title of an address: the last segment of its path, or else the whole address. -/
def title (address : String) : String :=
  match (WebUrl.parse? address.toList).bind (·.path.getLast?) with
  | some segment => if segment.isEmpty then address else segment
  | none => address

def track (address : String) (isStream : Bool) : Track :=
  { title := title address, author := "Unknown artist", lengthMs := 0, identifier := address, isStream
    uri := some address, source := Provider.http.name }

/-- What a successful answer means. The content is audio by its type or by the address; it is a stream
by its type, or if the address mentions no audio file. The type is taken as it is given. -/
def content (address : String) (contentType : Option String) : LoadOutcome :=
  let lowered := Text.lower address.toList
  let type := contentType.map String.toList
  if type.any isAudioType || isFileLike lowered then
    .track (track address (type.any isStreamType || !mentionsFile lowered))
  else .noMatches

/-- What an answer means. -/
def outcome (address : String) (r : Response) : LoadOutcome :=
  if r.status = 404 ∨ r.status = 410 then .noMatches
  else if r.status = 429 then
    .failed { kind := .rateLimited, message := "rate limit reached for " ++ address }
  else if r.status = 503 then .failed { kind := .overloaded, message := address ++ " answered 503" }
  else if r.status < 200 ∨ 300 ≤ r.status then
    .failed { kind := .other, message := address ++ " answered " ++ statusText r.status }
  else content address r.contentType

/-- What a request comes to, given what the server of an address answers, if it answers at all. The type of the
content counts in letters of any case. -/
def load (answer : String → Option Response) (request : String) : LoadOutcome :=
  let trimmed := Text.trim request.toList
  let address := String.ofList trimmed
  if !WebUrl.isValid trimmed then .noMatches
  else
    match answer address with
    | some r => outcome address r.lower
    | none =>
      .failed
        { kind := .other, message := "request to " ++ address ++ " failed"
          causes := ["no answer from the server"] }

end Jukebox.Probe
