import Jukebox.Json.Decode
import Jukebox.Playlist
import Jukebox.Text.Base64
import Jukebox.Timestamp
import Jukebox.Track.Blob

/-!
# Records of playlists

The form in which a playlist is kept in a file: a JSON document with its fingerprint, its tracks as
letters, and the time at which it was stored.

## Main definitions

* `Jukebox.Record`: what a file holds.
* `Jukebox.Record.ofPlaylist?`: the record of a playlist, if any of its tracks can be kept.
* `Jukebox.Record.playlist?`: the playlist of a record.
* `Jukebox.Record.text`, `Jukebox.Record.parse?`: the file of a record and the record in a file.
* `Jukebox.Record.fileName`: the file in which the playlist of a fingerprint is kept.
-/

namespace Jukebox

/-- What a file with a playlist holds. The tracks are base 64 forms of their bytes. -/
structure Record where
  fingerprint : String
  label : String
  selected : Option Nat
  tracks : List String
  storedAt : Timestamp
  deriving DecidableEq

namespace Record

/-- The record of a playlist. Tracks that have no bytes are left out; without a track there is no
record. -/
def ofPlaylist? (fingerprint : String) (now : Timestamp) (p : Playlist) : Option Record :=
  let tracks := ((Track.encodeAll? p.tracks).getD []).map Base64.encode
  if tracks.isEmpty then none
  else some { fingerprint, label := p.label, selected := p.selected, tracks, storedAt := now }

/-- The playlist of a record. Tracks that cannot be read are left out; without a track there is no
playlist. The selection counts if there is such a track. -/
def playlist? (r : Record) : Option Playlist :=
  let tracks := (Track.decodeAll? (r.tracks.filterMap Base64.decode?)).getD []
  if tracks.isEmpty then none
  else some ⟨r.label, tracks, r.selected.filter (· < tracks.length)⟩

/-- The record was stored no longer ago than its lifetime in nanoseconds, or not yet. -/
def isFresh (lifetime : Nat) (now : Timestamp) (r : Record) : Bool :=
  now - r.storedAt ≤ lifetime

/-- The record as a document. -/
def toJson (r : Record) : Json :=
  Json.ofFields [
    ("fingerprint", Json.ofString r.fingerprint),
    ("label", Json.ofString r.label),
    ("selected", (r.selected.map Json.ofNat).getD .null),
    ("tracks", .array (r.tracks.map Json.ofString)),
    ("stored_at", Json.ofString r.storedAt.text)]

def fieldNames : List String :=
  ["fingerprint", "label", "selected", "tracks", "stored_at"]

/-- The point in time in a field. -/
def time? (j : Json) : Option Timestamp := do
  Timestamp.parse? (← Json.text? j).toList

/-- The record in a document. -/
def ofJson? (j : Json) : Option Record := do
  match ← Json.fields? fieldNames j with
  | [fingerprint, label, selected, tracks, storedAt] =>
    some {
      fingerprint := ← Json.required? Json.text? fingerprint
      label := ← Json.required? Json.text? label
      selected := ← Json.optional? (Json.whole? Text.maxUInt64) selected
      tracks := ← Json.required? (Json.list? Json.text?) tracks
      storedAt := ← Json.required? time? storedAt }
  | _ => none

/-- The file of a record. -/
def text (r : Record) : Bytes := r.toJson.compact

/-- The record in a file. -/
def parse? (s : String) : Option Record := do
  ofJson? (← Json.parse? (Bytes.ofString s))

/-- The longest file name, without its ending. -/
def maxStem : Nat := 180

/-- The name of the file of a fingerprint, without its ending. Long names are cut. -/
def stem (fingerprint : String) : String :=
  String.ofList ((Base64.encodeForName (Bytes.ofString fingerprint)).toList.take maxStem)

/-- The file in which the playlist of a fingerprint is kept. -/
def fileName (fingerprint : String) : String :=
  stem fingerprint ++ ".json"

/-- The file to which the playlist of a fingerprint is written at first. A name that would only be an
ending keeps it. -/
def temporaryName (fingerprint : String) : String :=
  let s := stem fingerprint
  if s.isEmpty then ".json.json.tmp" else s ++ ".json.tmp"

/-- The file has the ending of records. A name that is only an ending has none. -/
def isRecordName (name : String) : Bool :=
  Text.endsWith ".json".toList name.toList && name.length > 5

end Record

end Jukebox
