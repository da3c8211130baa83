import Jukebox.Json.Decode
import Jukebox.Player.Basic
import Jukebox.Text.Base64
import Jukebox.Text.Number
import Jukebox.Track.Blob

/-!
# Snapshots

What a player was doing at a moment, in a form that outlives the process.

## Main definitions

* `Jukebox.Snapshot`: what is kept of a player.
* `Jukebox.Snapshot.capture`: the snapshot of a player.
* `Jukebox.Snapshot.restore`: replays a snapshot into a player.
* `Jukebox.Snapshot.written`, `Jukebox.Snapshot.parse?`: the written form of a snapshot.

## Design notes

Tracks that cannot be kept or read back are left out and counted. A number of zero stands for no channel,
and an entry of requester zero cannot be replayed.
-/

namespace Jukebox

/-- A track as letters, with the user who asked for it and the position in it. -/
structure Snapshot.Entry where
  encoded : String
  requester : UInt64
  positionMs : UInt64
  deriving DecidableEq

/-- What is kept of a player. -/
structure Snapshot where
  guild : UInt64
  voice : UInt64
  text : UInt64
  volume : UInt8
  playing : Option Snapshot.Entry
  queue : List Snapshot.Entry
  deriving DecidableEq

namespace Snapshot

/-- How many entries were kept and how many were left out. -/
structure Report where
  kept : Nat
  dropped : Nat
  deriving DecidableEq, Repr

/-- There is nothing to replay. -/
def isEmpty (s : Snapshot) : Bool :=
  s.playing.isNone && s.queue.isEmpty

/-- The entry of an item at a position, if its track has bytes. -/
def Entry.ofItem? (item : QueueItem) (positionMs : UInt64) : Option Entry :=
  item.track.encode?.map fun blob => ⟨Base64.encode blob, item.requester.val, positionMs⟩

/-- The track of an entry and the user who asked for it. -/
def Entry.item? (e : Entry) : Option QueueItem := do
  let requester ← Id.ofNumber? e.requester
  let track ← Track.decode? (← Base64.decode? e.encoded)
  some ⟨track, requester⟩

/-- The snapshot of a player, and how many of its tracks could be kept. -/
def capture (p : Player) : Snapshot × Report :=
  let playing := p.playing.bind fun (item, positionMs) => Entry.ofItem? item positionMs
  let queue := p.queue.pending.filterMap (Entry.ofItem? · 0)
  let kept := playing.toList.length + queue.length
  ({ guild := p.guild.val, voice := Id.number p.voice, text := Id.number p.text, volume := p.volume
     playing, queue },
    ⟨kept, p.line.length - kept⟩)

/-- Replays the playing track. -/
def restorePlaying (entry : Option Entry) (state : Report × Player) : Report × Player :=
  let (report, p) := state
  match entry with
  | none => (report, p)
  | some e =>
    match e.item? with
    | some item =>
      ({ report with kept := report.kept + 1 }, p.resumeAt item.track item.requester e.positionMs)
    | none => ({ report with dropped := report.dropped + 1 }, p)

/-- Replays one entry of the queue. -/
def restoreEntry (state : Report × Player) (e : Entry) : Report × Player :=
  let (report, p) := state
  match e.item?.map fun item => p.enqueue [item.track] item.requester with
  | some (.ok (_, p)) => ({ report with kept := report.kept + 1 }, p)
  | some (.error _) | none => ({ report with dropped := report.dropped + 1 }, p)

/-- Replays a snapshot into a player, and tells how many entries could be replayed. -/
def restore (s : Snapshot) (p : Player) : Report × Player :=
  let p := (p.setVolume s.volume).setChannels (Id.ofNumber? s.voice) (Id.ofNumber? s.text)
  s.queue.foldl restoreEntry (restorePlaying s.playing (⟨0, 0⟩, p))

/-- An entry as a document. -/
def Entry.toJson (e : Entry) : Json :=
  Json.ofFields [
    ("encoded", Json.ofString e.encoded),
    ("requester_id", Json.ofNat e.requester.toNat),
    ("position_ms", Json.ofNat e.positionMs.toNat)]

/-- A snapshot as a document. -/
def toJson (s : Snapshot) : Json :=
  Json.ofFields [
    ("guild_id", Json.ofNat s.guild.toNat),
    ("voice_channel_id", Json.ofNat s.voice.toNat),
    ("message_channel_id", Json.ofNat s.text.toNat),
    ("volume", Json.ofNat s.volume.toNat),
    ("playing_track", (s.playing.map Entry.toJson).getD .null),
    ("queue", .array (s.queue.map Entry.toJson))]

/-- A 64-bit number in a document. -/
def word? (j : Json) : Option UInt64 :=
  (Json.whole? Text.maxUInt64 j).map UInt64.ofNat

/-- The entry in a document. -/
def Entry.ofJson? (j : Json) : Option Entry := do
  match ← Json.fields? ["encoded", "requester_id", "position_ms"] j with
  | [encoded, requester, positionMs] =>
    some {
      encoded := ← Json.required? Json.text? encoded
      requester := ← Json.required? word? requester
      positionMs := ← Json.required? word? positionMs }
  | _ => none

def fieldNames : List String :=
  ["guild_id", "voice_channel_id", "message_channel_id", "volume", "playing_track", "queue"]

/-- The snapshot in a document. -/
def ofJson? (j : Json) : Option Snapshot := do
  match ← Json.fields? fieldNames j with
  | [guild, voice, text, volume, playing, queue] =>
    some {
      guild := ← Json.required? word? guild
      voice := ← Json.required? word? voice
      text := ← Json.required? word? text
      volume := UInt8.ofNat (← Json.required? (Json.whole? 255) volume)
      playing := ← Json.optional? Entry.ofJson? playing
      queue := ← Json.required? (Json.list? Entry.ofJson?) queue }
  | _ => none

def written (s : Snapshot) : Bytes := s.toJson.pretty

/-- The snapshot that a text is the written form of. -/
def parse? (s : String) : Option Snapshot := do
  ofJson? (← Json.parse? (Bytes.ofString s))

end Snapshot

end Jukebox
