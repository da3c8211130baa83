import Jukebox.Player.Queue

/-!
# Players

The playback of one guild: its queue, how far into the current track it is, whether it is paused, how
loud it is and which channels it uses.

## Main definitions

* `Jukebox.Player`: the playback of a guild.
* `Jukebox.Player.enqueue`: appends tracks and starts playing if nothing plays.
* `Jukebox.Player.skip`, `Jukebox.Player.stop`: go on to the next track, or to none.
* `Jukebox.Player.resumeAt`: makes a track the current one at a position.
-/

namespace Jukebox

/-- The playback of a guild. The volume is a percentage. -/
structure Player where
  guild : Id
  queue : Queue
  paused : Bool := false
  positionMs : UInt64 := 0
  volume : UInt8 := 100
  voice : Option Id := none
  text : Option Id := none
  deriving DecidableEq

namespace Player

/-- The loudest volume. -/
def maxVolume : UInt8 := 200

/-- The idle player of a guild, with room for so many pending tracks. -/
def new (guild : Id) (maxQueue : Nat) : Player :=
  { guild, queue := { maxSize := maxQueue } }

/-- Nothing plays and nothing is pending. -/
def isIdle (p : Player) : Bool := p.queue.isEmpty

/-- The current item and the position in it. -/
def playing (p : Player) : Option (QueueItem × UInt64) :=
  p.queue.current.map (·, p.positionMs)

/-- The current item, if any, followed by the pending ones. -/
def line (p : Player) : List QueueItem :=
  p.queue.current.toList ++ p.queue.pending

/-- Starts the first pending item from its beginning if nothing is current. -/
def start (p : Player) : Player :=
  if p.queue.current.isNone then { p with queue := p.queue.next, positionMs := 0 } else p

/-- Appends tracks for a user, and tells how many were taken. A single track without room is refused;
of several tracks, those without room are left out. Playback starts if nothing plays. -/
def enqueue (tracks : List Track) (requester : Id) (p : Player) : Except QueueFull (Nat × Player) :=
  match tracks with
  | [] => .ok (0, p)
  | [track] =>
    match p.queue.push ⟨track, requester⟩ with
    | .error e => .error e
    | .ok queue => .ok (1, start { p with queue })
  | tracks =>
    let (added, queue) := p.queue.pushAll (tracks.map (⟨·, requester⟩))
    if added = 0 then .ok (0, p) else .ok (added, start { p with queue })

/-- Goes on to the next track from its beginning. -/
def skip (p : Player) : Player :=
  { p with queue := p.queue.next, positionMs := 0 }

/-- Drops everything pending and stops the current track. -/
def stop (p : Player) : Player :=
  { p with queue := p.queue.clear.next, positionMs := 0 }

/-- Records how far into the current track playback is. -/
def setPosition (ms : UInt64) (p : Player) : Player :=
  { p with positionMs := ms }

/-- Pauses or resumes. -/
def setPaused (paused : Bool) (p : Player) : Player :=
  { p with paused }

/-- Sets the volume, at most the loudest one. -/
def setVolume (volume : UInt8) (p : Player) : Player :=
  { p with volume := if maxVolume ≤ volume then maxVolume else volume }

def setChannels (voice text : Option Id) (p : Player) : Player :=
  { p with voice, text }

/-- Makes a track the current one at a position, and leaves what is pending. -/
def resumeAt (track : Track) (requester : Id) (positionMs : UInt64) (p : Player) : Player :=
  { p with queue := p.queue.setCurrent ⟨track, requester⟩, positionMs }

end Player

end Jukebox
