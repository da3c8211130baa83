import Jukebox.Cache.Recent
import Jukebox.Cache.Shelf
import Jukebox.Query

/-!
# The result cache

Playlists by fingerprint, in two tiers: recent ones in memory, and older ones on a shelf that is asked
when memory does not know. A shelf that fails is the same as one that knows nothing.

## Main definitions

* `Jukebox.ResultCache`: the two tiers.
* `Jukebox.ResultCache.lookup`: the playlist for a query and the tier that knew it.
* `Jukebox.ResultCache.store`: keeps the playlist for a query in both tiers.

## Design notes

Both tiers read one clock, in microseconds since the start of 1970.
-/

namespace Jukebox

/-- The tier that knew a playlist. -/
inductive Tier where
  | memory
  | durable
  deriving DecidableEq, Repr

/-- The word for a tier. -/
def Tier.name : Tier → String
  | .memory => "memory"
  | .durable => "durable"

/-- The two tiers. If `promotes`, what the shelf knew is put into memory. -/
structure ResultCache where
  memory : Recent String Playlist
  shelf : Shelf
  promotes : Bool

namespace ResultCache

/-- A moment in microseconds as a timestamp. -/
def timestamp (now : Nat) : Timestamp := now * 1000

/-- The playlist that the shelf knows for a fingerprint. -/
def fetch? (now : Nat) (fingerprint : String) (c : ResultCache) : Option Playlist :=
  match c.shelf.fetch (timestamp now) fingerprint with
  | .ok found => found
  | .error _ => none

def lookup (now : Nat) (q : Query) (c : ResultCache) : Option (Playlist × Tier) × ResultCache :=
  let fingerprint := q.fingerprint
  let (found, memory) := c.memory.get now fingerprint
  let c := { c with memory }
  match found with
  | some p => (some (p, .memory), c)
  | none =>
    match c.fetch? now fingerprint with
    | none => (none, c)
    | some p =>
      let memory := if c.promotes then (c.memory.insert now fingerprint p).2 else c.memory
      (some (p, .durable), { c with memory })

/-- Keeps the playlist for a query in both tiers, and tells whether it was given to the shelf. An empty
playlist is not kept. -/
def store (now : Nat) (q : Query) (p : Playlist) (c : ResultCache) : Bool × ResultCache :=
  if p.isEmpty then (false, c)
  else
    let fingerprint := q.fingerprint
    (c.shelf.kind ≠ .absent,
      { c with
        memory := (c.memory.insert now fingerprint p).2
        shelf := (c.shelf.store (timestamp now) fingerprint p).2 })

/-- Drops what has expired in memory. -/
def sweep (now : Nat) (c : ResultCache) : ResultCache :=
  { c with memory := (c.memory.sweep now).2 }

end ResultCache

end Jukebox
