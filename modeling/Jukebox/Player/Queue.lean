import Jukebox.Id
import Jukebox.Track.Basic

/-!
# Queues

What plays in a guild now and what comes after it, first come, first served.

## Main definitions

* `Jukebox.QueueItem`: a track and the user who asked for it.
* `Jukebox.Queue`: the current item and a bounded list of pending ones.
* `Jukebox.Queue.push`, `Jukebox.Queue.pushAll`: append one item or as many as fit.
* `Jukebox.Queue.next`: makes the first pending item the current one.
-/

namespace Jukebox

/-- A track and the user who asked for it. -/
structure QueueItem where
  track : Track
  requester : Id
  deriving DecidableEq

/-- The current item and the pending ones, the next first. -/
structure Queue where
  maxSize : Nat
  pending : List QueueItem := []
  current : Option QueueItem := none
  deriving DecidableEq

/-- A queue of the given size has no room. -/
structure QueueFull where
  maxSize : Nat
  deriving DecidableEq, Repr

/-- The wording of a refusal. -/
def QueueFull.message (e : QueueFull) : String :=
  "La cola está llena (máximo " ++ toString e.maxSize ++ " canciones)"

namespace Queue

/-- Nothing is pending and nothing is current. -/
def isEmpty (q : Queue) : Bool :=
  q.pending.isEmpty && q.current.isNone

/-- How many more items may be pending. -/
def room (q : Queue) : Nat :=
  q.maxSize - q.pending.length

/-- Appends an item. -/
def push (item : QueueItem) (q : Queue) : Except QueueFull Queue :=
  if q.maxSize ≤ q.pending.length then .error ⟨q.maxSize⟩
  else .ok { q with pending := q.pending ++ [item] }

/-- Appends as many of the items as there is room for, and tells how many. -/
def pushAll (items : List QueueItem) (q : Queue) : Nat × Queue :=
  let fitting := items.take q.room
  (fitting.length, { q with pending := q.pending ++ fitting })

/-- Makes the first pending item the current one; without a pending item nothing is current. -/
def next (q : Queue) : Queue :=
  { q with pending := q.pending.tail, current := q.pending.head? }

def setCurrent (item : QueueItem) (q : Queue) : Queue :=
  { q with current := some item }

/-- Drops the pending items. -/
def clear (q : Queue) : Queue :=
  { q with pending := [] }

end Queue

end Jukebox
