/-!
# Recent entries

A bounded map whose entries expire. Storing an entry makes it the newest; if there are then too many, the
oldest go. An expired entry is gone for a reader, and it leaves the map when it is read or swept.

## Main definitions

* `Jukebox.Recent`: the map, with counters of what happened to it.
* `Jukebox.Recent.insert`: stores an entry, and drops the oldest if there are too many.
* `Jukebox.Recent.get`: looks an entry up.
* `Jukebox.Recent.sweep`: drops the expired entries.

## Design notes

The entries are listed from the oldest to the newest, so that the entry to drop is the first one. Moments
and lifetimes are numbers of one unit, and every operation is told the present moment.
-/

namespace Jukebox

/-- A stored value. Without a lifetime it never expires. -/
structure Recent.Entry (κ ν : Type) where
  key : κ
  value : ν
  storedAt : Nat
  lifetime : Option Nat

/-- A bounded map whose entries expire. `entries` has the oldest entry first. -/
structure Recent (κ ν : Type) where
  capacity : Nat
  lifetime : Option Nat
  entries : List (Recent.Entry κ ν) := []
  hits : Nat := 0
  misses : Nat := 0
  evictions : Nat := 0
  expiredRemovals : Nat := 0

namespace Recent

variable {κ ν : Type}

/-- More time has passed since the entry was stored than it has to live. -/
def Entry.isExpired (now : Nat) (e : Entry κ ν) : Bool :=
  e.lifetime.any fun lifetime => lifetime < now - e.storedAt

/-- The empty map. It has room for one entry at least. -/
def empty (capacity : Nat) (lifetime : Option Nat) : Recent κ ν :=
  { capacity := max capacity 1, lifetime }

/-- The number of entries, expired ones included. -/
def size (c : Recent κ ν) : Nat := c.entries.length

/-- The share of look-ups that found an entry. -/
def hitRate (c : Recent κ ν) : Float :=
  if c.hits + c.misses = 0 then 0
  else Float.ofNat c.hits / Float.ofNat (c.hits + c.misses)

/-- Drops the oldest entries until the rest fit. -/
def shrink (c : Recent κ ν) : Recent κ ν :=
  let surplus := c.size - c.capacity
  { c with entries := c.entries.drop surplus, evictions := c.evictions + surplus }

/-- Drops the expired entries, and tells how many there were. -/
def sweep (now : Nat) (c : Recent κ ν) : Nat × Recent κ ν :=
  let kept := c.entries.filter fun e => !e.isExpired now
  let removed := c.size - kept.length
  (removed, { c with entries := kept, expiredRemovals := c.expiredRemovals + removed })

variable [DecidableEq κ]

def find? (key : κ) (c : Recent κ ν) : Option (Entry κ ν) :=
  c.entries.find? fun e => e.key = key

/-- The entries other than the one with the key. -/
def without (key : κ) (entries : List (Entry κ ν)) : List (Entry κ ν) :=
  entries.filter fun e => e.key ≠ key

/-- Stores an entry with a lifetime of its own as the newest one, and tells which value it replaced. -/
def insertFor (lifetime : Option Nat) (now : Nat) (key : κ) (value : ν) (c : Recent κ ν) :
    Option ν × Recent κ ν :=
  let entry : Entry κ ν := ⟨key, value, now, lifetime⟩
  ((c.find? key).map Entry.value,
    shrink { c with entries := without key c.entries ++ [entry] })

/-- Stores an entry with the usual lifetime. -/
def insert (now : Nat) (key : κ) (value : ν) (c : Recent κ ν) : Option ν × Recent κ ν :=
  c.insertFor c.lifetime now key value

/-- Looks an entry up. An expired one is dropped. -/
def get (now : Nat) (key : κ) (c : Recent κ ν) : Option ν × Recent κ ν :=
  match c.find? key with
  | none => (none, { c with misses := c.misses + 1 })
  | some e =>
    if e.isExpired now then
      (none, { c with
        entries := without key c.entries
        misses := c.misses + 1
        expiredRemovals := c.expiredRemovals + 1 })
    else (some e.value, { c with hits := c.hits + 1 })

end Recent

end Jukebox
