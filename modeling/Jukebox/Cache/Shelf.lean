import Jukebox.Cache.Record
import Jukebox.Directory

/-!
# Shelves

Where playlists outlive the process: a directory with a file for each fingerprint. There may be no shelf,
or one on which every call fails.

## Main definitions

* `Jukebox.Shelf`: the shelf, and the directory that belongs to it.
* `Jukebox.Shelf.fetch`: the playlist kept for a fingerprint.
* `Jukebox.Shelf.store`: keeps a playlist.
* `Jukebox.Shelf.sweep`: removes files that are too old or not readable.
-/

namespace Jukebox

/-- What kind of shelf there is. -/
inductive Shelf.Kind where
  | absent
  | broken
  | files
  deriving DecidableEq, Repr

/-- Why a call of a shelf failed. -/
inductive Shelf.Fault where
  | storage
  | document
  deriving DecidableEq, Repr

/-- A shelf. Its directory may be missing. Playlists live for so many nanoseconds. -/
structure Shelf where
  kind : Shelf.Kind
  lifetime : Nat
  directory : Option Directory

namespace Shelf

/-- The playlist that a directory keeps for a fingerprint. The file may belong to another fingerprint
whose name is cut to the same one. -/
def fetchFrom (lifetime : Nat) (now : Timestamp) (fingerprint : String) (d : Directory) :
    Except Fault (Option Playlist) :=
  match d.readText (Record.fileName fingerprint) with
  | .missing => .ok none
  | .unreadable => .error .storage
  | .text s =>
    match Record.parse? s with
    | none => .error .document
    | some r =>
      if r.fingerprint = fingerprint ∧ r.isFresh lifetime now then .ok r.playlist? else .ok none

def fetch (now : Timestamp) (fingerprint : String) (s : Shelf) : Except Fault (Option Playlist) :=
  match s.kind with
  | .absent => .ok none
  | .broken => .error .storage
  | .files =>
    match s.directory with
    | none => .ok none
    | some d => fetchFrom s.lifetime now fingerprint d

/-- Keeps a playlist under a fingerprint, and tells whether that went well. Without a track that can be
kept, nothing changes. -/
def storeIn (now : Timestamp) (fingerprint : String) (p : Playlist) (d : Directory) :
    Bool × Directory :=
  match Record.ofPlaylist? fingerprint now p with
  | none => (true, d)
  | some r => d.save (Record.fileName fingerprint) (Record.temporaryName fingerprint) r.text

/-- Keeps a playlist under a fingerprint. -/
def store (now : Timestamp) (fingerprint : String) (p : Playlist) (s : Shelf) :
    Except Fault Unit × Shelf :=
  match s.kind, s.directory with
  | .absent, _ => (.ok (), s)
  | .broken, _ => (.error .storage, s)
  | .files, none =>
    (if (Record.ofPlaylist? fingerprint now p).isNone then .ok () else .error .storage, s)
  | .files, some d =>
    let (done, d) := storeIn now fingerprint p d
    (if done then .ok () else .error .storage, { s with directory := some d })

/-- The file of this name holds a record that is still fresh. -/
def isKept (lifetime : Nat) (now : Timestamp) (d : Directory) (name : String) : Bool :=
  match d.readText name with
  | .text s => (Record.parse? s).any (·.isFresh lifetime now)
  | .missing | .unreadable => false

/-- Removes a file if it has the ending of records and holds none that is fresh. -/
def sweepName (lifetime : Nat) (now : Timestamp) (state : Nat × Directory) (name : String) :
    Nat × Directory :=
  let (removed, d) := state
  if Record.isRecordName name && !isKept lifetime now d name then
    match d.removeFile? name with
    | some d => (removed + 1, d)
    | none => (removed, d)
  else (removed, d)

/-- Removes the files that are too old or not readable, and tells how many. -/
def sweep (now : Timestamp) (s : Shelf) : Except Fault Nat × Shelf :=
  match s.kind, s.directory with
  | .absent, _ => (.ok 0, s)
  | .broken, _ | .files, none => (.error .storage, s)
  | .files, some d =>
    let (removed, swept) := d.names.foldl (sweepName s.lifetime now) (0, d)
    (.ok removed, { s with directory := some swept })

end Shelf

end Jukebox
