import Jukebox.Directory
import Jukebox.Player.Roster
import Jukebox.Session.Snapshot

/-!
# Saved sessions

Snapshots in a directory, one file for each guild. They are written when the process ends, and taken
from there, once, when it starts again.

## Main definitions

* `Jukebox.Sessions.saveAll`: writes snapshots.
* `Jukebox.Sessions.takeAll`: reads the snapshots and removes their files.
* `Jukebox.Sessions.capture`: the snapshots of a roster.
* `Jukebox.Sessions.restore`: replays snapshots into a roster.
-/

namespace Jukebox.Sessions

def fileName (guild : Nat) : String :=
  "guild_" ++ toString guild ++ ".json"

/-- The guild that the name of a file tells, as a number of 64 bits in any spelling. -/
def guildOfName? (name : String) : Option Nat := do
  let rest ← Text.dropFront? "guild_".toList name.toList
  let digits ← Text.dropBack? ".json".toList rest
  (Text.readUnsigned Text.maxUInt64 digits).toOption

/-- Writes a snapshot to the file of its guild. -/
def save (s : Snapshot) (d : Directory) : Bool × Directory :=
  let name := fileName s.guild.toNat
  d.save name (name ++ ".tmp") s.written

/-- Writes a snapshot, unless it is empty, and counts it if that goes well. -/
def saveNext (state : Nat × Directory) (s : Snapshot) : Nat × Directory :=
  let (saved, d) := state
  if s.isEmpty then (saved, d)
  else
    let (done, d) := save s d
    (if done then saved + 1 else saved, d)

/-- Writes the snapshots that are not empty, and tells how many were written. The directory may be
missing. -/
def saveAll (snapshots : List Snapshot) : Option Directory → Nat × Option Directory
  | none => (0, none)
  | some d =>
    let (saved, d) := snapshots.foldl saveNext (0, d)
    (saved, some d)

def load? (guild : Nat) (d : Directory) : Option Snapshot :=
  match d.readText (fileName guild) with
  | .text s => Snapshot.parse? s
  | .missing | .unreadable => none

/-- Takes the snapshot that a file name stands for, and removes the file. The snapshots taken so far come
backwards. -/
def takeNext (state : List Snapshot × Directory) (name : String) : List Snapshot × Directory :=
  let (taken, d) := state
  match guildOfName? name with
  | none => (taken, d)
  | some guild => ((load? guild d).toList ++ taken, (d.removeFile? name).getD d)

/-- Takes all snapshots in the order of the directory, and removes their files, readable or not. There is
no answer if the directory is missing. -/
def takeAll : Option Directory → Option (List Snapshot) × Option Directory
  | none => (none, none)
  | some d =>
    let (taken, rest) := d.names.foldl takeNext ([], d)
    (some taken.reverse, some rest)

/-- The snapshots of the players that are not idle, in the order of their guilds. -/
def capture (r : Roster) : List Snapshot :=
  (r.sorted.filter fun p => !p.isIdle).map fun p => (Snapshot.capture p).1

/-- Replays a snapshot into the player of its guild, and counts it if any entry could be replayed. -/
def restoreNext (state : Nat × Roster) (s : Snapshot) : Nat × Roster :=
  let (restored, r) := state
  match Id.ofNumber? s.guild with
  | none => (restored, r)
  | some guild =>
    let (report, p) := s.restore (r.player guild)
    (if 0 < report.kept then restored + 1 else restored, r.put p)

/-- Replays snapshots into a roster, and tells how many of them had an entry to replay. -/
def restore (snapshots : List Snapshot) (r : Roster) : Nat × Roster :=
  snapshots.foldl restoreNext (0, r)

end Jukebox.Sessions
