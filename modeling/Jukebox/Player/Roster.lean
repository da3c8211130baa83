import Jukebox.Player.Basic

/-!
# Rosters

The players of all guilds. A player comes into being when its guild first needs one.

## Main definitions

* `Jukebox.Roster`: the players, one for each guild at most.
* `Jukebox.Roster.player`: the player of a guild, a new one if there is none.
* `Jukebox.Roster.put`: stores the player of its guild.
-/

namespace Jukebox

/-- The players of all guilds, and the queue bound of new ones. -/
structure Roster where
  maxQueue : Nat
  players : List Player := []

namespace Roster

def find? (guild : Id) (r : Roster) : Option Player :=
  r.players.find? fun p => p.guild = guild

/-- The player of a guild, a new one if there is none yet. -/
def player (guild : Id) (r : Roster) : Player :=
  (r.find? guild).getD (Player.new guild r.maxQueue)

/-- The roster without the player of a guild. -/
def remove (guild : Id) (r : Roster) : Roster :=
  { r with players := r.players.filter fun p => p.guild ≠ guild }

/-- Stores the player of its guild in place of the one before. -/
def put (p : Player) (r : Roster) : Roster :=
  if (r.find? p.guild).isSome then
    { r with players := r.players.map fun q => if q.guild = p.guild then p else q }
  else { r with players := r.players ++ [p] }

/-- The players in the order of their guilds. -/
def sorted (r : Roster) : List Player :=
  r.players.mergeSort fun p q => Id.le p.guild q.guild

/-- The guilds that have a player, in order. -/
def guilds (r : Roster) : List Id :=
  r.sorted.map Player.guild

end Roster

end Jukebox
