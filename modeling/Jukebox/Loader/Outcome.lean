import Jukebox.Failure
import Jukebox.Playlist
import Jukebox.Query

/-!
# Outcomes of loads

What a loader reports for one request, and what the report means for a query.

## Main definitions

* `Jukebox.LoadOutcome`: the report of a loader.
* `Jukebox.LoadOutcome.accept`: the playlist for a query, or the failure.
-/

namespace Jukebox

/-- The report of a loader for one request. -/
inductive LoadOutcome where
  | track (track : Track)
  | playlist (playlist : Playlist)
  | noMatches
  | failed (failure : LoadFailure)
  deriving DecidableEq, Repr

/-- The playlist that answers a query. A search that keeps only the first track cuts a playlist. -/
def LoadOutcome.accept (q : Query) : LoadOutcome → Except LoadFailure Playlist
  | track t => .ok (Playlist.single t)
  | playlist p => .ok (if q.keepsOnlyFirst then p.firstOnly else p)
  | noMatches => .ok Playlist.empty
  | failed f => .error f

end Jukebox
