import Jukebox.Track.Basic

/-!
# Playlists

The answer to a request: tracks in order under a label. A request without matches is answered with an
empty playlist.

## Main definitions

* `Jukebox.Playlist`: tracks under a label, one of which may be selected.
* `Jukebox.Playlist.single`: the playlist of one track.
* `Jukebox.Playlist.firstOnly`: the playlist cut after its first track.
-/

namespace Jukebox

/-- Tracks under a label. `selected` is the index of a track. -/
structure Playlist where
  label : String
  tracks : List Track
  selected : Option Nat
  deriving DecidableEq, Repr

namespace Playlist

/-- The playlist without tracks. -/
def empty : Playlist := ⟨"", [], none⟩

/-- The playlist of one track, labelled with its title and selected. -/
def single (t : Track) : Playlist := ⟨t.title, [t], some 0⟩

/-- There are no tracks. -/
def isEmpty (p : Playlist) : Bool := p.tracks.isEmpty

/-- The number of tracks. -/
def length (p : Playlist) : Nat := p.tracks.length

/-- The playlist cut after its first track. If a track was selected, it is now the first one. -/
def firstOnly (p : Playlist) : Playlist :=
  { p with
    tracks := p.tracks.take 1
    selected := if p.isEmpty then none else p.selected.map fun _ => 0 }

/-- Cutting a playlist a second time changes nothing. -/
theorem firstOnly_firstOnly (p : Playlist) : p.firstOnly.firstOnly = p.firstOnly := by
  rcases p with ⟨label, tracks, selected⟩
  cases tracks <;> cases selected <;> simp [firstOnly, isEmpty]

/-- One track at most is left of a playlist that is cut. -/
theorem length_firstOnly (p : Playlist) : p.firstOnly.length = min 1 p.length :=
  List.length_take

/-- Cutting a playlist leaves a track in it if there was one. -/
theorem isEmpty_firstOnly (p : Playlist) : p.firstOnly.isEmpty = p.isEmpty := by
  rcases p with ⟨label, tracks, selected⟩
  cases tracks <;> simp [firstOnly, isEmpty]

end Playlist

end Jukebox
