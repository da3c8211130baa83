import Jukebox.Provider
import Jukebox.Text.Quoted

/-!
# Tracks

What is known about a playable resource.

## Main definitions

* `Jukebox.Track`: a playable resource.
* `Jukebox.Track.duration?`: how long it plays, which a stream does not tell.
* `Jukebox.Track.describe`: a one-line description for inspection.
-/

namespace Jukebox

/-- A playable resource. `source` names the provider that produced it. -/
structure Track where
  title : String
  author : String
  lengthMs : UInt64
  identifier : String
  isStream : Bool
  uri : Option String
  source : String
  deriving DecidableEq, Repr

namespace Track

/-- How many milliseconds the track plays. A stream has no end. -/
def duration? (t : Track) : Option UInt64 :=
  if t.isStream then none else some t.lengthMs

/-- A one-line description for inspection. -/
def describe (t : Track) : String :=
  "AudioTrack \x7b source: " ++ Text.quote t.source ++ ", identifier: " ++ Text.quote t.identifier ++
    ", title: " ++ Text.quote t.title ++ " \x7d"

/-- The source of the track is the name of a provider. -/
def hasKnownSource (t : Track) : Bool :=
  (Provider.ofName? t.source.toList).isSome

end Track

end Jukebox
