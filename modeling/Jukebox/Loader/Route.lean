import Jukebox.Query

/-!
# Routes

Which of the two loaders a request goes to.

## Main definitions

* `Jukebox.Route`: the two loaders.
* `Jukebox.Route.ofRequest`: bare addresses are probed, and all else is left to the extractor.
-/

namespace Jukebox

/-- The two loaders. -/
inductive Route where
  /-- The extractor, which knows the providers. -/
  | extractor
  /-- The probe for addresses that no provider owns. -/
  | probe
  deriving DecidableEq, Repr

namespace Route

/-- The name of a loader. -/
def name : Route → String
  | extractor => "yt-dlp"
  | probe => "http"

/-- The name of the choice between the loaders. -/
def choiceName : String := "routing"

/-- The loader of a request. -/
def ofRequest (request : List Char) : Route :=
  if isWebAddress request && Provider.ofText request = .http then probe else extractor

end Route

end Jukebox
