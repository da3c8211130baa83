import Jukebox.Engine
import Jukebox.Player.Basic

/-!
# Requests

What a user asks for in a guild: the input is resolved, and what is found goes to the player. A failure
is reported and counted, and leaves the player as it was.

## Main definitions

* `Jukebox.Submission`: what became of a request.
* `Jukebox.Intake.submit`: one request.
-/

namespace Jukebox

/-- What became of a request. -/
inductive Submission where
  | queued (added : Nat) (label : String) (provider : Provider)
  | noMatches
  | failed (reason : String)
  deriving DecidableEq, Repr

namespace Intake

/-- Queues a playlist for a user. A player that takes a track goes on playing. -/
def queue (requester : Id) (p : Playlist) (provider : Provider) (player : Player) :
    Submission × Player :=
  match player.enqueue p.tracks requester with
  | .error e => (.failed e.message, player)
  | .ok (0, _) => (.failed "queue is full", player)
  | .ok (added, player) => (.queued added p.label provider, player.setPaused false)

def settle (requester : Id) (r : Engine.Resolution) (player : Player) : Submission × Player :=
  match r.result with
  | .error e => (.failed e.message, player)
  | .ok p =>
    if p.isEmpty then (.noMatches, player)
    else
      queue requester (if r.query.keepsOnlyFirst then p.firstOnly else p) r.query.provider player

/-- The request queued tracks. -/
def succeeded : Submission → Bool
  | .queued .. => true
  | .noMatches | .failed _ => false

/-- One request of a user: the submission, the player and the engine afterwards, and the text that was
sent to the loader. -/
def submit (answer : String → Reply) (preferred : Provider) (requester : Id) (input : String)
    (player : Player) (e : Engine) : Submission × Player × Engine × Option String :=
  let (resolution, e) := e.resolve answer true (Query.ofInput input.toList preferred)
  let (submission, player) := settle requester resolution player
  let e := if succeeded submission then e else e.count .intakeFailures
  (submission, player, e, resolution.sent)

end Intake

end Jukebox
