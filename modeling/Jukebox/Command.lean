import Jukebox.Text.Blank
import Jukebox.Text.Case
import Jukebox.Text.Search

/-!
# Commands

What users type in a chat to control a player: a command prefix, the name of a command and, behind a
blank, what the command is about.

## Main definitions

* `Jukebox.Command`: what a user wants.
* `Jukebox.Command.parse?`: the command in a message.
-/

namespace Jukebox

/-- What a user wants of the player. -/
inductive Command where
  | play (query : String)
  | pause
  | resume
  | skip
  | stop
  | nowPlaying
  deriving DecidableEq, Repr

namespace Command

/-- The command of a name in lower case. Playing needs something to play. -/
def ofName? (name args : String) : Option Command :=
  match name with
  | "play" | "p" => if args.isEmpty then none else some (play args)
  | "pause" => some pause
  | "resume" => some resume
  | "skip" | "s" => some skip
  | "stop" | "leave" => some stop
  | "np" | "nowplaying" => some nowPlaying
  | _ => none

/-- The command in a message that starts with `front`. Blanks around the message, between name and
arguments and after the arguments do not count, nor does the case of the name. -/
def parse? (front content : String) : Option Command := do
  let rest ← Text.dropFront? front.toList (Text.trim content.toList)
  let (name, args) := (Text.splitAt? Text.isBlank rest).getD (rest, [])
  ofName? (String.ofList (Text.lower name)) (String.ofList (Text.trim args))

end Command

end Jukebox
