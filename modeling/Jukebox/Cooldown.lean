import Jukebox.Provider

/-!
# Cooldowns

Providers that limit the rate of requests are left alone for a while. Each provider has a point in time
until which it is avoided, and that point only ever moves forward.

## Main definitions

* `Jukebox.Cooldown`: the providers that are watched, and until when each is avoided.
* `Jukebox.Cooldown.remaining?`: how long a provider is still avoided.
* `Jukebox.Cooldown.trigger`: avoids a provider for a while from now on.
* `Jukebox.Cooldown.clear`: ends the cooldown of a provider.
-/

namespace Jukebox

/-- The providers whose signals count, and the points in time, in milliseconds, until which providers
are avoided. -/
structure Cooldown where
  tracked : List Provider
  deadline : Provider → Nat := fun _ => 0

namespace Cooldown

/-- The last point in time that can be recorded. -/
def horizon : Nat := 0x7FFFFFFFFFFFFFFF

/-- Signals of the provider count. -/
def tracks (p : Provider) (c : Cooldown) : Bool := c.tracked.contains p

/-- How many milliseconds the provider is still avoided. -/
def remaining? (now : Nat) (p : Provider) (c : Cooldown) : Option Nat :=
  if now < c.deadline p then some (c.deadline p - now) else none

/-- The provider is avoided. -/
def isActive (now : Nat) (p : Provider) (c : Cooldown) : Bool :=
  (c.remaining? now p).isSome

/-- Records a point in time for a provider. -/
def record (p : Provider) (t : Nat) (c : Cooldown) : Cooldown :=
  { c with deadline := fun q => if q = p then t else c.deadline q }

/-- Avoids a provider for so many milliseconds from now on, and tells whether that is longer than
before. -/
def trigger (now ms : Nat) (p : Provider) (c : Cooldown) : Bool × Cooldown :=
  let t := min (now + ms) horizon
  if c.deadline p < t then (true, c.record p t) else (false, c)

def clear (p : Provider) (c : Cooldown) : Cooldown :=
  c.record p 0

end Cooldown

end Jukebox
