/-!
# Identifiers

Numbers that stand for guilds, users and channels. Zero stands for none of them.

## Main definitions

* `Jukebox.Id`: a 64-bit number other than zero.
* `Jukebox.Id.ofNumber?`: the identifier with a number, if it is not zero.
* `Jukebox.Id.number`: the number of an optional identifier.
-/

namespace Jukebox

/-- The number of a guild, a user or a channel. -/
structure Id where
  val : UInt64
  val_ne_zero : val ≠ 0
  deriving DecidableEq

namespace Id

/-- The identifier with the given number. -/
def ofNumber? (n : UInt64) : Option Id :=
  if h : n ≠ 0 then some ⟨n, h⟩ else none

/-- The number that stands for an identifier or for none. -/
def number : Option Id → UInt64
  | some id => id.val
  | none => 0

/-- The order of identifiers is that of their numbers. -/
def le (a b : Id) : Bool :=
  a.val.toNat ≤ b.val.toNat

/-- The identifier with number one. -/
def one : Id := ⟨1, by decide⟩

/-- An optional identifier is read back from its number. -/
theorem ofNumber?_number (id : Option Id) : ofNumber? (number id) = id := by
  cases id with
  | none => rfl
  | some id => simp [ofNumber?, number, id.val_ne_zero]

end Id

end Jukebox
