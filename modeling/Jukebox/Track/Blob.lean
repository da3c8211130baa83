import Jukebox.Text.Utf8
import Jukebox.Track.Basic

/-!
# Tracks as bytes

The binary form in which a track outlives the process. It holds a version byte, a byte of flags, the
title, the author, the length as eight bytes, the identifier, the uri if its flag is set, and the
source. Each text is its UTF-8 form behind two bytes with its size. Numbers have their highest byte
first.

## Main definitions

* `Jukebox.Track.encode?`: the bytes of a track, if it has any.
* `Jukebox.Track.decode?`: the track of the bytes.
* `Jukebox.Track.encodeAll?`, `Jukebox.Track.decodeAll?`: the same for several tracks, leaving out those
  that fail.

## Design notes

A track has bytes if its source is known and each of its texts fits its size field. Reading is strict: a
version or flag that is not in use, a byte too few or a byte too many makes the whole blob unreadable.
-/

namespace Jukebox

namespace Bytes

/-- How many numbers there are of `width` bytes. -/
def bound : Nat → Nat
  | 0 => 1
  | width + 1 => bound width * 256

/-- The lowest `width` bytes of a number, the highest of them first. -/
def ofNat : Nat → Nat → Bytes
  | 0, _ => []
  | width + 1, n => UInt8.ofNat (n / bound width) :: ofNat width n

/-- The number whose bytes are given, the highest first. -/
def toNat (bytes : Bytes) : Nat :=
  bytes.foldl (fun n b => n * 256 + b.toNat) 0

/-- The first `n` bytes and the rest, if there are that many. -/
def cut? (n : Nat) (bytes : Bytes) : Option (Bytes × Bytes) :=
  if n ≤ bytes.length then some (bytes.take n, bytes.drop n) else none

/-- A text behind its size. -/
def sized? (s : String) : Option Bytes :=
  let bytes := ofString s
  if bytes.length < 65536 then some (ofNat 2 bytes.length ++ bytes) else none

/-- Reads a text behind its size. -/
def takeSized? (bytes : Bytes) : Option (String × Bytes) := do
  let (size, rest) ← cut? 2 bytes
  let (text, rest) ← cut? size.toNat rest
  let s ← toString? text
  some (s, rest)

end Bytes

namespace Track

/-- The version of the binary form. -/
def blobVersion : UInt8 := 1

/-- The flags of a track: one for a stream, two for a uri. -/
def flags (t : Track) : Nat :=
  (if t.isStream then 1 else 0) + (if t.uri.isSome then 2 else 0)

/-- The bytes of the uri, which a track may lack. -/
def uriBytes? (uri : Option String) : Option Bytes :=
  match uri with
  | none => some []
  | some uri => Bytes.sized? uri

/-- The bytes of a track. -/
def encode? (t : Track) : Option Bytes := do
  if !t.hasKnownSource then none
  let title ← Bytes.sized? t.title
  let author ← Bytes.sized? t.author
  let identifier ← Bytes.sized? t.identifier
  let uri ← uriBytes? t.uri
  let source ← Bytes.sized? t.source
  some (blobVersion :: UInt8.ofNat t.flags ::
    (title ++ author ++ Bytes.ofNat 8 t.lengthMs.toNat ++ identifier ++ uri ++ source))

/-- Reads the uri if its flag says that there is one. -/
def takeUri? (present : Bool) (bytes : Bytes) : Option (Option String × Bytes) :=
  if present then (Bytes.takeSized? bytes).map fun (uri, rest) => (some uri, rest)
  else some (none, bytes)

/-- Reads what follows the version and the flags. -/
def decodeFields? (isStream hasUri : Bool) (bytes : Bytes) : Option Track := do
  let (title, bytes) ← Bytes.takeSized? bytes
  let (author, bytes) ← Bytes.takeSized? bytes
  let (length, bytes) ← Bytes.cut? 8 bytes
  let (identifier, bytes) ← Bytes.takeSized? bytes
  let (uri, bytes) ← takeUri? hasUri bytes
  let (source, bytes) ← Bytes.takeSized? bytes
  let t : Track :=
    { title, author, lengthMs := UInt64.ofNat length.toNat, identifier, isStream, uri, source }
  if bytes.isEmpty && t.hasKnownSource then some t else none

/-- The track of the bytes. -/
def decode? : Bytes → Option Track
  | version :: flags :: bytes =>
    if version = blobVersion ∧ flags.toNat < 4 then
      decodeFields? (flags.toNat % 2 == 1) (flags.toNat / 2 == 1) bytes
    else none
  | _ => none

/-- The bytes of each track that has any. There is no answer for no tracks. -/
def encodeAll? (tracks : List Track) : Option (List Bytes) :=
  if tracks.isEmpty then none else some (tracks.filterMap encode?)

/-- The track of each blob that can be read. There is no answer for no blobs. -/
def decodeAll? (blobs : List Bytes) : Option (List Track) :=
  if blobs.isEmpty then none else some (blobs.filterMap decode?)

end Track

end Jukebox
