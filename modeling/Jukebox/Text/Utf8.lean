/-!
# Bytes of a text

The UTF-8 bytes of a text, the strict reading that accepts exactly those, and the lenient reading that
puts a replacement character wherever a byte sequence breaks off.

## Main definitions

* `Jukebox.Bytes`: a sequence of bytes.
* `Jukebox.Bytes.ofString`: the UTF-8 form of a text.
* `Jukebox.Bytes.toString?`: the text of which the bytes are the UTF-8 form.
* `Jukebox.Bytes.toStringLossy`: the text read leniently.

## Design notes

The lenient reader is a fold over the bytes. Its state is what is still missing from the sequence under
way, so that a sequence that breaks off is replaced once, and the byte that broke it starts afresh.
-/

namespace Jukebox

/-- A sequence of bytes. -/
abbrev Bytes := List UInt8

namespace Bytes

/-- The UTF-8 form of a text. -/
def ofString (s : String) : Bytes :=
  s.toUTF8.data.toList

/-- The text of which the bytes are the UTF-8 form. -/
def toString? (bytes : Bytes) : Option String :=
  String.fromUTF8? ⟨bytes.toArray⟩

/-- A text is read back from its own bytes. -/
theorem toString?_ofString (s : String) : toString? (ofString s) = some s := by
  rw [toString?, ofString, Array.toArray_toList, String.fromUTF8?]
  exact dif_pos s.isValidUTF8

/-- Bytes that can be read are the UTF-8 form of what is read. -/
theorem ofString_of_toString? {bytes : Bytes} {s : String} (h : toString? bytes = some s) :
    ofString s = bytes := by
  rw [toString?, String.fromUTF8?] at h
  by_cases hv : ByteArray.IsValidUTF8 ⟨bytes.toArray⟩
  · rw [dif_pos hv] at h
    injection h with h
    subst h
    rfl
  · rw [dif_neg hv] at h
    contradiction

/-- A multi-byte sequence under way: `missing + 1` bytes are still to come, the next one between `low`
and `high`, and `value` holds the bits read so far. -/
structure Partial where
  missing : Nat
  value : Nat
  low : UInt8
  high : UInt8

/-- Reads a byte that starts a sequence: the characters it completes and the sequence it opens. -/
def start (b : UInt8) : List Char × Option Partial :=
  let n := b.toNat
  if n < 0x80 then ([Char.ofNat n], none)
  else if n < 0xC2 then (['\uFFFD'], none)
  else if n < 0xE0 then ([], some ⟨0, n - 0xC0, 0x80, 0xBF⟩)
  else if n < 0xF0 then
    ([], some ⟨1, n - 0xE0, if n = 0xE0 then 0xA0 else 0x80, if n = 0xED then 0x9F else 0xBF⟩)
  else if n < 0xF5 then
    ([], some ⟨2, n - 0xF0, if n = 0xF0 then 0x90 else 0x80, if n = 0xF4 then 0x8F else 0xBF⟩)
  else (['\uFFFD'], none)

/-- Reads one byte in the middle of `under`, the sequence under way. -/
def advance (under : Option Partial) (b : UInt8) : List Char × Option Partial :=
  match under with
  | none => start b
  | some p =>
    if p.low ≤ b ∧ b ≤ p.high then
      let value := p.value * 64 + b.toNat % 64
      match p.missing with
      | 0 => ([Char.ofNat value], none)
      | more + 1 => ([], some ⟨more, value, 0x80, 0xBF⟩)
    else
      let (read, next) := start b
      ('\uFFFD' :: read, next)

/-- The characters read leniently, last one first, and the sequence left open at the end. -/
def readLossy (bytes : Bytes) : List Char × Option Partial :=
  bytes.foldl (fun (read, under) b =>
    let (more, under) := advance under b
    (more.reverse ++ read, under)) ([], none)

/-- The text read leniently: each maximal piece of a sequence that breaks off becomes one replacement
character. -/
def toStringLossy (bytes : Bytes) : String :=
  let (read, under) := readLossy bytes
  String.ofList (if under.isSome then '\uFFFD' :: read else read).reverse

end Bytes

end Jukebox
