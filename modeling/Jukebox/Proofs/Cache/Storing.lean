import Jukebox.Proofs.Cache.Accounts
import Jukebox.Proofs.Cache.Shelf
import Jukebox.Proofs.Cache.Tiers

/-!
# What storing leaves to be found

A playlist that is stored for a query is there for every query of the same fingerprint. Memory answers with it until
its lifetime is over, and so does the shelf with what it can keep of it, if there is a shelf that can write. Nothing
else comes into the cache.

## Main definitions

- `ResultCache.Gains` — what a cache has gained once a playlist is stored for a query

## Main results

- `ResultCache.gains_store` — storing a playlist that is not empty is a gain
- `ResultCache.capacity_store`, `ResultCache.capacity_lookup` — no call changes how much memory has room for
-/

namespace Jukebox.ResultCache

open Recent (Entry)

variable {c : ResultCache} {now : Nat} {q : Query} {p : Playlist}

/-- What a cache has gained once a playlist is stored for a query. -/
structure Gains (c : ResultCache) (now : Nat) (q : Query) (p : Playlist) (c' : ResultCache) : Prop where
  /-- Memory answers all queries of the fingerprint with the playlist, and does so until its lifetime is over. -/
  found : ∀ later q', q'.fingerprint = q.fingerprint → ((c'.lookup later q').1 = some (p, .memory) ↔
    ∀ lifetime, c.memory.lifetime = some lifetime → later - now ≤ lifetime)
  /-- All other entries of memory were there before, and are those of other fingerprints. -/
  others : ∀ e ∈ c'.memory.entries, e.key ≠ q.fingerprint → e ∈ c.memory.entries
  /-- The fingerprint has one entry. -/
  entry : ∀ e ∈ c'.memory.entries, e.key = q.fingerprint → e = ⟨q.fingerprint, p, now, c.memory.lifetime⟩
  /-- A shelf that could write answers with what is left of the playlist, until that is too old. -/
  shelved : c.shelf.kind = .files → (timestamp now).IsReadable → p.IsIndexed → p.representable ≠ [] →
    (c.shelf.store (timestamp now) q.fingerprint p).1 = .ok () → ∀ later, c'.fetch? later q.fingerprint =
      if timestamp later - timestamp now ≤ c.shelf.lifetime then p.kept? else none

theorem store_of_not_isEmpty (hp : p.isEmpty = false) (now : Nat) (q : Query) (c : ResultCache) :
    (c.store now q p).2 = { c with
      memory := (c.memory.insert now q.fingerprint p).2
      shelf := (c.shelf.store (timestamp now) q.fingerprint p).2 } := by
  rw [store, hp]
  rfl

/-- What was stored is found, since memory has room for one entry at least. -/
theorem gains_store (hcapacity : 0 < c.memory.capacity) (hp : p.isEmpty = false) (now : Nat) (q : Query) :
    c.Gains now q p (c.store now q p).2 := by
  rw [store_of_not_isEmpty hp]
  let e : Entry String Playlist := ⟨q.fingerprint, p, now, c.memory.lifetime⟩
  have hfound : (c.memory.insert now q.fingerprint p).2.find? e.key = some e := Recent.find?_store hcapacity e
  constructor
  · intro later q' hq
    rw [lookup_eq_memory_iff, hq]
    exact (Recent.get_of_find? hfound later).trans Entry.isAlive_iff
  · intro e' he' hkey
    obtain ⟨hold, -⟩ | rfl := Recent.mem_entries_insert he'
    · exact hold
    · exact absurd rfl hkey
  · intro e' he' hkey
    obtain ⟨-, hother⟩ | rfl := Recent.mem_entries_insert he'
    · exact absurd hkey hother
    · rfl
  · intro hfiles htime hindexed hsome hstored later
    rw [fetch?, Shelf.fetch_store hfiles htime hindexed hsome hstored]

-- ════════════════════════════════════════════════════════════════════════
-- Room for entries
-- ════════════════════════════════════════════════════════════════════════

@[simp] theorem capacity_store (now : Nat) (q : Query) (p : Playlist) (c : ResultCache) :
    (c.store now q p).2.memory.capacity = c.memory.capacity := by
  unfold store
  split <;> rfl

@[simp] theorem capacity_lookup (now : Nat) (q : Query) (c : ResultCache) :
    (c.lookup now q).2.memory.capacity = c.memory.capacity := by
  have hget := Recent.perform_capacity now (.get q.fingerprint) c.memory
  obtain ⟨p, -, h⟩ | ⟨-, -, h⟩ | ⟨p, -, -, h⟩ := lookup_cases now q c
  · rw [h]
    exact hget
  · rw [h]
    exact hget
  · rw [h]
    simp only
    split
    · exact hget
    · exact hget

end Jukebox.ResultCache
