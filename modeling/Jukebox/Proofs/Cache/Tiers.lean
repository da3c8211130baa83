import Jukebox.Cache.Tiers

/-!
# What the two tiers of the cache hold

Memory only holds what was put there: what requests have kept, and what the shelf knew if the cache promotes
it. So whatever is true of all of that is true of all that memory holds, however entries expire, are dropped
or replace each other, and of all that is found there.

## Main definitions

- `ResultCache.Holds` — what memory holds has a property
- `ResultCache.NoneEmpty` — no playlist in memory is empty
- `Shelf.IsSilent` — there is no shelf, or none on which any call succeeds

## Main results

- `ResultCache.lookup_cases` — where the answer of a lookup comes from, and what the lookup does to memory
- `ResultCache.lookup_of_isSilent`, `ResultCache.store_of_isSilent` — what is left of the cache with a silent shelf
- `ResultCache.Holds.store`, `ResultCache.Holds.lookup` — what keeping and looking up do to a property
- `ResultCache.NoneEmpty.of_lookup` — the cache never answers with an empty playlist
-/

namespace Jukebox

-- ════════════════════════════════════════════════════════════════════════
-- Entries of a map
-- ════════════════════════════════════════════════════════════════════════

namespace Recent

variable {κ ν : Type} [DecidableEq κ] {c : Recent κ ν} {now : Nat} {key : κ} {value : ν} {e : Entry κ ν}

/-- What is stored replaces the entry of its key. -/
theorem mem_entries_insert (h : e ∈ (c.insert now key value).2.entries) :
    (e ∈ c.entries ∧ e.key ≠ key) ∨ e = ⟨key, value, now, c.lifetime⟩ := by
  have hmem : e ∈ without key c.entries ++ [⟨key, value, now, c.lifetime⟩] := List.mem_of_mem_drop h
  rcases List.mem_append.1 hmem with hold | hnew
  · obtain ⟨he, hkey⟩ := List.mem_filter.1 hold
    exact .inl ⟨he, of_decide_eq_true hkey⟩
  · exact .inr (List.mem_singleton.1 hnew)

theorem mem_entries_get (h : e ∈ (c.get now key).2.entries) : e ∈ c.entries := by
  unfold get at h
  split at h
  · exact h
  · split at h
    · exact (List.mem_filter.1 h).1
    · exact h

/-- What is found is the value of an entry that has not expired. -/
theorem exists_entry_of_get (h : (c.get now key).1 = some value) :
    ∃ e ∈ c.entries, e.key = key ∧ e.value = value ∧ e.isExpired now = false := by
  unfold get at h
  split at h
  · cases h
  · next e hfound =>
    split at h
    · cases h
    · next hexpired =>
      refine ⟨e, List.mem_of_find?_eq_some hfound, ?_, Option.some.inj h, Bool.eq_false_iff.2 hexpired⟩
      simpa using List.find?_some hfound

end Recent

-- ════════════════════════════════════════════════════════════════════════
-- What a shelf knows
-- ════════════════════════════════════════════════════════════════════════

/-- A record never stands for an empty playlist. -/
theorem Record.not_isEmpty_of_playlist? {r : Record} {p : Playlist} (h : r.playlist? = some p) :
    p.isEmpty = false := by
  unfold playlist? at h
  simp only at h
  split at h
  · cases h
  · next hsome =>
    obtain rfl := Option.some.inj h
    exact Bool.eq_false_iff.2 hsome

/-- A shelf never answers with an empty playlist, whatever stands in its directory. -/
theorem Shelf.not_isEmpty_of_fetch {s : Shelf} {now : Timestamp} {fingerprint : String} {p : Playlist}
    (h : s.fetch now fingerprint = .ok (some p)) : p.isEmpty = false := by
  unfold fetch at h
  split at h
  · cases h
  · cases h
  · split at h
    · cases h
    · unfold fetchFrom at h
      split at h
      · cases h
      · cases h
      · split at h
        · cases h
        · split at h
          · exact Record.not_isEmpty_of_playlist? (Except.ok.inj h)
          · cases h

/-- There is no shelf, or none on which any call succeeds. -/
def Shelf.IsSilent (s : Shelf) : Prop := s.kind = .absent ∨ s.kind = .broken

theorem Shelf.IsSilent.store {s : Shelf} (h : s.IsSilent) (now : Timestamp) (fingerprint : String)
    (p : Playlist) : (s.store now fingerprint p).2 = s := by
  unfold Shelf.store
  rcases h with h | h
  · rw [h]
  · rw [h]

namespace ResultCache

variable {c : ResultCache} {now : Nat} {q : Query} {p : Playlist} {P : String → Playlist → Prop}

theorem fetch?_of_isSilent (h : c.shelf.IsSilent) (now : Nat) (fingerprint : String) :
    c.fetch? now fingerprint = none := by
  unfold fetch? Shelf.fetch
  rcases h with h | h
  · rw [h]
  · rw [h]

theorem store_of_isSilent (h : c.shelf.IsSilent) (now : Nat) (q : Query) (p : Playlist) :
    (c.store now q p).2 =
      { c with memory := if p.isEmpty then c.memory else (c.memory.insert now q.fingerprint p).2 } := by
  unfold store
  split
  · rfl
  · simp only
    rw [h.store]

theorem not_isEmpty_of_fetch? {fingerprint : String} (h : c.fetch? now fingerprint = some p) :
    p.isEmpty = false := by
  unfold fetch? at h
  split at h
  · next hfetch => exact Shelf.not_isEmpty_of_fetch (hfetch.trans (congrArg Except.ok h))
  · cases h

-- ════════════════════════════════════════════════════════════════════════
-- Looking up
-- ════════════════════════════════════════════════════════════════════════

/-- Memory is asked first, and the shelf if memory does not know. -/
theorem lookup_cases (now : Nat) (q : Query) (c : ResultCache) :
    let memory := (c.memory.get now q.fingerprint).2
    (∃ p, (c.memory.get now q.fingerprint).1 = some p ∧
      c.lookup now q = (some (p, .memory), { c with memory })) ∨
    ((c.memory.get now q.fingerprint).1 = none ∧ c.fetch? now q.fingerprint = none ∧
      c.lookup now q = (none, { c with memory })) ∨
    (∃ p, (c.memory.get now q.fingerprint).1 = none ∧ c.fetch? now q.fingerprint = some p ∧
      c.lookup now q = (some (p, .durable),
        { c with memory := if c.promotes then (memory.insert now q.fingerprint p).2 else memory })) := by
  intro memory
  unfold lookup
  rcases hget : c.memory.get now q.fingerprint with ⟨_ | p, memory'⟩
  · have hmemory : memory = memory' := congrArg Prod.snd hget
    have hshelf : fetch? now q.fingerprint { c with memory := memory' } = c.fetch? now q.fingerprint := rfl
    rw [hmemory]
    refine .inr ?_
    cases hfetch : c.fetch? now q.fingerprint with
    | none => exact .inl ⟨rfl, rfl, by simp only [hget, hshelf, hfetch]⟩
    | some p => exact .inr ⟨p, rfl, rfl, by simp only [hget, hshelf, hfetch]⟩
  · have hmemory : memory = memory' := congrArg Prod.snd hget
    rw [hmemory]
    exact .inl ⟨p, rfl, by simp only [hget]⟩

/-- With a silent shelf, memory alone is asked. -/
theorem lookup_of_isSilent (h : c.shelf.IsSilent) (now : Nat) (q : Query) :
    c.lookup now q = ((c.memory.get now q.fingerprint).1.map (·, .memory),
      { c with memory := (c.memory.get now q.fingerprint).2 }) := by
  rcases lookup_cases now q c with ⟨p, hget, hr⟩ | ⟨hget, -, hr⟩ | ⟨p, -, hfetch, -⟩
  · rw [hr, hget]
    rfl
  · rw [hr, hget]
    rfl
  · rw [fetch?_of_isSilent h] at hfetch
    cases hfetch

theorem lookup_eq_memory_iff :
    (c.lookup now q).1 = some (p, .memory) ↔ (c.memory.get now q.fingerprint).1 = some p := by
  rcases lookup_cases now q c with ⟨p', hget, h⟩ | ⟨hget, -, h⟩ | ⟨p', hget, -, h⟩ <;> simp [h, hget]

-- ════════════════════════════════════════════════════════════════════════
-- Properties of what memory holds
-- ════════════════════════════════════════════════════════════════════════

/-- Each playlist that memory holds has a property, which may depend on its fingerprint. -/
def Holds (P : String → Playlist → Prop) (c : ResultCache) : Prop :=
  ∀ e ∈ c.memory.entries, P e.key e.value

namespace Holds

theorem of_empty {capacity : Nat} {lifetime : Option Nat} (h : c.memory = .empty capacity lifetime) :
    c.Holds P := by
  intro e he
  rw [h] at he
  cases he

theorem store (h : c.Holds P) (hp : p.isEmpty = false → P q.fingerprint p) : (c.store now q p).2.Holds P := by
  unfold ResultCache.store
  split
  · exact h
  · next hsome =>
    intro e he
    rcases Recent.mem_entries_insert he with ⟨hold, -⟩ | rfl
    · exact h e hold
    · exact hp (Bool.eq_false_iff.2 hsome)

/-- Looking up keeps a property of what memory holds, if what the shelf knows has it, and then the answer has
it as well. -/
theorem lookup (h : c.Holds P) (hfetch : ∀ p, c.fetch? now q.fingerprint = some p → P q.fingerprint p) :
    (c.lookup now q).2.Holds P ∧ ∀ p tier, (c.lookup now q).1 = some (p, tier) → P q.fingerprint p := by
  have hget : ∀ e ∈ (c.memory.get now q.fingerprint).2.entries, P e.key e.value :=
    fun e he => h e (Recent.mem_entries_get he)
  rcases lookup_cases now q c with ⟨p', hfound, hr⟩ | ⟨-, -, hr⟩ | ⟨p', -, hknown, hr⟩
  · rw [hr]
    refine ⟨hget, fun p tier hp => ?_⟩
    obtain ⟨rfl, -⟩ := Prod.mk.inj (Option.some.inj hp)
    obtain ⟨e, he, hkey, rfl, -⟩ := Recent.exists_entry_of_get hfound
    rw [← hkey]
    exact h e he
  · rw [hr]
    exact ⟨hget, fun p tier hp => nomatch hp⟩
  · rw [hr]
    refine ⟨?_, fun p tier hp => ?_⟩
    · intro e he
      simp only at he
      split at he
      · rcases Recent.mem_entries_insert he with ⟨hold, -⟩ | rfl
        · exact hget e hold
        · exact hfetch p' hknown
      · exact hget e he
    · obtain ⟨rfl, -⟩ := Prod.mk.inj (Option.some.inj hp)
      exact hfetch p' hknown

end Holds

/-- No playlist that memory holds is empty. -/
def NoneEmpty (c : ResultCache) : Prop := c.Holds fun _ p => p.isEmpty = false

namespace NoneEmpty

theorem store (h : c.NoneEmpty) (now : Nat) (q : Query) (p : Playlist) : (c.store now q p).2.NoneEmpty :=
  Holds.store h id

theorem lookup (h : c.NoneEmpty) (now : Nat) (q : Query) : (c.lookup now q).2.NoneEmpty :=
  (Holds.lookup h fun _ => not_isEmpty_of_fetch?).1

/-- The cache never answers with an empty playlist. -/
theorem of_lookup (h : c.NoneEmpty) {tier : Tier} (hp : (c.lookup now q).1 = some (p, tier)) :
    p.isEmpty = false :=
  (Holds.lookup h fun _ => not_isEmpty_of_fetch?).2 p tier hp

end NoneEmpty

end ResultCache

end Jukebox
