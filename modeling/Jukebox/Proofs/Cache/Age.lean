import Jukebox.Proofs.Cache.Origin

/-!
# How old an answer of the cache can be

Each tier answers with what is no older than it allows. A promotion begins anew, though: what the shelf knew is put
into memory as if it had just been stored, so that the two ages add up.

## Main definitions

- `ResultCache.WasStored` — a playlist was stored under a fingerprint at some moment

## Main results

- `ResultCache.served_within` — how old an answer is at most, by the tier that gives it
- `ResultCache.lookup_after_promotion` — an answer of memory that is older than each of the tiers allows
- `ResultCache.not_forall_within_max` — answers are not always as young as one of the tiers allows

## Design notes

Memory counts in microseconds and the shelf in nanoseconds.
-/

namespace Jukebox

namespace Recent

variable {κ ν : Type} [DecidableEq κ] {c : Recent κ ν} {history : List (Entry κ ν)} {now later : Nat} {key : κ}
  {value : ν}

/-- What was stored last is found as long as it lives. -/
theorem Reflects.get_insert (h : c.Reflects now history) (key : κ) (value : ν) (hle : now ≤ later)
    (hage : ∀ lifetime, c.lifetime = some lifetime → later - now ≤ lifetime) :
    ((c.insert now key value).2.get later key).1 = some value := by
  have hinsert := (h.insert key value).later hle
  rw [hinsert.get_eq_some_iff]
  obtain ⟨n, hn⟩ := Nat.exists_eq_succ_of_ne_zero (Nat.pos_iff_ne_zero.1 hinsert.capacity_pos)
  refine ⟨⟨key, value, now, c.lifetime⟩, ?_, rfl, rfl, Entry.isAlive_iff.2 hage⟩
  rw [hn, latest, List.take_succ_cons]
  exact List.mem_cons_self

/-- Nothing is found of what has outlived its time. -/
theorem Reflects.get_of_expired (h : c.Reflects now history)
    (hexpired : ∀ e ∈ history, e.key = key → e.isAlive now = false) : (c.get now key).1 = none := by
  rw [Option.eq_none_iff_forall_ne_some]
  intro value hfound
  obtain ⟨e, he, hkey, -, halive⟩ := h.get_eq_some_iff.1 hfound
  rw [hexpired e ((latest_sublist history).subset (List.mem_of_mem_take he)) hkey] at halive
  cases halive

end Recent

namespace ResultCache

variable {capacity lifetime maxAge now : Nat} {promotes : Bool} {calls : List (Nat × Call)} {q : Query}
  {p left : Playlist} {tier : Tier}

/-- The playlist was stored under the fingerprint at that moment. -/
def WasStored (fingerprint : String) (time : Nat) (p : Playlist) (calls : List (Nat × Call)) : Prop :=
  ∃ q, q.fingerprint = fingerprint ∧ (time, .store q p) ∈ calls

/-- Each answer is a playlist that was stored under the fingerprint, or what is left of it on the shelf. An answer of
the shelf is no older than the shelf allows, and one of memory no older than memory allows, unless it was promoted:
then it was no older than the shelf allows when it was promoted, and that was no longer ago than memory allows. So
without promotion no answer is older than one of the tiers allows, and with it none is older than both together. -/
theorem served_within (capacity lifetime maxAge : Nat) (promotes : Bool) (calls : List (Nat × Call)) (now : Nat)
    (q : Query) (p : Playlist) (tier : Tier) (hclock : (calls.map Prod.fst ++ [now]).Pairwise (· ≤ ·))
    (hcalls : ∀ call ∈ calls, Call.IsReadable call)
    (h : (((new capacity (some lifetime) maxAge promotes).run calls).lookup now q).1 = some (p, tier)) :
    ∃ time source, WasStored q.fingerprint time source calls ∧ time ≤ now ∧
      ((tier = .memory ∧ p = source ∧ now - time ≤ lifetime) ∨
        (tier = .durable ∧ source.kept? = some p ∧ (now - time) * 1000 ≤ maxAge) ∨
        (tier = .memory ∧ promotes = true ∧ source.kept? = some p ∧ ∃ promoted, time ≤ promoted ∧ promoted ≤ now ∧
          (promoted - time) * 1000 ≤ maxAge ∧ now - promoted ≤ lifetime)) ∧
      (promotes = false → (now - time) * 1000 ≤ max (lifetime * 1000) maxAge) ∧
      (now - time) * 1000 ≤ lifetime * 1000 + maxAge := by
  have hpast : ∀ time ∈ calls.map Prod.fst, time ≤ now := fun time htime =>
    (List.pairwise_append.1 hclock).2.2 time htime now List.mem_cons_self
  rcases lookup_run hclock hcalls h with
    ⟨rfl, e, hkey, rfl, hlifetime, hexpired, hstored | ⟨hpromotes, hpromoted, time, hkept, hle, hage⟩⟩ |
      ⟨rfl, time, hkept, hage⟩
  · -- an entry that was stored
    obtain ⟨q', hmem, hq', -⟩ := exists_call_of_lastStored? hstored
    have hyoung : now - e.storedAt ≤ lifetime := by
      simpa [Recent.Entry.isExpired, hlifetime] using hexpired
    refine ⟨e.storedAt, e.value, ⟨q', hq'.trans hkey, hmem⟩, hpast _ (List.mem_map_of_mem hmem),
      .inl ⟨rfl, rfl, hyoung⟩, fun _ => ?_, ?_⟩ <;> omega
  · -- an entry that was promoted
    obtain ⟨source, q', hmem, hq', hleft⟩ := exists_call_of_lastKept? hkept
    have hyoung : now - e.storedAt ≤ lifetime := by
      simpa [Recent.Entry.isExpired, hlifetime] using hexpired
    refine ⟨time, source, ⟨q', hq'.trans hkey, hmem⟩, hpast _ (List.mem_map_of_mem hmem),
      .inr (.inr ⟨rfl, hpromotes, hleft, e.storedAt, hle, hpast _ hpromoted, hage, hyoung⟩), ?_, ?_⟩
    · rw [hpromotes]
      exact fun hnot => Bool.noConfusion hnot
    · have hsum : now - time ≤ (now - e.storedAt) + (e.storedAt - time) := by
        clear hage
        omega
      calc (now - time) * 1000 ≤ ((now - e.storedAt) + (e.storedAt - time)) * 1000 := Nat.mul_le_mul_right _ hsum
        _ = (now - e.storedAt) * 1000 + (e.storedAt - time) * 1000 := Nat.add_mul _ _ _
        _ ≤ lifetime * 1000 + maxAge := Nat.add_le_add (Nat.mul_le_mul_right _ hyoung) hage
  · -- a record
    obtain ⟨source, q', hmem, hq', hleft⟩ := exists_call_of_lastKept? hkept
    refine ⟨time, source, ⟨q', hq', hmem⟩, hpast _ (List.mem_map_of_mem hmem),
      .inr (.inl ⟨rfl, hleft, hage⟩), fun _ => ?_, ?_⟩ <;> omega

/-- A playlist that has expired in memory is found on the shelf, and promoted. Memory then answers with it as if it
had been stored when it was promoted. -/
theorem lookup_after_promotion (capacity : Nat) (q : Query) {promoted : Nat} (hp : p.IsIndexed)
    (hleft : p.kept? = some left) (hexpired : lifetime < promoted) (hkept : promoted * 1000 ≤ maxAge)
    (hle : promoted ≤ now) (hage : now - promoted ≤ lifetime) :
    (((new capacity (some lifetime) maxAge true).run [(0, .store q p), (promoted, .lookup q)]).lookup now q).1 =
      some (left, .memory) := by
  have hsome := Playlist.isEmpty_of_kept? hleft
  let deposit : Shelf.Deposit := ⟨timestamp 0, q.fingerprint, p⟩
  let memory := ((Recent.empty capacity (some lifetime) : Recent String Playlist).insert 0 q.fingerprint p).2
  let stored : ResultCache := ⟨memory, (Shelf.bare maxAge).fill [deposit], true⟩
  have hstored : ((new capacity (some lifetime) maxAge true).store 0 q p).2 = stored := by
    rw [store, hsome]
    rfl
  have hreflects : memory.Reflects 0 [⟨q.fingerprint, p, 0, some lifetime⟩] :=
    (Recent.Reflects.empty capacity (some lifetime) 0).insert q.fingerprint p
  have hlater := hreflects.later (Nat.zero_le promoted)
  have hget : (memory.get promoted q.fingerprint).1 = none := by
    refine hlater.get_of_expired fun e he _ => Bool.eq_false_iff.2 fun halive => ?_
    rw [List.mem_singleton.1 he, Recent.Entry.isAlive_iff] at halive
    have hyoung := halive lifetime rfl
    exact absurd hyoung (Nat.not_le.2 hexpired)
  have hfetch : stored.fetch? promoted q.fingerprint = some left := by
    have hreadable : ∀ d ∈ [deposit], d.IsReadable := fun d hd => by
      rw [List.mem_singleton.1 hd]
      exact ⟨isReadable_zero, hp⟩
    rw [fetch?_eq_some_iff]
    refine (Shelf.fetch_fill_eq_some_iff hreadable).2 ⟨deposit, ⟨[], [], rfl, ?_, rfl, List.forall_mem_nil _⟩, rfl,
      ?_, hleft⟩
    · exact (Playlist.kept?_eq_some_iff.1 hleft).1
    · change ((promoted : Int) * 1000) - 0 * 1000 ≤ (maxAge : Int)
      omega
  have hpromoted : (stored.lookup promoted q).2.memory =
      ((memory.get promoted q.fingerprint).2.insert promoted q.fingerprint left).2 := by
    rw [lookup_eq]
    simp only [stored] at hfetch ⊢
    rw [hget, hfetch]
    rfl
  have hrun : (new capacity (some lifetime) maxAge true).run [(0, .store q p), (promoted, .lookup q)] =
      (stored.lookup promoted q).2 := by
    rw [← hstored]
    rfl
  rw [hrun, lookup_eq_memory_iff, hpromoted]
  refine (hlater.get q.fingerprint).get_insert q.fingerprint left hle fun limit hlimit => ?_
  have hlifetime : (memory.get promoted q.fingerprint).2.lifetime = some lifetime :=
    Recent.perform_lifetime promoted (.get q.fingerprint) memory
  obtain rfl := Option.some.inj (hlifetime.symm.trans hlimit)
  exact hage

/-- An answer need not be as young as one of the tiers allows: eight moments after it was stored, a promoted playlist
is found, where memory allows four and the shelf six. -/
theorem not_forall_within_max : ¬ ∀ (capacity lifetime maxAge : Nat) (promotes : Bool) (calls : List (Nat × Call))
    (now : Nat) (q : Query) (p : Playlist) (tier : Tier), (calls.map Prod.fst ++ [now]).Pairwise (· ≤ ·) →
    (∀ call ∈ calls, Call.IsReadable call) →
    (((new capacity (some lifetime) maxAge promotes).run calls).lookup now q).1 = some (p, tier) →
    ∃ time source, WasStored q.fingerprint time source calls ∧ (p = source ∨ source.kept? = some p) ∧
      (now - time) * 1000 ≤ max (lifetime * 1000) maxAge := by
  intro hall
  let q : Query := .new ['a'] .youtube
  let p : Playlist := ⟨"a", [⟨"title", "author", 1000, "id", false, none, "youtube"⟩], none⟩
  have hleft : p.kept? = some p := by
    unfold p
    decide
  have hp : p.IsIndexed := fun i hi => nomatch hi
  have hreadable : ∀ call ∈ [(0, Call.store q p), (5, .lookup q)], Call.IsReadable call := by
    simp only [List.forall_mem_cons, List.not_mem_nil, false_implies, implies_true, and_true]
    exact ⟨⟨isReadable_zero, hp⟩, trivial⟩
  obtain ⟨time, source, ⟨q', -, hmem⟩, -, hage⟩ := hall 1 4 6000 true _ 8 q p .memory (by decide) hreadable
    (lookup_after_promotion 1 q hp hleft (by decide) (by decide) (by decide) (by decide))
  rcases List.mem_cons.1 hmem with hfirst | hsecond
  · rw [(Prod.mk.inj hfirst).1] at hage
    exact absurd hage (by decide)
  · exact nomatch (Prod.mk.inj (List.mem_singleton.1 hsecond)).2

/-- The promoted playlist is no older than both tiers together allow. -/
theorem promoted_within_sum :
    let q : Query := .new ['a'] .youtube
    let p : Playlist := ⟨"a", [⟨"title", "author", 1000, "id", false, none, "youtube"⟩], none⟩
    let calls : List (Nat × Call) := [(0, .store q p), (5, .lookup q)]
    (((new 1 (some 4) 6000 true).run calls).lookup 8 q).1 = some (p, .memory) ∧
      ∃ time source, WasStored q.fingerprint time source calls ∧ (8 - time) * 1000 ≤ 4 * 1000 + 6000 := by
  intro q p calls
  have hleft : p.kept? = some p := by
    unfold p
    decide
  have hp : p.IsIndexed := fun i hi => nomatch hi
  have hreadable : ∀ call ∈ calls, Call.IsReadable call := by
    simp only [calls, List.forall_mem_cons, List.not_mem_nil, false_implies, implies_true, and_true]
    exact ⟨⟨isReadable_zero, hp⟩, trivial⟩
  have hfound : (((new 1 (some 4) 6000 true).run calls).lookup 8 q).1 = some (p, .memory) :=
    lookup_after_promotion 1 q hp hleft (by decide) (by decide) (by decide) (by decide)
  obtain ⟨time, source, hstored, -, -, -, hage⟩ :=
    served_within 1 4 6000 true calls 8 q p .memory (by decide) hreadable hfound
  exact ⟨hfound, time, source, hstored, hage⟩

end ResultCache

end Jukebox
