import Jukebox.Proofs.Cache.Maintenance
import Jukebox.Proofs.Cache.Shelf

/-!
# Where the answers of the cache come from

A cache that starts with nothing in memory and an empty directory only answers with what was stored in it. Memory
holds what was stored last under a fingerprint, or what the shelf knew when it was promoted. The shelf knows what is
left of the last playlist under the fingerprint that has a track that can be written, which need not be the last
playlist that was stored.

## Main definitions

- `ResultCache.new` — a cache in which nothing has been stored
- `ResultCache.lastStored?`, `ResultCache.lastKept?` — what was stored last, and what was kept last by the shelf
- `ResultCache.Call.IsReadable` — the records of the playlists that a call stores are read back
- `ResultCache.Explains` — an entry of memory is what was stored last, or what was promoted from the shelf

## Main results

- `ResultCache.shelf_run` — the shelf after some calls is that after the playlists that were stored
- `ResultCache.explains_run` — after any calls, all entries of memory are explained by them
- `ResultCache.lookup_run` — where the answer of a look-up comes from

## Design notes

Since maintenance is invisible to look-ups, what memory and the shelf hold is only followed through runs without
it.
-/

namespace Jukebox

namespace ResultCache

/-- A cache in which nothing has been stored. Entries of memory live for `lifetime`, records for `maxAge`. -/
def new (capacity : Nat) (lifetime : Option Nat) (maxAge : Nat) (promotes : Bool) : ResultCache :=
  vacant capacity lifetime (.bare maxAge) promotes

/-- The playlist that a call stores under a fingerprint, and when. -/
def Call.storedUnder? (fingerprint : String) : Nat × Call → Option (Nat × Playlist)
  | (now, store q p) => if q.fingerprint = fingerprint ∧ p.isEmpty = false then some (now, p) else none
  | (_, lookup _) | (_, sweepMemory) | (_, sweepShelf) => none

/-- What the shelf keeps of the playlist that a call stores under a fingerprint, and when it was stored. -/
def Call.keptUnder? (fingerprint : String) (call : Nat × Call) : Option (Nat × Playlist) :=
  (storedUnder? fingerprint call).bind fun (now, p) => p.kept?.map (now, ·)

/-- The playlist that was stored last under a fingerprint, and when. -/
def lastStored? (fingerprint : String) (calls : List (Nat × Call)) : Option (Nat × Playlist) :=
  (calls.filterMap (Call.storedUnder? fingerprint)).getLast?

/-- What was kept last under a fingerprint, and when it was stored. -/
def lastKept? (fingerprint : String) (calls : List (Nat × Call)) : Option (Nat × Playlist) :=
  (calls.filterMap (Call.keptUnder? fingerprint)).getLast?

theorem isReadable_zero : (timestamp 0).IsReadable := ⟨by decide, by decide⟩

/-- What a call gives to the shelf. -/
def Call.deposit? : Nat × Call → Option Shelf.Deposit
  | (now, store q p) => if p.isEmpty then none else some ⟨timestamp now, q.fingerprint, p⟩
  | (_, lookup _) | (_, sweepMemory) | (_, sweepShelf) => none

/-- The time at which a call stores a playlist can be read, and its selection is a number of 64 bits. -/
def Call.IsReadable : Nat × Call → Prop
  | (now, store _ p) => (timestamp now).IsReadable ∧ p.IsIndexed
  | (_, lookup _) | (_, sweepMemory) | (_, sweepShelf) => True

/-- The entry is what was stored last under its fingerprint, or it was promoted from what the shelf kept last. -/
def Explains (maxAge : Nat) (promotes : Bool) (calls : List (Nat × Call)) (e : Recent.Entry String Playlist) : Prop :=
  lastStored? e.key calls = some (e.storedAt, e.value) ∨
    promotes = true ∧ e.storedAt ∈ calls.map Prod.fst ∧ ∃ time, lastKept? e.key calls = some (time, e.value) ∧
      time ≤ e.storedAt ∧ (e.storedAt - time) * 1000 ≤ maxAge

variable {c : ResultCache} {calls : List (Nat × Call)} {now maxAge : Nat} {fingerprint : String} {p : Playlist}
  {capacity : Nat} {lifetime : Option Nat} {promotes : Bool}

-- ════════════════════════════════════════════════════════════════════════
-- What was stored last
-- ════════════════════════════════════════════════════════════════════════

theorem Call.storedUnder?_store (now : Nat) (q : Query) (hp : p.isEmpty = false) :
    storedUnder? fingerprint (now, store q p) = if q.fingerprint = fingerprint then some (now, p) else none := by
  simp [storedUnder?, hp]

theorem Call.storedUnder?_eq_some_iff {call : Nat × Call} {time : Nat} :
    storedUnder? fingerprint call = some (time, p) ↔
      ∃ q, call = (time, store q p) ∧ q.fingerprint = fingerprint ∧ p.isEmpty = false := by
  obtain ⟨now, call⟩ := call
  cases call with
  | store q p' =>
    simp only [storedUnder?, Option.ite_none_right_eq_some, Option.some.injEq, Prod.mk.injEq, store.injEq]
    constructor
    · rintro ⟨⟨hq, hsome⟩, rfl, rfl⟩
      exact ⟨q, ⟨rfl, rfl, rfl⟩, hq, hsome⟩
    · rintro ⟨_, ⟨rfl, rfl, rfl⟩, hq, hsome⟩
      exact ⟨⟨hq, hsome⟩, rfl, rfl⟩
  | lookup q => simp [storedUnder?]
  | sweepMemory => simp [storedUnder?]
  | sweepShelf => simp [storedUnder?]

theorem Call.keptUnder?_eq_some_iff {call : Nat × Call} {time : Nat} :
    keptUnder? fingerprint call = some (time, p) ↔
      ∃ source, storedUnder? fingerprint call = some (time, source) ∧ source.kept? = some p := by
  simp only [keptUnder?, Option.bind_eq_some_iff, Option.map_eq_some_iff, Prod.exists, Prod.mk.injEq]
  constructor
  · rintro ⟨_, source, hstored, _, hkept, rfl, rfl⟩
    exact ⟨source, hstored, hkept⟩
  · rintro ⟨source, hstored, hkept⟩
    exact ⟨time, source, hstored, p, hkept, rfl, rfl⟩

theorem exists_call_of_lastStored? {time : Nat} (h : lastStored? fingerprint calls = some (time, p)) :
    ∃ q, (time, .store q p) ∈ calls ∧ q.fingerprint = fingerprint ∧ p.isEmpty = false := by
  obtain ⟨call, hcall, hstored⟩ := List.mem_filterMap.1 (List.mem_of_getLast? h)
  obtain ⟨q, rfl, hq, hsome⟩ := Call.storedUnder?_eq_some_iff.1 hstored
  exact ⟨q, hcall, hq, hsome⟩

theorem exists_call_of_lastKept? {time : Nat} (h : lastKept? fingerprint calls = some (time, p)) :
    ∃ source q, (time, .store q source) ∈ calls ∧ q.fingerprint = fingerprint ∧ source.kept? = some p := by
  obtain ⟨call, hcall, hkept⟩ := List.mem_filterMap.1 (List.mem_of_getLast? h)
  obtain ⟨source, hstored, hleft⟩ := Call.keptUnder?_eq_some_iff.1 hkept
  obtain ⟨q, rfl, hq, -⟩ := Call.storedUnder?_eq_some_iff.1 hstored
  exact ⟨source, q, hcall, hq, hleft⟩

theorem storedUnder?_of_isMaintenance {call : Nat × Call} (h : call.2.isMaintenance = true) :
    Call.storedUnder? fingerprint call = none := by
  obtain ⟨now, call⟩ := call
  cases call with
  | store q p => cases h
  | lookup q => cases h
  | sweepMemory => rfl
  | sweepShelf => rfl

theorem lastStored?_withoutMaintenance (fingerprint : String) (calls : List (Nat × Call)) :
    lastStored? fingerprint (withoutMaintenance calls) = lastStored? fingerprint calls := by
  rw [lastStored?, withoutMaintenance, List.filterMap_filter, lastStored?]
  refine congrArg List.getLast? (List.filterMap_congr fun call _ => ?_)
  cases hcall : call.2.isMaintenance with
  | false => simp [hcall]
  | true => simp [hcall, storedUnder?_of_isMaintenance hcall]

theorem lastKept?_withoutMaintenance (fingerprint : String) (calls : List (Nat × Call)) :
    lastKept? fingerprint (withoutMaintenance calls) = lastKept? fingerprint calls := by
  rw [lastKept?, withoutMaintenance, List.filterMap_filter, lastKept?]
  refine congrArg List.getLast? (List.filterMap_congr fun call _ => ?_)
  cases hcall : call.2.isMaintenance with
  | false => simp [hcall]
  | true => simp [hcall, Call.keptUnder?, storedUnder?_of_isMaintenance hcall]

-- ════════════════════════════════════════════════════════════════════════
-- The shelf
-- ════════════════════════════════════════════════════════════════════════

theorem lookup_shelf (now : Nat) (q : Query) (c : ResultCache) : (c.lookup now q).2.shelf = c.shelf := by
  rcases lookup_cases now q c with ⟨p, -, h⟩ | ⟨-, -, h⟩ | ⟨p, -, -, h⟩ <;> rw [h]

/-- The shelf after some calls is that after the playlists that were stored. -/
theorem shelf_run (c : ResultCache) {calls : List (Nat × Call)}
    (hcalls : ∀ call ∈ calls, call.2.isMaintenance = false) :
    (c.run calls).shelf = c.shelf.fill (calls.filterMap Call.deposit?) := by
  induction calls generalizing c with
  | nil => rfl
  | cons first calls ih =>
    obtain ⟨now, call⟩ := first
    obtain ⟨hfirst, hrest⟩ := List.forall_mem_cons.1 hcalls
    have hnext := ih (c.perform now call) hrest
    cases call with
    | store q p =>
      cases hp : p.isEmpty with
      | true =>
        have hsame : (c.perform now (.store q p)).shelf = c.shelf := by
          rw [perform, store, if_pos hp]
        rw [hsame] at hnext
        rw [List.filterMap_cons_none (by simp [Call.deposit?, hp])]
        exact hnext
      | false =>
        have hstored : (c.perform now (.store q p)).shelf = (c.shelf.store (timestamp now) q.fingerprint p).2 := by
          rw [perform, store, hp]
          rfl
        have hdeposit : Call.deposit? (now, .store q p) = some ⟨timestamp now, q.fingerprint, p⟩ := by
          simp [Call.deposit?, hp]
        rw [hstored] at hnext
        rw [List.filterMap_cons_some hdeposit]
        exact hnext
    | lookup q =>
      rw [show (c.perform now (.lookup q)).shelf = c.shelf from lookup_shelf now q c] at hnext
      exact hnext
    | sweepMemory => cases hfirst
    | sweepShelf => cases hfirst

theorem Call.deposit?_store (now : Nat) (q : Query) (hp : p.isEmpty = false) :
    deposit? (now, store q p) = some ⟨timestamp now, q.fingerprint, p⟩ := by
  simp [deposit?, hp]

theorem Call.exists_of_deposit? {call : Nat × Call} {d : Shelf.Deposit} (h : deposit? call = some d) :
    ∃ time q, call = (time, store q d.playlist) ∧ d.time = timestamp time ∧ d.fingerprint = q.fingerprint ∧
      d.playlist.isEmpty = false := by
  obtain ⟨now, call⟩ := call
  cases call with
  | store q p =>
    rw [deposit?] at h
    split at h
    · cases h
    · next hsome =>
      obtain rfl := Option.some.inj h
      exact ⟨now, q, rfl, rfl, rfl, Bool.eq_false_iff.2 hsome⟩
  | lookup q => cases h
  | sweepMemory => cases h
  | sweepShelf => cases h

theorem isReadable_of_deposit? {call : Nat × Call} {d : Shelf.Deposit} (hcall : Call.IsReadable call)
    (h : Call.deposit? call = some d) : d.IsReadable := by
  obtain ⟨time, q, rfl, htime, -, -⟩ := Call.exists_of_deposit? h
  exact ⟨htime ▸ hcall.1, hcall.2⟩

/-- An age in nanoseconds, by two moments in microseconds. -/
theorem age_le {time : Nat} (h : timestamp now - timestamp time ≤ maxAge) : (now - time) * 1000 ≤ maxAge := by
  have hage : (now : Int) * 1000 - (time : Int) * 1000 ≤ maxAge := h
  omega

/-- What the shelf knows is what it kept last, unless that is too old. -/
theorem lastKept?_of_fetch (hcalls : ∀ call ∈ calls, Call.IsReadable call)
    (h : ((Shelf.bare maxAge).fill (calls.filterMap Call.deposit?)).fetch (timestamp now) fingerprint = .ok (some p)) :
    ∃ time, lastKept? fingerprint calls = some (time, p) ∧ (now - time) * 1000 ≤ maxAge := by
  have hreadable : ∀ d ∈ calls.filterMap Call.deposit?, d.IsReadable := fun d hd => by
    obtain ⟨call, hcall, hdeposit⟩ := List.mem_filterMap.1 hd
    exact isReadable_of_deposit? (hcalls call hcall) hdeposit
  obtain ⟨d, ⟨older, newer, hsplit, -, -, hnewer⟩, rfl, hage, hkept⟩ :=
    (Shelf.fetch_fill_eq_some_iff hreadable).1 h
  obtain ⟨before, rest, rfl, -, hrest⟩ := List.filterMap_eq_append_iff.1 hsplit
  obtain ⟨between, call, behind, rfl, -, hdeposit, hbehind⟩ := List.filterMap_eq_cons_iff.1 hrest
  obtain ⟨time, q, rfl, htime, hfingerprint, hsome⟩ := Call.exists_of_deposit? hdeposit
  have hcall : Call.keptUnder? d.fingerprint (time, .store q d.playlist) = some (time, p) :=
    Call.keptUnder?_eq_some_iff.2 ⟨d.playlist, Call.storedUnder?_eq_some_iff.2 ⟨q, rfl, hfingerprint.symm, hsome⟩,
      hkept⟩
  -- a later playlist of which something is left would be the last one for the file
  have hlater : behind.filterMap (Call.keptUnder? d.fingerprint) = [] := by
    refine List.filterMap_eq_nil_iff.2 fun other hother => ?_
    rw [Option.eq_none_iff_forall_ne_some]
    rintro ⟨t, left⟩ hleft
    obtain ⟨source, hstored, hsource⟩ := Call.keptUnder?_eq_some_iff.1 hleft
    obtain ⟨q', rfl, hq', hsome'⟩ := Call.storedUnder?_eq_some_iff.1 hstored
    have hmem : (⟨timestamp t, q'.fingerprint, source⟩ : Shelf.Deposit) ∈ newer := by
      rw [← hbehind]
      exact List.mem_filterMap.2 ⟨_, hother, Call.deposit?_store t q' hsome'⟩
    exact hnewer _ hmem (Playlist.kept?_eq_some_iff.1 hsource).1 (congrArg Record.front hq')
  refine ⟨time, ?_, ?_⟩
  · rw [lastKept?, List.filterMap_append, List.filterMap_append, List.filterMap_cons_some hcall, hlater,
      ← List.append_assoc, List.getLast?_concat]
  · rw [htime] at hage
    exact age_le hage

theorem fetch?_run (hcalls : ∀ call ∈ calls, Call.IsReadable call)
    (hplain : ∀ call ∈ calls, call.2.isMaintenance = false)
    (h : ((new capacity lifetime maxAge promotes).run calls).fetch? now fingerprint = some p) :
    ∃ time, lastKept? fingerprint calls = some (time, p) ∧ (now - time) * 1000 ≤ maxAge := by
  rw [fetch?_eq_some_iff, shelf_run _ hplain] at h
  exact lastKept?_of_fetch hcalls h

-- ════════════════════════════════════════════════════════════════════════
-- Memory
-- ════════════════════════════════════════════════════════════════════════

theorem run_concat (c : ResultCache) (calls : List (Nat × Call)) (now : Nat) (call : Call) :
    c.run (calls ++ [(now, call)]) = (c.run calls).perform now call := by
  rw [run, List.foldl_append]
  rfl

/-- Calls that store nothing under the fingerprint of an entry explain it as before. -/
theorem Explains.concat {e : Recent.Entry String Playlist} (h : Explains maxAge promotes calls e) {call : Nat × Call}
    (hcall : Call.storedUnder? e.key call = none) : Explains maxAge promotes (calls ++ [call]) e := by
  unfold Explains at h ⊢
  rw [lastStored?, lastKept?, getLast?_filterMap_concat, getLast?_filterMap_concat, hcall, Call.keptUnder?, hcall,
    List.map_append, List.mem_append]
  exact h.imp id fun ⟨hpromotes, htime, hkept⟩ => ⟨hpromotes, .inl htime, hkept⟩

/-- All entries of memory are explained by the calls, and live as long as entries of memory do. -/
structure Accounts (lifetime : Option Nat) (maxAge : Nat) (promotes : Bool) (calls : List (Nat × Call))
    (c : ResultCache) : Prop where
  memory : ∀ e ∈ c.memory.entries, e.lifetime = lifetime ∧ Explains maxAge promotes calls e
  lifetime : c.memory.lifetime = lifetime
  promotes : c.promotes = promotes

namespace Accounts

theorem store (h : Accounts lifetime maxAge promotes calls c) (now : Nat) (q : Query) (p : Playlist) :
    Accounts lifetime maxAge promotes (calls ++ [(now, .store q p)]) (c.store now q p).2 := by
  unfold ResultCache.store
  cases hp : p.isEmpty with
  | true =>
    refine ⟨fun e he => ?_, h.lifetime, h.promotes⟩
    exact ⟨(h.memory e he).1, (h.memory e he).2.concat (by simp [Call.storedUnder?, hp])⟩
  | false =>
    refine ⟨fun e he => ?_, (Recent.perform_lifetime now (.insert q.fingerprint p) c.memory).trans h.lifetime,
      h.promotes⟩
    rcases Recent.mem_entries_insert he with ⟨hold, hkey⟩ | rfl
    · have hother : Call.storedUnder? e.key (now, .store q p) = none := by
        rw [Call.storedUnder?_store now q hp, if_neg fun heq => hkey heq.symm]
      exact ⟨(h.memory e hold).1, (h.memory e hold).2.concat hother⟩
    · refine ⟨h.lifetime, .inl ?_⟩
      rw [lastStored?, getLast?_filterMap_concat, Call.storedUnder?_store now q hp, if_pos rfl]
      rfl

theorem lookup (h : Accounts lifetime maxAge promotes calls c) {now : Nat} {q : Query}
    (hfetch : ∀ p, c.fetch? now q.fingerprint = some p → ∃ time,
      lastKept? q.fingerprint calls = some (time, p) ∧ time ≤ now ∧ (now - time) * 1000 ≤ maxAge) :
    Accounts lifetime maxAge promotes (calls ++ [(now, .lookup q)]) (c.lookup now q).2 := by
  have hget : ∀ e ∈ (c.memory.get now q.fingerprint).2.entries,
      e.lifetime = lifetime ∧ Explains maxAge promotes (calls ++ [(now, .lookup q)]) e := fun e he =>
    ⟨(h.memory e (Recent.mem_entries_get he)).1, (h.memory e (Recent.mem_entries_get he)).2.concat rfl⟩
  have hlifetime : (c.memory.get now q.fingerprint).2.lifetime = lifetime :=
    (Recent.perform_lifetime now (.get q.fingerprint) c.memory).trans h.lifetime
  rcases lookup_cases now q c with ⟨p, -, hc⟩ | ⟨-, -, hc⟩ | ⟨p, -, hknown, hc⟩
  · rw [hc]
    exact ⟨hget, hlifetime, h.promotes⟩
  · rw [hc]
    exact ⟨hget, hlifetime, h.promotes⟩
  · rw [hc, h.promotes]
    cases promotes with
    | false => exact ⟨hget, hlifetime, rfl⟩
    | true =>
      refine ⟨fun e he => ?_, (Recent.perform_lifetime now (.insert q.fingerprint p) _).trans hlifetime, rfl⟩
      rcases Recent.mem_entries_insert he with ⟨hold, -⟩ | rfl
      · exact hget e hold
      · obtain ⟨time, hkept, hle, hage⟩ := hfetch p hknown
        refine ⟨hlifetime, .inr ⟨rfl, by simp, time, ?_, hle, hage⟩⟩
        rw [lastKept?, getLast?_filterMap_concat]
        exact hkept

end Accounts

/-- After any calls without maintenance, all entries of memory are explained by them. -/
theorem explains_run (capacity : Nat) (lifetime : Option Nat) (maxAge : Nat) (promotes : Bool)
    (hplain : ∀ call ∈ calls, call.2.isMaintenance = false) (hclock : (calls.map Prod.fst).Pairwise (· ≤ ·))
    (hcalls : ∀ call ∈ calls, Call.IsReadable call) :
    Accounts lifetime maxAge promotes calls ((new capacity lifetime maxAge promotes).run calls) := by
  induction calls using List.reverseRecOn with
  | nil => exact ⟨fun e he => (nomatch he), rfl, rfl⟩
  | append_singleton calls last ih =>
    obtain ⟨now, call⟩ := last
    obtain ⟨hplain', hlast⟩ := List.forall_mem_append.1 hplain
    have hcalls' := (List.forall_mem_append.1 hcalls).1
    rw [List.map_append, List.pairwise_append] at hclock
    obtain ⟨hclock', -, hnow⟩ := hclock
    have hbefore := ih hplain' hclock' hcalls'
    rw [run_concat]
    cases call with
    | store q p => exact hbefore.store now q p
    | lookup q =>
      refine hbefore.lookup fun p hp => ?_
      obtain ⟨time, hkept, hage⟩ := fetch?_run hcalls' hplain' hp
      obtain ⟨source, q', hmem, -, -⟩ := exists_call_of_lastKept? hkept
      exact ⟨time, hkept, hnow time (List.mem_map_of_mem hmem) now List.mem_cons_self, hage⟩
    | sweepMemory => exact absurd (hlast _ List.mem_cons_self) (by simp [Call.isMaintenance])
    | sweepShelf => exact absurd (hlast _ List.mem_cons_self) (by simp [Call.isMaintenance])

/-- The answer of a look-up after any calls comes from an entry of memory that has not expired and is explained by
the calls, or it is what the shelf kept last and is not too old. -/
theorem lookup_run {q : Query} {tier : Tier} (hclock : (calls.map Prod.fst ++ [now]).Pairwise (· ≤ ·))
    (hcalls : ∀ call ∈ calls, Call.IsReadable call)
    (h : (((new capacity lifetime maxAge promotes).run calls).lookup now q).1 = some (p, tier)) :
    (tier = .memory ∧ ∃ e, e.key = q.fingerprint ∧ e.value = p ∧ e.lifetime = lifetime ∧
      e.isExpired now = false ∧ Explains maxAge promotes calls e) ∨
    (tier = .durable ∧ ∃ time, lastKept? q.fingerprint calls = some (time, p) ∧ (now - time) * 1000 ≤ maxAge) := by
  have hstart : (0 :: (calls.map Prod.fst ++ [now])).Pairwise (· ≤ ·) :=
    List.pairwise_cons.2 ⟨fun _ _ => Nat.zero_le _, hclock⟩
  have hpruned := (isPruned_vacant capacity lifetime (.bare maxAge) promotes 0).run hstart
  have hplain : ∀ call ∈ withoutMaintenance calls, call.2.isMaintenance = false := fun call hcall => by
    simpa using (List.mem_filter.1 hcall).2
  have hsub : (withoutMaintenance calls).Sublist calls := List.filter_sublist
  have hcalls' : ∀ call ∈ withoutMaintenance calls, Call.IsReadable call := fun call hcall =>
    hcalls call (hsub.subset hcall)
  have hclock' := (List.pairwise_append.1 hclock).1.sublist (hsub.map Prod.fst)
  have haccounts := explains_run capacity lifetime maxAge promotes hplain hclock' hcalls'
  have hsame : (((new capacity lifetime maxAge promotes).run calls).lookup now q).1 =
      (((new capacity lifetime maxAge promotes).run (withoutMaintenance calls)).lookup now q).1 :=
    (hpruned.lookup q).1
  rw [hsame] at h
  rcases lookup_cases now q ((new capacity lifetime maxAge promotes).run (withoutMaintenance calls)) with
    ⟨p', hget, hc⟩ | ⟨-, -, hc⟩ | ⟨p', -, hfetch, hc⟩
  · rw [hc] at h
    obtain ⟨rfl, rfl⟩ := Prod.mk.inj (Option.some.inj h)
    obtain ⟨e, he, hkey, hvalue, hexpired⟩ := Recent.exists_entry_of_get hget
    obtain ⟨hlifetime, hexplains⟩ := haccounts.memory e he
    refine .inl ⟨rfl, e, hkey, hvalue, hlifetime, hexpired, ?_⟩
    unfold Explains at hexplains ⊢
    rw [lastStored?_withoutMaintenance, lastKept?_withoutMaintenance] at hexplains
    exact hexplains.imp id fun ⟨hpromotes, htime, hkept⟩ => ⟨hpromotes, (hsub.map Prod.fst).subset htime, hkept⟩
  · rw [hc] at h
    cases h
  · rw [hc] at h
    obtain ⟨rfl, rfl⟩ := Prod.mk.inj (Option.some.inj h)
    obtain ⟨time, hkept, hage⟩ := fetch?_run hcalls' hplain hfetch
    rw [lastKept?_withoutMaintenance] at hkept
    exact .inr ⟨rfl, time, hkept, hage⟩

end ResultCache

end Jukebox
