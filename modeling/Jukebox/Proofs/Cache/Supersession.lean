import Jukebox.Proofs.Cache.Origin
import Jukebox.Proofs.Query

/-!
# When the cache answers with what was replaced

A playlist that is stored replaces what memory holds under its fingerprint, whatever is in it. On the shelf it only
does so if one of its tracks can be written: otherwise the record of an earlier playlist stays, and once the entry of
memory is gone, the cache answers with what was replaced.

## Main definitions

- `ResultCache.IsCurrent` — an answer is what was stored last, or what is left of it on the shelf
- `ResultCache.ServesCurrent` — all answers of a cache are current, whenever only certain playlists are stored
- `ResultCache.overwriting` — the calls after which a cache answers with what was replaced

## Main results

- `ResultCache.isCurrent_iff` — when an answer is current
- `ResultCache.lookup_overwriting` — a cache of any size answers with what was replaced
- `ResultCache.servesCurrent_iff` — a cache never does so exactly if all or none of what is stored can be kept
-/

namespace Jukebox

namespace Recent

variable {κ ν : Type} [DecidableEq κ]

/-- The latest entries are all of other keys, if as many of them were stored since. -/
theorem not_mem_take_latest {others older : List (Entry κ ν)} {n : Nat} (hn : n ≤ (keys others).toFinset.card)
    {e : Entry κ ν} (he : e.key ∉ keys others) : e ∉ (latest (others ++ older)).take n := by
  rw [latest_append, List.take_append_of_le_length (by rwa [length_latest])]
  intro hmem
  exact he (mem_keys_latest.1 (List.mem_map_of_mem (List.mem_of_mem_take hmem)))

end Recent

namespace ResultCache

/-- The answer is the playlist that was stored last under the fingerprint, or what is left of it on the shelf, if the
shelf gives the answer or it may have been promoted. -/
def IsCurrent (promotes : Bool) (calls : List (Nat × Call)) (fingerprint : String) (p : Playlist) (tier : Tier) :
    Prop :=
  ∃ time last, lastStored? fingerprint calls = some (time, last) ∧
    (tier = .memory ∧ p = last ∨ last.kept? = some p ∧ (tier = .durable ∨ promotes = true))

/-- What a call stores is among certain playlists. -/
def Call.StoresAmong (A : Playlist → Prop) : Nat × Call → Prop
  | (_, store _ p) => A p
  | (_, lookup _) | (_, sweepMemory) | (_, sweepShelf) => True

/-- All answers of a cache in which only certain playlists are stored are current. -/
def ServesCurrent (capacity : Nat) (lifetime : Option Nat) (maxAge : Nat) (promotes : Bool) (A : Playlist → Prop) :
    Prop :=
  ∀ calls now q p tier, (calls.map Prod.fst ++ [now]).Pairwise (· ≤ ·) →
    (∀ call ∈ calls, Call.IsReadable call ∧ Call.StoresAmong A call) →
    (((new capacity lifetime maxAge promotes).run calls).lookup now q).1 = some (p, tier) →
    IsCurrent promotes calls q.fingerprint p tier

variable {p₁ p₂ : Playlist} {calls : List (Nat × Call)} {now maxAge capacity : Nat} {lifetime : Option Nat}
  {promotes : Bool} {fingerprint : String} {q : Query} {p last left : Playlist} {tier : Tier}

-- ════════════════════════════════════════════════════════════════════════
-- Answers that are current
-- ════════════════════════════════════════════════════════════════════════

theorem lastKept?_eq (fingerprint : String) (calls : List (Nat × Call)) : lastKept? fingerprint calls =
    ((calls.filterMap (Call.storedUnder? fingerprint)).filterMap fun stored =>
      stored.2.kept?.map (stored.1, ·)).getLast? := by
  rw [lastKept?, List.filterMap_filterMap]
  rfl

/-- If something is left of what was stored last, that is what was kept last. -/
theorem lastKept?_of_lastStored? {time : Nat} (hstored : lastStored? fingerprint calls = some (time, last))
    (hleft : last.kept? = some left) : lastKept? fingerprint calls = some (time, left) := by
  obtain ⟨before, hbefore⟩ := List.getLast?_eq_some_iff.1 hstored
  rw [lastKept?_eq, hbefore, getLast?_filterMap_concat, hleft]
  rfl

/-- Where something was kept, something was stored last. -/
theorem exists_lastStored?_of_lastKept? {kept : Nat × Playlist} (h : lastKept? fingerprint calls = some kept) :
    ∃ time last, lastStored? fingerprint calls = some (time, last) := by
  rw [lastKept?_eq] at h
  obtain ⟨stored, hmem, -⟩ := List.mem_filterMap.1 (List.mem_of_getLast? h)
  cases hlast : lastStored? fingerprint calls with
  | none =>
    rw [lastStored?, List.getLast?_eq_none_iff] at hlast
    rw [hlast] at hmem
    cases hmem
  | some stored => exact ⟨stored.1, stored.2, rfl⟩

/-- An answer is current unless nothing is left of what was stored last under the fingerprint, and the answer is what
is left of an earlier playlist. -/
theorem isCurrent_iff (hclock : (calls.map Prod.fst ++ [now]).Pairwise (· ≤ ·))
    (hcalls : ∀ call ∈ calls, Call.IsReadable call)
    (h : (((new capacity lifetime maxAge promotes).run calls).lookup now q).1 = some (p, tier)) :
    IsCurrent promotes calls q.fingerprint p tier ↔ ¬ ∃ time last, lastStored? q.fingerprint calls = some (time, last) ∧
      last.kept? = none ∧ ∃ earlier, lastKept? q.fingerprint calls = some (earlier, p) := by
  constructor
  · rintro ⟨time, last, hlast, hcurrent⟩ ⟨time', last', hlast', hnone, earlier, hkept⟩
    obtain ⟨-, rfl⟩ := Prod.mk.inj (Option.some.inj (hlast.symm.trans hlast'))
    rcases hcurrent with ⟨-, rfl⟩ | ⟨hleft, -⟩
    · obtain ⟨source, -, -, -, hsource⟩ := exists_call_of_lastKept? hkept
      exact Playlist.kept?_ne_none_of_kept? hsource hnone
    · rw [hnone] at hleft
      cases hleft
  · intro hnot
    -- an answer that was kept is what is left of what was stored last
    have hkeptLast : ∀ {time}, lastKept? q.fingerprint calls = some (time, p) →
        (tier = .durable ∨ promotes = true) → IsCurrent promotes calls q.fingerprint p tier := by
      intro time hkept htier
      obtain ⟨time', last, hlast⟩ := exists_lastStored?_of_lastKept? hkept
      cases hleft : last.kept? with
      | none => exact absurd ⟨time', last, hlast, hleft, time, hkept⟩ hnot
      | some left =>
        obtain ⟨-, rfl⟩ := Prod.mk.inj (Option.some.inj (hkept.symm.trans (lastKept?_of_lastStored? hlast hleft)))
        exact ⟨time', last, hlast, .inr ⟨hleft, htier⟩⟩
    rcases lookup_run hclock hcalls h with
      ⟨htier, e, hkey, rfl, -, -, hstored | ⟨hpromotes, -, time, hkept, -⟩⟩ | ⟨htier, time, hkept, -⟩
    · exact ⟨e.storedAt, e.value, hkey ▸ hstored, .inl ⟨htier, rfl⟩⟩
    · exact hkeptLast (hkey ▸ hkept) (.inr hpromotes)
    · exact hkeptLast hkept (.inl htier)

-- ════════════════════════════════════════════════════════════════════════
-- Answers that were replaced
-- ════════════════════════════════════════════════════════════════════════

/-- Playlists are stored at one moment. -/
def storeAll (stores : List (Query × Playlist)) : List (Nat × Call) :=
  stores.map fun (q, p) => (0, .store q p)

/-- One playlist is stored, replaced by a second one, and then driven out of memory by that second one under other
fingerprints. -/
def overwriting (capacity : Nat) (p₁ p₂ : Playlist) : List (Query × Playlist) :=
  (.ofLength 0, p₁) :: (.ofLength 0, p₂) :: (List.range (max capacity 1)).map fun n => (.ofLength (n + 1), p₂)

variable {stores : List (Query × Playlist)}

theorem forall_mem_storeAll {P : Nat × Call → Prop} :
    (∀ call ∈ storeAll stores, P call) ↔ ∀ stored ∈ stores, P (0, .store stored.1 stored.2) :=
  List.forall_mem_map

theorem pairwise_storeAll (stores : List (Query × Playlist)) :
    ((storeAll stores).map Prod.fst ++ [0]).Pairwise (· ≤ ·) := by
  have hzero : ∀ time ∈ (storeAll stores).map Prod.fst ++ [0], time = 0 := by
    refine List.forall_mem_append.2 ⟨List.forall_mem_map.2 (forall_mem_storeAll.2 fun _ _ => rfl), ?_⟩
    exact fun time htime => List.mem_singleton.1 htime
  refine List.pairwise_of_forall_mem_list fun first hfirst second _ => ?_
  rw [hzero first hfirst]
  exact Nat.zero_le second

/-- Memory after playlists were stored that are not empty. -/
theorem memory_storeAll (capacity : Nat) (lifetime : Option Nat) (maxAge : Nat) (promotes : Bool)
    (h : ∀ stored ∈ stores, stored.2.isEmpty = false) :
    let memory := ((new capacity lifetime maxAge promotes).run (storeAll stores)).memory
    memory.capacity = max capacity 1 ∧ memory.lifetime = lifetime ∧
      memory.Reflects 0 (stores.map fun (q, p) => ⟨q.fingerprint, p, 0, lifetime⟩).reverse := by
  induction stores using List.reverseRecOn with
  | nil => exact ⟨rfl, rfl, .empty capacity lifetime 0⟩
  | append_singleton stores last ih =>
    obtain ⟨q, p⟩ := last
    obtain ⟨hstores, hlast⟩ := List.forall_mem_append.1 h
    obtain ⟨hcapacity, hlifetime, hreflects⟩ := ih hstores
    have hrun : ((new capacity lifetime maxAge promotes).run (storeAll (stores ++ [(q, p)]))).memory =
        (((new capacity lifetime maxAge promotes).run (storeAll stores)).memory.insert 0 q.fingerprint p).2 := by
      rw [storeAll, List.map_append]
      change (run _ (storeAll stores ++ [(0, .store q p)])).memory = _
      rw [run_concat, perform, store, hlast _ List.mem_cons_self]
      rfl
    have hinsert := hreflects.insert q.fingerprint p
    rw [hlifetime] at hinsert
    rw [hrun, List.map_append, List.reverse_append]
    exact ⟨(Recent.perform_capacity 0 (.insert q.fingerprint p) _).trans hcapacity,
      (Recent.perform_lifetime 0 (.insert q.fingerprint p) _).trans hlifetime, hinsert⟩

theorem filterMap_deposit?_storeAll (h : ∀ stored ∈ stores, stored.2.isEmpty = false) :
    (storeAll stores).filterMap Call.deposit? =
      stores.map fun (q, p) => ⟨timestamp 0, q.fingerprint, p⟩ := by
  rw [storeAll, List.filterMap_map, ← List.filterMap_eq_map]
  exact List.filterMap_congr fun stored hstored => Call.deposit?_store 0 stored.1 (h stored hstored)

theorem forall_mem_overwriting {P : Playlist → Prop} (h₁ : P p₁) (h₂ : P p₂) :
    ∀ stored ∈ overwriting capacity p₁ p₂, P stored.2 := by
  refine List.forall_mem_cons.2 ⟨h₁, List.forall_mem_cons.2 ⟨h₂, fun stored hstored => ?_⟩⟩
  obtain ⟨n, -, rfl⟩ := List.mem_map.1 hstored
  exact h₂

/-- The first fingerprint has been driven out of memory. -/
theorem get_overwriting (h₁ : p₁.isEmpty = false) (h₂ : p₂.isEmpty = false) :
    (((new capacity lifetime maxAge promotes).run (storeAll (overwriting capacity p₁ p₂))).memory.get 0
      (Query.ofLength 0).fingerprint).1 = none := by
  let others : List (Recent.Entry String Playlist) :=
    ((List.range (max capacity 1)).map fun n => ⟨(Query.ofLength (n + 1)).fingerprint, p₂, 0, lifetime⟩).reverse
  have hkeys : Recent.keys others =
      ((List.range (max capacity 1)).map fun n => (Query.ofLength (n + 1)).fingerprint).reverse := by
    simp only [others, Recent.keys, List.map_reverse, List.map_map]
    rfl
  have hnodup : (Recent.keys others).Nodup := by
    rw [hkeys, List.nodup_reverse]
    refine List.Nodup.map (fun m n hmn => ?_) List.nodup_range
    exact Nat.succ.inj (Query.fingerprint_ofLength_injective hmn)
  have hcard : max capacity 1 ≤ (Recent.keys others).toFinset.card := by
    rw [List.toFinset_card_of_nodup hnodup, hkeys, List.length_reverse, List.length_map, List.length_range]
  have hfirst : (Query.ofLength 0).fingerprint ∉ Recent.keys others := by
    rw [hkeys, List.mem_reverse, List.mem_map]
    rintro ⟨n, -, heq⟩
    exact Nat.succ_ne_zero n (Query.fingerprint_ofLength_injective heq)
  have hsome : ∀ stored ∈ overwriting capacity p₁ p₂, stored.2.isEmpty = false :=
    forall_mem_overwriting (P := fun p => p.isEmpty = false) h₁ h₂
  obtain ⟨hcapacity, -, hreflects⟩ := memory_storeAll capacity lifetime maxAge promotes hsome
  rw [Option.eq_none_iff_forall_ne_some]
  intro value hfound
  obtain ⟨e, he, hkey, -, -⟩ := hreflects.get_eq_some_iff.1 hfound
  have hhistory : ((overwriting capacity p₁ p₂).map fun (q, p) => (⟨q.fingerprint, p, 0, lifetime⟩ :
      Recent.Entry String Playlist)).reverse = others ++ [⟨(Query.ofLength 0).fingerprint, p₂, 0, lifetime⟩,
        ⟨(Query.ofLength 0).fingerprint, p₁, 0, lifetime⟩] := by
    rw [overwriting, List.map_cons, List.map_cons, List.map_map, List.reverse_cons, List.reverse_cons,
      List.append_assoc]
    rfl
  rw [hhistory, hcapacity] at he
  exact Recent.not_mem_take_latest hcard (hkey ▸ hfirst) he

/-- A cache of any size answers with what was replaced: the shelf still knows what is left of the first playlist,
since nothing of the second one can be kept. -/
theorem lookup_overwriting (capacity : Nat) (lifetime : Option Nat) (maxAge : Nat) (promotes : Bool)
    (hleft : p₁.kept? = some left) (hp₁ : p₁.IsIndexed) (hnone : p₂.kept? = none) (h₂ : p₂.isEmpty = false)
    (hp₂ : p₂.IsIndexed) :
    (((new capacity lifetime maxAge promotes).run (storeAll (overwriting capacity p₁ p₂))).lookup 0 (.ofLength 0)).1 =
      some (left, .durable) := by
  have h₁ := Playlist.isEmpty_of_kept? hleft
  have hsome : ∀ stored ∈ overwriting capacity p₁ p₂, stored.2.isEmpty = false :=
    forall_mem_overwriting (P := fun p => p.isEmpty = false) h₁ h₂
  have hindexed : ∀ stored ∈ overwriting capacity p₁ p₂, stored.2.IsIndexed := forall_mem_overwriting hp₁ hp₂
  have hempty := Playlist.kept?_eq_none_iff.1 hnone
  have hlater : ∀ stored ∈ (overwriting capacity p₁ p₂).tail, stored.2.representable = [] := by
    refine List.forall_mem_cons.2 ⟨hempty, fun stored hstored => ?_⟩
    obtain ⟨n, -, rfl⟩ := List.mem_map.1 hstored
    exact hempty
  have hfetch : ((new capacity lifetime maxAge promotes).run (storeAll (overwriting capacity p₁ p₂))).fetch? 0
      (Query.ofLength 0).fingerprint = some left := by
    have hreadable : ∀ d ∈ (overwriting capacity p₁ p₂).map fun (q, p) =>
        (⟨timestamp 0, q.fingerprint, p⟩ : Shelf.Deposit), d.IsReadable :=
      List.forall_mem_map.2 fun stored hstored => ⟨isReadable_zero, hindexed stored hstored⟩
    rw [fetch?_eq_some_iff, shelf_run _ (forall_mem_storeAll.2 fun _ _ => rfl), filterMap_deposit?_storeAll hsome]
    refine (Shelf.fetch_fill_eq_some_iff hreadable).2 ⟨⟨timestamp 0, (Query.ofLength 0).fingerprint, p₁⟩,
      ⟨[], _, rfl, (Playlist.kept?_eq_some_iff.1 hleft).1, rfl, ?_⟩, rfl, ?_, hleft⟩
    · intro e he heffective
      obtain ⟨stored, hstored, rfl⟩ := List.mem_map.1 he
      exact absurd (hlater stored hstored) heffective
    · change (0 : Int) * 1000 - 0 * 1000 ≤ (maxAge : Int)
      omega
  rw [lookup_eq, get_overwriting h₁ h₂, hfetch]

theorem lastStored?_overwriting (h₁ : p₁.isEmpty = false) (h₂ : p₂.isEmpty = false) :
    lastStored? (Query.ofLength 0).fingerprint (storeAll (overwriting capacity p₁ p₂)) = some (0, p₂) := by
  have hothers : (storeAll ((List.range (max capacity 1)).map fun n => (Query.ofLength (n + 1), p₂))).filterMap
      (Call.storedUnder? (Query.ofLength 0).fingerprint) = [] := by
    refine List.filterMap_eq_nil_iff.2 (forall_mem_storeAll.2 (List.forall_mem_map.2 fun n _ => ?_))
    rw [Call.storedUnder?_store 0 _ h₂, if_neg fun heq => Nat.succ_ne_zero n (Query.fingerprint_ofLength_injective heq)]
  rw [overwriting, storeAll, List.map_cons, List.map_cons, lastStored?,
    List.filterMap_cons_some (by rw [Call.storedUnder?_store 0 _ h₁, if_pos rfl]),
    List.filterMap_cons_some (by rw [Call.storedUnder?_store 0 _ h₂, if_pos rfl])]
  exact congrArg (fun rest => List.getLast? ((0, p₁) :: (0, p₂) :: rest)) hothers

/-- If each playlist that is stored and not empty has a track that can be written, or none of them has, all answers
are current. -/
theorem servesCurrent_of_alike {A : Playlist → Prop}
    (h : (∀ p, A p → p.IsIndexed → p.isEmpty = false → p.representable ≠ []) ∨
      ∀ p, A p → p.IsIndexed → p.representable = []) : ServesCurrent capacity lifetime maxAge promotes A := by
  intro calls now q p tier hclock hcalls hanswer
  rw [isCurrent_iff hclock (fun call hcall => (hcalls call hcall).1) hanswer]
  rintro ⟨time, last, hlast, hnone, earlier, hkept⟩
  rcases h with hall | hall
  · obtain ⟨q', hmem, -, hsome⟩ := exists_call_of_lastStored? hlast
    obtain ⟨hreadable, hamong⟩ := hcalls _ hmem
    exact hall last hamong hreadable.2 hsome (Playlist.kept?_eq_none_iff.1 hnone)
  · obtain ⟨source, q', hmem, -, hleft⟩ := exists_call_of_lastKept? hkept
    obtain ⟨hreadable, hamong⟩ := hcalls _ hmem
    exact (Playlist.kept?_eq_some_iff.1 hleft).1 (hall source hamong hreadable.2)

/-- The answer after one playlist was overwritten by another one of which nothing can be kept is not current. -/
theorem not_isCurrent_overwriting (h₁ : p₁.isEmpty = false) (hnone : p₂.kept? = none) (h₂ : p₂.isEmpty = false) :
    ¬ IsCurrent promotes (storeAll (overwriting capacity p₁ p₂)) (Query.ofLength 0).fingerprint left .durable := by
  rintro ⟨time, last, hlast, ⟨htier, -⟩ | ⟨hleft, -⟩⟩
  · cases htier
  · rw [lastStored?_overwriting h₁ h₂] at hlast
    obtain ⟨-, rfl⟩ := Prod.mk.inj (Option.some.inj hlast)
    rw [hnone] at hleft
    cases hleft

/-- An answer is current unless nothing is left of what was stored last under the fingerprint, and the answer is what
is left of an earlier playlist. So the answers of a cache are all current, whenever only certain playlists are stored,
exactly if each of these that is not empty has a track that can be written, or none of them has. -/
theorem servesCurrent_iff (capacity : Nat) (lifetime : Option Nat) (maxAge : Nat) (promotes : Bool) :
    (∀ calls now q p tier, (calls.map Prod.fst ++ [now]).Pairwise (· ≤ ·) →
      (∀ call ∈ calls, Call.IsReadable call) →
      (((new capacity lifetime maxAge promotes).run calls).lookup now q).1 = some (p, tier) →
      (IsCurrent promotes calls q.fingerprint p tier ↔
        ¬ ∃ time last, lastStored? q.fingerprint calls = some (time, last) ∧ last.representable = [] ∧
          ∃ earlier, lastKept? q.fingerprint calls = some (earlier, p))) ∧
    ∀ A : Playlist → Prop, ServesCurrent capacity lifetime maxAge promotes A ↔
      (∀ p, A p → p.IsIndexed → p.isEmpty = false → p.representable ≠ []) ∨
        ∀ p, A p → p.IsIndexed → p.representable = [] := by
  refine ⟨fun calls now q p tier hclock hcalls h => ?_, fun A => ⟨fun h => ?_, servesCurrent_of_alike⟩⟩
  · rw [isCurrent_iff hclock hcalls h]
    simp only [Playlist.kept?_eq_none_iff]
  · by_contra hmixed
    rw [not_or] at hmixed
    obtain ⟨hsome, hnone⟩ := hmixed
    push Not at hsome hnone
    obtain ⟨p₂, hA₂, hp₂, h₂, hempty⟩ := hsome
    obtain ⟨p₁, hA₁, hp₁, hwritten⟩ := hnone
    obtain ⟨left, hleft⟩ := Option.isSome_iff_exists.1 (Playlist.isSome_kept?_iff.2 hwritten)
    have hnone := Playlist.kept?_eq_none_iff.2 hempty
    have hindexed : ∀ stored ∈ overwriting capacity p₁ p₂, stored.2.IsIndexed := forall_mem_overwriting hp₁ hp₂
    have hamong : ∀ stored ∈ overwriting capacity p₁ p₂, A stored.2 := forall_mem_overwriting hA₁ hA₂
    refine not_isCurrent_overwriting (Playlist.isEmpty_of_kept? hleft) hnone h₂ (h _ 0 (.ofLength 0) left .durable
      (pairwise_storeAll _) (forall_mem_storeAll.2 fun stored hstored => ⟨⟨isReadable_zero, hindexed _ hstored⟩,
        hamong _ hstored⟩) (lookup_overwriting capacity lifetime maxAge promotes hleft hp₁ hnone h₂ hp₂))

/-- A playlist from a source that can be written is found again, after it was replaced by one from a source that
cannot. -/
theorem replaced_playlist_is_found :
    let p₁ : Playlist := ⟨"old", [⟨"title", "author", 1000, "id", false, none, "youtube"⟩], none⟩
    let p₂ : Playlist := ⟨"new", [⟨"title", "author", 1000, "id", false, none, "local"⟩], none⟩
    let calls := storeAll (overwriting 1 p₁ p₂)
    (((new 1 (some 4) 6000 true).run calls).lookup 0 (.ofLength 0)).1 = some (p₁, .durable) ∧
      ¬ IsCurrent true calls (Query.ofLength 0).fingerprint p₁ .durable ∧
      ¬ ServesCurrent 1 (some 4) 6000 true fun p => p = p₁ ∨ p = p₂ := by
  intro p₁ p₂ calls
  have hleft : p₁.kept? = some p₁ := by
    unfold p₁
    decide
  have hnone : p₂.representable = [] := by
    unfold p₂
    decide
  have hp₁ : p₁.IsIndexed := fun i hi => nomatch hi
  have hp₂ : p₂.IsIndexed := fun i hi => nomatch hi
  have hcalls : ∀ call ∈ calls, Call.IsReadable call :=
    forall_mem_storeAll.2 fun stored hstored => ⟨isReadable_zero, forall_mem_overwriting hp₁ hp₂ stored hstored⟩
  have hfound : (((new 1 (some 4) 6000 true).run calls).lookup 0 (.ofLength 0)).1 = some (p₁, .durable) :=
    lookup_overwriting 1 (some 4) 6000 true hleft hp₁ (Playlist.kept?_eq_none_iff.2 hnone) rfl hp₂
  have hstored : lastStored? (Query.ofLength 0).fingerprint calls = some (0, p₂) := lastStored?_overwriting rfl rfl
  have hkept : ∃ earlier, lastKept? (Query.ofLength 0).fingerprint calls = some (earlier, p₁) := by
    rcases lookup_run (pairwise_storeAll _) hcalls hfound with ⟨htier, -⟩ | ⟨-, earlier, hkept, -⟩
    · cases htier
    · exact ⟨earlier, hkept⟩
  obtain ⟨hcurrent, hserves⟩ := servesCurrent_iff 1 (some 4) 6000 true
  refine ⟨hfound, fun h => ?_, fun h => ?_⟩
  · exact (hcurrent calls 0 (.ofLength 0) p₁ .durable (pairwise_storeAll _) hcalls hfound).1 h
      ⟨0, p₂, hstored, hnone, hkept⟩
  · rcases (hserves _).1 h with hall | hall
    · exact hall p₂ (.inr rfl) hp₂ rfl hnone
    · exact absurd (hall p₁ (.inl rfl) hp₁) (Playlist.kept?_eq_some_iff.1 hleft).1

end ResultCache

end Jukebox
