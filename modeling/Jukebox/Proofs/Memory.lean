import Jukebox.Proofs.Cache.Hits
import Jukebox.Proofs.Cache.Tiers
import Jukebox.Proofs.LateLoad

/-!
# What the cache remembers of a run

Playlists come into the memory of the cache in three ways: a request keeps its answer, a late load arrives,
and the shelf knows what memory does not. They replace each other in the order in which they come. When the
loads were sent that brought them makes no difference, so that a load may overtake another one of the same
query and be replaced by its older result.

## Main definitions

- `Event.stored?` — what an event puts into memory
- `ResultCache.Remembers` — the memory of a cache holds what a history leaves
- `Service.stored` — the history of memory in some events

## Main results

- `Service.Passes.remembers` — after some events the memory holds what their history leaves
- `Service.Passes.lookup_eq_some_iff` — what memory knows, by the events that have happened
- `Service.last_stored_is_found` — the playlist that came last is found, and so a late load replaces what
  came before it

## Design notes

The age of a playlist counts from the beginning of the request that keeps it, or from the step in which its late
load ends, by the wall clock, which stands still during a step.
-/

namespace Jukebox

open Recent (Entry)

namespace Event

/-- What the event puts into the memory of the cache, with its fingerprint, if it does. A cache that
promotes puts there what the shelf knew. -/
def stored? (promotes : Bool) : Event → Option (String × Playlist)
  | asked q (some (p, .durable)) => if promotes then some (q.fingerprint, p) else none
  | ended l => if l.arrives then l.playlist?.map fun p => (l.query.fingerprint, p) else none
  | kept q p => if p.isEmpty then none else some (q.fingerprint, p)
  | asked _ _ | counted _ | reached _ | missed _ | failed _ _ | offered _ | slept _ => none

/-- The fingerprints under which events put something into memory. -/
def storedKeys (promotes : Bool) (log : List Event) : List String :=
  log.filterMap fun event => (event.stored? promotes).map Prod.fst

/-- What the event puts into memory, as an entry. -/
def inserted? (start : ResultCache) (now : Nat) (event : Event) : Option (Entry String Playlist) :=
  (event.stored? start.promotes).map fun (fingerprint, p) => ⟨fingerprint, p, now, start.memory.lifetime⟩

theorem stored?_ended (promotes : Bool) (l : LateLoad) :
    (ended l).stored? promotes =
      (if l.arrives then l.playlist? else none).map fun p => (l.query.fingerprint, p) := by
  rw [stored?]
  split <;> rfl

theorem storedKeys_cons (promotes : Bool) (event : Event) (log : List Event) :
    storedKeys promotes (event :: log) =
      ((event.stored? promotes).map Prod.fst).toList ++ storedKeys promotes log := by
  rw [storedKeys, storedKeys, List.filterMap_eq_flatMap_toList, List.filterMap_eq_flatMap_toList,
    List.flatMap_cons]

theorem storedKeys_append (promotes : Bool) (log log' : List Event) :
    storedKeys promotes (log ++ log') = storedKeys promotes log ++ storedKeys promotes log' :=
  List.filterMap_append

theorem inserted?_eq_some_iff {start : ResultCache} {now : Nat} {event : Event} {e : Entry String Playlist} :
    event.inserted? start now = some e ↔ event.stored? start.promotes = some (e.key, e.value) ∧
      e.storedAt = now ∧ e.lifetime = start.memory.lifetime := by
  unfold inserted?
  rw [Option.map_eq_some_iff]
  constructor
  · rintro ⟨⟨fingerprint, p⟩, hstored, rfl⟩
    exact ⟨hstored, rfl, rfl⟩
  · rintro ⟨hstored, rfl, hlifetime⟩
    exact ⟨_, hstored, by rw [← hlifetime]⟩

end Event

-- ════════════════════════════════════════════════════════════════════════
-- The memory of a cache
-- ════════════════════════════════════════════════════════════════════════

namespace ResultCache

variable {start c : ResultCache} {now : Nat} {history : List (Entry String Playlist)}

/-- The cache is set up as it was at the start, and its memory holds what a history leaves. -/
structure Remembers (c start : ResultCache) (now : Nat) (history : List (Entry String Playlist)) :
    Prop where
  capacity : c.memory.capacity = start.memory.capacity
  lifetime : c.memory.lifetime = start.memory.lifetime
  promotes : c.promotes = start.promotes
  reflects : c.memory.Reflects now history

namespace Remembers

theorem later {now' : Nat} (h : c.Remembers start now history) (hle : now ≤ now') :
    c.Remembers start now' history :=
  ⟨h.capacity, h.lifetime, h.promotes, h.reflects.later hle⟩

theorem insert (h : c.Remembers start now history) (fingerprint : String) (p : Playlist) (shelf : Shelf) :
    Remembers { c with memory := (c.memory.insert now fingerprint p).2, shelf } start now
      (⟨fingerprint, p, now, start.memory.lifetime⟩ :: history) := by
  refine ⟨h.capacity, h.lifetime, h.promotes, ?_⟩
  rw [← h.lifetime]
  exact h.reflects.insert fingerprint p

theorem get (h : c.Remembers start now history) (fingerprint : String) :
    Remembers { c with memory := (c.memory.get now fingerprint).2 } start now history where
  capacity := (Recent.perform_capacity now (.get fingerprint) c.memory).trans h.capacity
  lifetime := (Recent.perform_lifetime now (.get fingerprint) c.memory).trans h.lifetime
  promotes := h.promotes
  reflects := h.reflects.get fingerprint

theorem store (h : c.Remembers start now history) (q : Query) {p : Playlist} (hp : p.isEmpty = false) :
    (c.store now q p).2.Remembers start now
      (⟨q.fingerprint, p, now, start.memory.lifetime⟩ :: history) := by
  unfold ResultCache.store
  rw [hp]
  exact h.insert q.fingerprint p _

/-- Of what is looked up, only what the shelf knew comes into memory, if the cache promotes it. -/
theorem lookup (h : c.Remembers start now history) (q : Query) :
    (c.lookup now q).2.Remembers start now
      (((Event.asked q (c.lookup now q).1).inserted? start now).toList ++ history) := by
  have hget := h.get q.fingerprint
  rcases lookup_cases now q c with ⟨p, -, hr⟩ | ⟨-, -, hr⟩ | ⟨p, -, -, hr⟩
  · rw [hr]
    exact hget
  · rw [hr]
    exact hget
  · rw [hr]
    simp only [Event.inserted?, Event.stored?, ← h.promotes]
    by_cases hpromotes : c.promotes = true
    · rw [if_pos hpromotes, if_pos hpromotes]
      exact hget.insert q.fingerprint p _
    · rw [if_neg hpromotes, if_neg hpromotes]
      exact hget

end Remembers

end ResultCache

-- ════════════════════════════════════════════════════════════════════════
-- The memory of a service
-- ════════════════════════════════════════════════════════════════════════

namespace LateLoad

theorem not_isEmpty_of_playlist? {l : LateLoad} {p : Playlist} (h : l.playlist? = some p) :
    p.isEmpty = false := by
  unfold playlist? at h
  split at h
  · cases h
  · split at h
    · split at h
      · cases h
      · next hempty =>
        obtain rfl := Option.some.inj h
        exact Bool.eq_false_iff.2 hempty
    · cases h

end LateLoad

namespace Service

variable {start : ResultCache} {s s' : Service} {event : Event} {log : List Event}
  {history : List (Entry String Playlist)}

/-- What events put into memory, the newest entry first. -/
def stored (start : ResultCache) (s : Service) : List Event → List (Entry String Playlist)
  | [] => []
  | event :: log =>
    (s.perform event).stored start log ++ (event.inserted? start s.engine.wall).toList

theorem remembers_perform (hfits : event.Fits s)
    (h : s.engine.cache.Remembers start s.engine.wall history) :
    (s.perform event).engine.cache.Remembers start (s.perform event).engine.wall
      ((event.inserted? start s.engine.wall).toList ++ history) := by
  cases event with
  | counted | reached | missed | failed | offered => exact h
  | slept micros => exact h.later (Nat.le_add_right _ micros)
  | kept q p =>
    change (s.engine.cache.store s.engine.wall q p).2.Remembers start s.engine.wall _
    simp only [Event.inserted?, Event.stored?]
    by_cases hp : p.isEmpty = true
    · rw [if_pos hp, ResultCache.store, if_pos hp]
      exact h
    · rw [if_neg hp]
      exact h.store q (Bool.eq_false_iff.2 hp)
  | ended l =>
    change (s.engine.finish l).cache.Remembers start (s.engine.finish l).wall _
    simp only [Event.inserted?, Event.stored?]
    cases harrives : l.arrives with
    | false =>
      rw [Engine.finish_of_not_arrives _ harrives]
      exact h
    | true =>
      rw [Engine.finish_of_arrives _ harrives]
      cases hp : l.playlist? with
      | none => exact h
      | some p => exact h.store l.query (LateLoad.not_isEmpty_of_playlist? hp)
  | asked q found =>
    obtain rfl : (s.engine.cache.lookup s.engine.wall q).1 = found := hfits
    exact h.lookup q

theorem Passes.wall_le (h : s.Passes log s') : s.engine.wall ≤ s'.engine.wall := by
  have hperform : ∀ (s : Service) (event : Event), s.engine.wall ≤ (s.perform event).engine.wall := by
    intro s event
    cases event with
    | slept micros => exact Nat.le_add_right _ micros
    | ended l => exact (s.engine.finish_wall l).ge
    | counted | asked | reached | missed | failed | kept | offered => exact Nat.le_refl _
  induction h with
  | nil s => exact Nat.le_refl _
  | cons _ _ ih => exact Nat.le_trans (hperform _ _) ih

/-- After some events the memory holds what a history leaves that goes on with what they put there. -/
theorem Passes.remembers (h : s.Passes log s')
    (hstart : s.engine.cache.Remembers start s.engine.wall history) :
    s'.engine.cache.Remembers start s'.engine.wall (s.stored start log ++ history) := by
  induction h generalizing history with
  | nil s => exact hstart
  | cons hfits _ ih =>
    rw [stored, List.append_assoc]
    exact ih (remembers_perform hfits hstart)

theorem keys_stored (start : ResultCache) (s : Service) (log : List Event) :
    Recent.keys (s.stored start log) = (Event.storedKeys start.promotes log).reverse := by
  induction log generalizing s with
  | nil => rfl
  | cons event log ih =>
    have hevent : Recent.keys (event.inserted? start s.engine.wall).toList =
        ((event.stored? start.promotes).map Prod.fst).toList := by
      unfold Event.inserted?
      cases event.stored? start.promotes <;> rfl
    unfold Recent.keys at ih hevent ⊢
    rw [stored, List.map_append, ih, hevent, Event.storedKeys_cons, List.reverse_append]
    cases event.stored? start.promotes <;> rfl

theorem stored_append (start : ResultCache) (s : Service) (log log' : List Event) :
    s.stored start (log ++ log') = (log.foldl perform s).stored start log' ++ s.stored start log := by
  induction log generalizing s with
  | nil => exact (List.append_nil _).symm
  | cons event log ih => rw [List.cons_append, stored, ih, List.foldl_cons, stored, List.append_assoc]

/-- Where an entry stands in the history of some events. -/
theorem exists_stored_eq_iff {e : Entry String Playlist} {keys : List String} :
    (∃ newer older, s.stored start log = newer ++ e :: older ∧ (Recent.keys newer).reverse = keys) ↔
      ∃ before event after, log = before ++ event :: after ∧
        event.inserted? start (before.foldl perform s).engine.wall = some e ∧
          Event.storedKeys start.promotes after = keys := by
  constructor
  · rintro ⟨newer, older, hstored, hkeys⟩
    induction log generalizing s older with
    | nil => simp [stored] at hstored
    | cons event log ih =>
      rw [stored] at hstored
      cases hentry : event.inserted? start s.engine.wall with
      | none =>
        rw [hentry, Option.toList_none, List.append_nil] at hstored
        obtain ⟨before, event', after, rfl, hevent, hafter⟩ := ih older hstored
        exact ⟨event :: before, event', after, rfl, hevent, hafter⟩
      | some x =>
        rw [hentry, Option.toList_some] at hstored
        -- the entry is that of the first event, or stands in the history of the others
        rcases List.eq_nil_or_concat older with rfl | ⟨older, y, rfl⟩
        · obtain ⟨hnewer, hx⟩ := List.append_inj' hstored rfl
          obtain rfl := List.singleton_inj.1 hx
          refine ⟨[], event, log, rfl, hentry, ?_⟩
          rw [← hkeys, ← hnewer, keys_stored, List.reverse_reverse]
        · rw [List.concat_eq_append, ← List.cons_append, ← List.append_assoc] at hstored
          obtain ⟨hrest, -⟩ := List.append_inj' hstored rfl
          obtain ⟨before, event', after, rfl, hevent, hafter⟩ := ih older hrest
          exact ⟨event :: before, event', after, rfl, hevent, hafter⟩
  · rintro ⟨before, event, after, rfl, hentry, rfl⟩
    let s₁ := before.foldl perform s
    refine ⟨(s₁.perform event).stored start after, s.stored start before, ?_, ?_⟩
    · rw [stored_append, stored, hentry, Option.toList_some, List.append_assoc]
      rfl
    · rw [keys_stored, List.reverse_reverse]

/-- Memory knows the playlist that came last for a query, unless it has outlived the lifetime or as many
others have come since as there is room for. -/
theorem Passes.lookup_eq_some_iff {capacity : Nat} {lifetime : Option Nat} (h : s.Passes log s')
    (hstart : s.engine.cache.memory = .empty capacity lifetime) {q : Query} {p : Playlist} :
    s'.known? q = some (p, .memory) ↔
      ∃ before event after s₁, log = before ++ event :: after ∧ s.Passes before s₁ ∧
        event.stored? s.engine.cache.promotes = some (q.fingerprint, p) ∧
        q.fingerprint ∉ Event.storedKeys s.engine.cache.promotes after ∧
        (Event.storedKeys s.engine.cache.promotes after).toFinset.card < max 1 capacity ∧
        ∀ d, lifetime = some d → s'.engine.wall - s₁.engine.wall ≤ d := by
  have hempty : s.engine.cache.Remembers s.engine.cache s.engine.wall [] := by
    refine ⟨rfl, rfl, rfl, ?_⟩
    rw [hstart]
    exact .empty capacity lifetime s.engine.wall
  have hremembers := h.remembers hempty
  rw [List.append_nil] at hremembers
  have hcapacity : s'.engine.cache.memory.capacity = max 1 capacity := by
    rw [hremembers.capacity, hstart]
    exact Nat.max_comm capacity 1
  have hlifetime : s.engine.cache.memory.lifetime = lifetime := by
    rw [hstart]
    rfl
  rw [known?, ResultCache.lookup_eq_memory_iff, hremembers.reflects.get_eq_some_iff, hcapacity]
  constructor
  · rintro ⟨e, he, hkey, rfl, halive⟩
    obtain ⟨newer, older, hsplit, hnewest, hroom⟩ := Recent.mem_take_latest_iff.1 he
    obtain ⟨before, event, after, hlog, hentry, hafter⟩ := exists_stored_eq_iff.1 ⟨newer, older, hsplit, rfl⟩
    obtain ⟨hstored, hstoredAt, hlifetime'⟩ := Event.inserted?_eq_some_iff.1 hentry
    rw [hlog] at h
    obtain ⟨s₁, hbefore, -⟩ := h.of_append
    rw [hkey] at hstored hnewest
    refine ⟨before, event, after, s₁, hlog, hbefore, hstored, ?_, ?_, fun d hd => ?_⟩
    · rwa [hafter, List.mem_reverse]
    · rwa [hafter, List.toFinset_reverse]
    · rw [hbefore.eq_foldl, ← hstoredAt]
      exact Recent.Entry.isAlive_iff.1 halive d (by rw [hlifetime', hlifetime, hd])
  · rintro ⟨before, event, after, s₁, hlog, hbefore, hstored, hnewest, hroom, hage⟩
    let e : Entry String Playlist := ⟨q.fingerprint, p, s₁.engine.wall, lifetime⟩
    have hentry : event.inserted? s.engine.cache (before.foldl perform s).engine.wall = some e := by
      rw [← hbefore.eq_foldl]
      exact Event.inserted?_eq_some_iff.2 ⟨hstored, rfl, hlifetime.symm⟩
    obtain ⟨newer, older, hsplit, hafter⟩ := exists_stored_eq_iff.2 ⟨before, event, after, hlog, hentry, rfl⟩
    rw [← hafter, List.mem_reverse] at hnewest
    rw [← hafter, List.toFinset_reverse] at hroom
    refine ⟨e, Recent.mem_take_latest_iff.2 ⟨newer, older, hsplit, hnewest, hroom⟩, rfl, rfl, ?_⟩
    exact Recent.Entry.isAlive_iff.2 hage

/-- Memory answers with the playlist that came last, in whatever order the loads were sent. A playlist that
has come is found as long as it is alive and fits, and until another one comes for the same fingerprint. A
late load that arrives after it replaces it, if it brings a playlist that is not empty, and otherwise leaves
it as it is. Ages count from the beginning of the step in which a playlist has come. -/
theorem last_stored_is_found {capacity : Nat} {lifetime : Option Nat}
    (hstart : s.engine.cache.memory = .empty capacity lifetime) (steps : List Step) (q : Query) :
    let promotes := s.engine.cache.promotes
    let log := s.chronicle steps
    let s' := s.run steps
    s.Passes log s' ∧
      (∀ p, s'.known? q = some (p, .memory) ↔
        ∃ before event after s₁, log = before ++ event :: after ∧ s.Passes before s₁ ∧
          event.stored? promotes = some (q.fingerprint, p) ∧
          q.fingerprint ∉ Event.storedKeys promotes after ∧
          (Event.storedKeys promotes after).toFinset.card < max 1 capacity ∧
          ∀ d, lifetime = some d → s'.engine.wall - s₁.engine.wall ≤ d) ∧
      ∀ before event between l after p s₁, log = before ++ event :: (between ++ .ended l :: after) →
        s.Passes before s₁ → event.stored? promotes = some (q.fingerprint, p) →
        l.query.fingerprint = q.fingerprint →
        q.fingerprint ∉ Event.storedKeys promotes (between ++ after) →
        (Event.storedKeys promotes (between ++ after)).toFinset.card < max 1 capacity →
        (∀ d, lifetime = some d → s'.engine.wall - s₁.engine.wall ≤ d) →
        s'.known? q =
          some ((if l.arrives then l.playlist? else none).getD p, .memory) := by
  intro promotes log s'
  have hpasses : s.Passes log s' := s.passes_run steps
  have hlookup : ∀ {p}, s'.known? q = some (p, .memory) ↔ _ :=
    hpasses.lookup_eq_some_iff hstart
  refine ⟨hpasses, fun p => hlookup, ?_⟩
  intro before event between l after p s₁ hlog hbefore hevent hl hother hroom hage
  have hended := Event.stored?_ended promotes l
  cases harrival : (if l.arrives then l.playlist? else none) with
  | none =>
    -- the load brings nothing, and what came before it is still the last
    rw [harrival, Option.map_none] at hended
    have hkeys : Event.storedKeys promotes (between ++ .ended l :: after) =
        Event.storedKeys promotes (between ++ after) := by
      rw [Event.storedKeys_append, Event.storedKeys_cons, hended, Event.storedKeys_append]
      rfl
    rw [← hkeys] at hother hroom
    exact hlookup.2 ⟨before, event, _, s₁, hlog, hbefore, hevent, hother, hroom, hage⟩
  | some p₁ =>
    rw [harrival, Option.map_some, hl] at hended
    rw [hlog] at hpasses
    obtain ⟨s₁', hbefore', hrest⟩ := hpasses.of_append
    obtain rfl : s₁' = s₁ := hbefore'.eq_foldl.trans hbefore.eq_foldl.symm
    rw [← List.cons_append] at hrest
    obtain ⟨s₂, hbetween, -⟩ := hrest.of_append
    have hwall := hbetween.wall_le
    rw [Event.storedKeys_append] at hother hroom
    refine hlookup.2 ⟨before ++ event :: between, .ended l, after, s₂, ?_, hbefore.append hbetween, hended,
      fun hmem => hother (List.mem_append_right _ hmem), ?_, fun d hd => ?_⟩
    · rw [hlog, List.append_assoc, List.cons_append]
    · refine Nat.lt_of_le_of_lt (Finset.card_le_card fun key hkey => ?_) hroom
      rw [List.mem_toFinset] at hkey ⊢
      exact List.mem_append_right _ hkey
    · have hold := hage d hd
      omega

/-- A load that another one of the same query has overtaken arrives last, and replaces what the other one has
brought. -/
theorem found_after_overtaking :
    let s₂ := (initial []).run [probing 5000 "slow", probing 0 "fast"]
    s₂.known? (probe .youtube) = some (Playlist.single (sample "fast"), .memory) ∧
      (s₂.step (.wait 5000)).known? (probe .youtube) = some (Playlist.single (sample "slow"), .memory) := by
  intro s₂
  have hfast : s₂.known? (probe .youtube) = some (Playlist.single (sample "fast"), .memory) := by
    decide +kernel
  obtain ⟨-, hlaw, -⟩ := last_stored_is_found (s := initial []) rfl
    [probing 5000 "slow", probing 0 "fast"] (probe .youtube)
  obtain ⟨before, event, after, s₁, hlog, hbefore, hevent, hlast, hroom, -⟩ := (hlaw _).1 hfast
  let late := (initial []).engine.lateLoad (.reports 5000 (.track (sample "slow"))) (probe .youtube)
  have hending : s₂.engine.ending (s₂.engine.clock + 5000) = [late] := by decide +kernel
  have hwait : s₂.chronicle [.wait 5000] = [.ended late, .reached (s₂.engine.clock + 5000)] := by
    rw [chronicle_wait, hending]
    rfl
  have hlog' : (initial []).chronicle [probing 5000 "slow", probing 0 "fast", .wait 5000] =
      before ++ event :: (after ++ .ended late :: [.reached (s₂.engine.clock + 5000)]) := by
    have happend := (initial []).chronicle_append [probing 5000 "slow", probing 0 "fast"] [.wait 5000]
    rw [hlog, hwait, List.append_assoc] at happend
    exact happend
  obtain ⟨-, -, hreplaces⟩ := last_stored_is_found (s := initial []) rfl
    [probing 5000 "slow", probing 0 "fast", .wait 5000] (probe .youtube)
  have hkeys : Event.storedKeys false (after ++ [.reached (s₂.engine.clock + 5000)]) =
      Event.storedKeys false after := by
    rw [Event.storedKeys_append]
    exact List.append_nil _
  refine ⟨hfast, (hreplaces before event after late _ _ s₁ hlog' hbefore hevent rfl ?_ ?_ ?_).trans ?_⟩
  · exact hkeys ▸ hlast
  · exact hkeys ▸ hroom
  · exact fun d hd => nomatch hd
  · decide +kernel

/-- A late load can replace the result of a load that was sent after it, while nothing else happens to the
service and no time passes on the wall clock. -/
theorem not_forall_newer_kept :
    ¬ ∀ (s : Service) (first second : Step) (l₁ l₂ : LateLoad) (p : Playlist) (ms : Nat),
      s.engine.late = [] → s.load? first = some l₁ → (s.step first).load? second = some l₂ →
      l₁.query.fingerprint = l₂.query.fingerprint → l₂.playlist? = some p →
      (s.run [first, second]).known? l₂.query = some (p, .memory) →
      (s.run [first, second, .wait ms]).known? l₂.query = some (p, .memory) := by
  intro hkeeps
  have hkept := hkeeps (initial []) (probing 5000 "slow") (probing 0 "fast")
    ((initial []).engine.lateLoad (.reports 5000 (.track (sample "slow"))) (probe .youtube))
    (((initial []).step (probing 5000 "slow")).engine.lateLoad (.reports 0 (.track (sample "fast")))
      (probe .youtube))
    (Playlist.single (sample "fast")) 5000 rfl (by decide +kernel) (by decide +kernel) rfl rfl
    (by decide +kernel)
  revert hkept
  decide +kernel

end Service

end Jukebox
