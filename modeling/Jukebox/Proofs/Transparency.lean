import Jukebox.Proofs.Cache.Tiers
import Jukebox.Proofs.Chronicle

/-!
# Transparency of the cache

With a loader that answers at once, and alike for queries with the same fingerprint, nobody can tell whether
the engine asks its cache: it is compared with an engine that never does, request by request. All that memory
holds is what the loader would answer now, so that it makes no difference to the result; and an answer from
the cache leaves the cooldowns alone, as the answer that it stands for would have done.

## Main definitions

- `Query.IsProper` — the query tells truly whether its text is an address
- `LoadOutcome.Consistent` — queries with the same fingerprint are answered alike
- `Engine.transcript` — what a sequence of requests shows of an engine
- `Engine.Mirrors` — an engine that asks its cache is like one that does not

## Main results

- `Engine.Mirrors.resolve` — a request ends alike in both engines, and leaves them alike
- `Engine.cache_is_transparent` — the same requests show the same of both
-/

namespace Jukebox

namespace Query

variable {q : Query}

/-- The query tells truly whether its text is an address. Every query does that is made from a text. -/
def IsProper (q : Query) : Prop := q.isAddress = isWebAddress q.text.toList

theorem isProper_new (text : List Char) (p : Provider) : (new text p).IsProper := by
  have htext : (new text p).text.toList = text := String.toList_ofList
  rw [IsProper, htext]
  rfl

theorem isProper_ofInput (input : List Char) (preferred : Provider) : (ofInput input preferred).IsProper := by
  unfold ofInput
  simp only
  split
  · exact isProper_new _ _
  · split
    · exact isProper_new _ _
    · exact isProper_new _ _

theorem IsProper.withProvider (h : q.IsProper) (p : Provider) : (q.withProvider p).IsProper := h

end Query

/-- The loader answers alike to queries with the same fingerprint. -/
def LoadOutcome.Consistent (loader : String → LoadOutcome) : Prop :=
  ∀ q q' : Query, q.IsProper → q'.IsProper → q.fingerprint = q'.fingerprint →
    (loader q.request).accept q = (loader q'.request).accept q'

/-- The playlist is what the loader answers to all queries with the fingerprint. -/
def LoadOutcome.Answers (loader : String → LoadOutcome) (fingerprint : String) (p : Playlist) : Prop :=
  ∀ q : Query, q.IsProper → q.fingerprint = fingerprint → (loader q.request).accept q = .ok p

/-- A loader that answers at once. -/
def Reply.atOnce (loader : String → LoadOutcome) (text : String) : Reply := .reports 0 (loader text)

theorem LoadOutcome.Consistent.answers {loader : String → LoadOutcome} (h : Consistent loader) {q : Query}
    (hq : q.IsProper) {p : Playlist} (hp : (loader q.request).accept q = .ok p) :
    Answers loader q.fingerprint p :=
  fun q' hq' hfingerprint => (h q' q hq' hq hfingerprint).trans hp

namespace Engine

variable {loader : String → LoadOutcome} {e e' : Engine} {q q' : Query} {p : Playlist}

-- ════════════════════════════════════════════════════════════════════════
-- Requests of an engine for which no load is late
-- ════════════════════════════════════════════════════════════════════════

theorem elapse_of_late_eq_nil (h : e.late = []) (time : Nat) : e.elapse time = { e with clock := time } := by
  unfold elapse
  rw [h]
  simp only [List.filter_nil, List.mergeSort_nil, List.foldl_nil]

/-- What is loaded at once comes without any time passing. -/
theorem load_atOnce (h : e.late = []) (loader : String → LoadOutcome) (q : Query) :
    e.load (Reply.atOnce loader) q =
      match (loader q.request).accept q with
      | .ok p => (⟨.ok p, q, some q.request⟩, e.welcome q p)
      | .error f => (⟨.error f.classify, q, some q.request⟩, e.coolDown q.provider f.classify) := by
  have hintime : (Reply.atOnce loader q.request).isInTime e.settings.timeoutMs = true := rfl
  rw [load_of_isInTime hintime, elapse_of_late_eq_nil h]
  rfl

theorem admission_congr (hsettings : e.settings = e'.settings) (hcooldown : e.cooldown = e'.cooldown)
    (hwall : e.wall = e'.wall) (q : Query) : e.admission q = e'.admission q := by
  obtain ⟨⟩ := e
  obtain ⟨⟩ := e'
  simp only at hsettings hcooldown hwall
  subst hsettings hcooldown hwall
  rfl

theorem isProper_of_admission (hq : q.IsProper) (h : e.admission q = .ok q') : q'.IsProper := by
  rcases admission_eq_ok_iff.1 h with ⟨-, -, rfl⟩ | ⟨⟨-, p, -, -, rfl⟩, -⟩
  · exact hq
  · exact hq.withProvider p

-- ════════════════════════════════════════════════════════════════════════
-- Two engines
-- ════════════════════════════════════════════════════════════════════════

/-- The engine `e`, which asks its cache, is like `e'`, which does not: the two admit the same queries, no load
is late, and all that memory knows is what the loader would answer. -/
structure Mirrors (loader : String → LoadOutcome) (e e' : Engine) : Prop where
  settings : e.settings = e'.settings
  cooldown : e.cooldown = e'.cooldown
  late : e.late = []
  late' : e'.late = []
  shelf : e.cache.shelf.IsSilent
  holds : e.cache.Holds (LoadOutcome.Answers loader)

namespace Mirrors

theorem with_metrics (h : Mirrors loader e e') (metrics metrics' : Metrics) :
    Mirrors loader { e with metrics } { e' with metrics := metrics' } :=
  ⟨h.settings, h.cooldown, h.late, h.late', h.shelf, h.holds⟩

/-- Whatever memory knows for an admitted query is what the loader would answer. -/
theorem lookup (h : Mirrors loader e e') (q : Query) :
    Mirrors loader { e with cache := (e.cache.lookup e.wall q).2 } e' ∧
      ∀ p tier, (e.cache.lookup e.wall q).1 = some (p, tier) → LoadOutcome.Answers loader q.fingerprint p := by
  have hfetch : ∀ p, e.cache.fetch? e.wall q.fingerprint = some p → LoadOutcome.Answers loader q.fingerprint p := by
    intro p hp
    rw [ResultCache.fetch?_of_isSilent h.shelf] at hp
    cases hp
  have hlookup := h.holds.lookup hfetch
  refine ⟨⟨h.settings, h.cooldown, h.late, h.late', ?_, hlookup.1⟩, hlookup.2⟩
  rw [ResultCache.lookup_of_isSilent h.shelf]
  exact h.shelf

theorem keep (h : Mirrors loader e e') (hp : LoadOutcome.Answers loader q.fingerprint p) :
    Mirrors loader (e.keep q p) e' := by
  refine ⟨h.settings, h.cooldown, h.late, h.late', ?_, h.holds.store fun _ => hp⟩
  change (e.cache.store e.wall q p).2.shelf.IsSilent
  rw [ResultCache.store_of_isSilent h.shelf]
  exact h.shelf

theorem welcome (h : Mirrors loader e e') (hp : LoadOutcome.Answers loader q.fingerprint p) :
    Mirrors loader (e.welcome q p) e' := by
  unfold Engine.welcome
  split
  · exact h
  · exact (h.with_metrics _ e'.metrics).keep hp

/-- What an engine keeps that does not ask its cache makes no difference. -/
theorem welcome_right (h : Mirrors loader e e') (q : Query) (p : Playlist) :
    Mirrors loader e (e'.welcome q p) := by
  unfold Engine.welcome
  split
  · exact h
  · exact ⟨h.settings, h.cooldown, h.late, h.late', h.shelf, h.holds⟩

theorem coolDown (h : Mirrors loader e e') (hwall : e.wall = e'.wall) (provider : Provider)
    (error : ResolveError) : Mirrors loader (e.coolDown provider error) (e'.coolDown provider error) := by
  have hcooldown : (e.coolDown provider error).cooldown = (e'.coolDown provider error).cooldown := by
    rw [coolDown_cooldown, coolDown_cooldown, wallMs, wallMs, h.cooldown, h.settings, hwall]
  rw [e.coolDown_eq, e'.coolDown_eq]
  exact ⟨h.settings, hcooldown, h.late, h.late', h.shelf, h.holds⟩

theorem load (h : Mirrors loader e e') (hload : LoadOutcome.Consistent loader) (hwall : e.wall = e'.wall)
    (hq : q.IsProper) :
    (e.load (Reply.atOnce loader) q).1 = (e'.load (Reply.atOnce loader) q).1 ∧
      Mirrors loader (e.load (Reply.atOnce loader) q).2 (e'.load (Reply.atOnce loader) q).2 := by
  rw [load_atOnce h.late, load_atOnce h.late']
  cases haccept : (loader q.request).accept q with
  | ok p => exact ⟨rfl, (h.welcome (hload.answers hq haccept)).welcome_right q p⟩
  | error f => exact ⟨rfl, h.coolDown hwall q.provider f.classify⟩

theorem countEnd (h : Mirrors loader e e') (result result' : Except ResolveError Playlist) :
    Mirrors loader (e.countEnd result) (e'.countEnd result') := by
  rw [countEnd_eq, countEnd_eq]
  exact h.with_metrics _ _

/-- A request ends alike, whether the cache may be asked or not, and leaves the two engines alike. -/
theorem resolve (h : Mirrors loader e e') (hload : LoadOutcome.Consistent loader) (hwall : e.wall = e'.wall)
    (hq : q.IsProper) :
    let r := e.resolve (Reply.atOnce loader) true q
    let r' := e'.resolve (Reply.atOnce loader) false q
    r.1.result = r'.1.result ∧ r.1.query = r'.1.query ∧ Mirrors loader r.2 r'.2 := by
  intro r r'
  have hadmission := admission_congr h.settings h.cooldown hwall q
  rcases resolve_cases false q e' with
    ⟨error, q', hrefused, hr'⟩ | ⟨q', p, tier, cache, -, hcache, -⟩ | ⟨q', cache', hadmitted', hmisses', hr'⟩
  · rw [← hadmission] at hrefused
    simp only [r, r', resolve_of_refusal hrefused, hr']
    exact ⟨trivial, trivial, (h.with_metrics _ _).countEnd _ _⟩
  · cases hcache
  · obtain rfl : cache' = e'.cache := hmisses'
    rw [← hadmission] at hadmitted'
    have hq' : q'.IsProper := isProper_of_admission hq hadmitted'
    rcases resolve_cases true q e with
      ⟨error, q₁, hrefused, -⟩ | ⟨q₁, p, tier, cache, hadmitted, -, hfound, hr⟩ | ⟨q₁, cache, hadmitted, hmisses, hr⟩
    · rw [hadmitted'] at hrefused
      cases hrefused
    · obtain rfl := Except.ok.inj (hadmitted'.symm.trans hadmitted)
      -- the loader would have answered what memory knows
      obtain ⟨hlookup, hknown⟩ := h.lookup q'
      rw [hfound] at hlookup hknown
      have hsent := load_atOnce (e := e'.count .requestsIssued) h.late' loader q'
      rw [hknown p tier rfl q' hq' rfl] at hsent
      have hr₁ : r' = (⟨.ok p, q', some q'.request⟩,
          ((e'.count .requestsIssued).welcome q' p).countEnd (.ok p)) :=
        (hr' _).trans (congrArg (fun x : Resolution × Engine => (x.1, x.2.countEnd x.1.result)) hsent)
      have hcounted : Mirrors loader (((count .requestsIssued { e with cache }).count .cacheHits).count
          Outcome.cache.counter) (e'.count .requestsIssued) := hlookup.with_metrics _ _
      rw [hr₁, show r = _ from hr _]
      exact ⟨rfl, rfl, (hcounted.welcome_right q' p).countEnd (.ok p) (.ok p)⟩
    · obtain rfl := Except.ok.inj (hadmitted'.symm.trans hadmitted)
      have hlookup := (h.lookup q').1
      rw [show e.cache.lookup e.wall q' = (none, cache) from hmisses] at hlookup
      have hcounted : Mirrors loader (count .requestsIssued { e with cache }) (e'.count .requestsIssued) :=
        hlookup.with_metrics _ _
      obtain ⟨hend, hafter⟩ := hcounted.load hload hwall hq'
      rw [show r = _ from hr _, show r' = _ from hr' _]
      exact ⟨congrArg Resolution.result hend, congrArg Resolution.query hend, hafter.countEnd _ _⟩

end Mirrors

-- ════════════════════════════════════════════════════════════════════════
-- Sequences of requests
-- ════════════════════════════════════════════════════════════════════════

/-- A request, and when it comes: after a pause in milliseconds, and at a time of the wall clock. That is also
the time at which a cooldown begins that it starts. -/
structure Inquiry where
  pause : Nat
  wall : Nat
  query : Query

/-- What a request shows of an engine: its result, the query in the end and the cooldowns after it. -/
structure Reaction where
  result : Except ResolveError Playlist
  query : Query
  cooldown : Cooldown

/-- The engine when a request comes. -/
def await (i : Inquiry) (e : Engine) : Engine :=
  { e.elapse (e.clock + i.pause) with wall := i.wall }

/-- What requests show of an engine, one after another. -/
def transcript (answer : String → Reply) (useCache : Bool) : List Inquiry → Engine → List Reaction
  | [], _ => []
  | i :: inquiries, e =>
    let (r, e) := (e.await i).resolve answer useCache i.query
    ⟨r.result, r.query, e.cooldown⟩ :: e.transcript answer useCache inquiries

theorem Mirrors.await (h : Mirrors loader e e') (i : Inquiry) : Mirrors loader (e.await i) (e'.await i) := by
  unfold Engine.await
  rw [elapse_of_late_eq_nil h.late, elapse_of_late_eq_nil h.late']
  exact ⟨h.settings, h.cooldown, h.late, h.late', h.shelf, h.holds⟩

theorem Mirrors.transcript (h : Mirrors loader e e') (hload : LoadOutcome.Consistent loader)
    {inquiries : List Inquiry} (hproper : ∀ i ∈ inquiries, i.query.IsProper) :
    e.transcript (Reply.atOnce loader) true inquiries = e'.transcript (Reply.atOnce loader) false inquiries := by
  induction inquiries generalizing e e' with
  | nil => rfl
  | cons i inquiries ih =>
    obtain ⟨hi, hrest⟩ := List.forall_mem_cons.1 hproper
    obtain ⟨hresult, hquery, hafter⟩ := (h.await i).resolve hload rfl hi
    simp only [Engine.transcript, hresult, hquery, hafter.cooldown, ih hafter hrest]

/-- The cache is transparent. An engine whose memory is empty, without a shelf and without late loads, shows
the same in a sequence of requests whether it asks its cache each time or never does, if the loader answers at
once, and alike for queries with the same fingerprint: each request ends with the same playlist or the same
error and with the same query, and leaves the same cooldowns. -/
theorem cache_is_transparent {capacity : Nat} {lifetime : Option Nat}
    (hload : LoadOutcome.Consistent loader) (hmemory : e.cache.memory = .empty capacity lifetime)
    (hshelf : e.cache.shelf.IsSilent) (hlate : e.late = []) {inquiries : List Inquiry}
    (hproper : ∀ i ∈ inquiries, i.query.IsProper) :
    e.transcript (Reply.atOnce loader) true inquiries =
      e.transcript (Reply.atOnce loader) false inquiries := by
  have hstart : Mirrors loader e e := ⟨rfl, rfl, hlate, hlate, hshelf, .of_empty hmemory⟩
  exact hstart.transcript hload hproper

/-- The same terms come twice, written differently, and are answered with the same track, from the cache or not. -/
theorem transcript_of_repeated_search :
    let e := (Service.initial []).engine
    let loader := fun _ => LoadOutcome.track (Service.sample "a")
    let inquiries := [Inquiry.mk 0 0 (.ofInput "a".toList .youtube), ⟨5, 1000, .ofInput " A".toList .youtube⟩]
    LoadOutcome.Consistent loader ∧ (∀ i ∈ inquiries, i.query.IsProper) ∧
      e.transcript (Reply.atOnce loader) true inquiries = e.transcript (Reply.atOnce loader) false inquiries ∧
      (e.transcript (Reply.atOnce loader) true inquiries).map (·.result) =
        [.ok (Playlist.single (Service.sample "a")), .ok (Playlist.single (Service.sample "a"))] := by
  intro e loader inquiries
  have hload : LoadOutcome.Consistent loader := fun _ _ _ _ _ => rfl
  have hproper : ∀ i ∈ inquiries, i.query.IsProper := by
    simp only [inquiries, List.forall_mem_cons]
    exact ⟨Query.isProper_ofInput _ _, Query.isProper_ofInput _ _, fun _ hi => nomatch hi⟩
  exact ⟨hload, hproper, cache_is_transparent hload rfl (.inl rfl) rfl hproper, by decide +kernel⟩

end Engine

end Jukebox
