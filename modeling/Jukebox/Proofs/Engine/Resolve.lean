import Jukebox.Proofs.Engine.Admission
import Jukebox.Proofs.Engine.Frame

/-!
# Requests of the engine

A request is refused, answered from the cache, or sent. The three cases are told apart once, with the
engine that each leaves behind; all that is known about requests follows from them.

## Main results

- `Engine.resolve_cases` — what a request can come to
- `Engine.resolve_congr` — a request depends on the loader through the text that it sends only
- `Engine.resolve_sends_where_admitted` — what a request sends, at which provider it ends and how its
  errors tell whether it was sent
-/

namespace Jukebox

theorem Query.request_of_isAddress {q : Query} (h : q.isAddress = true) : q.request = q.text := by
  unfold request isSearch
  split
  · rw [h]
    rfl
  · rfl

namespace Engine

variable {answer answer' : String → Reply} {useCache : Bool} {q : Query} {e : Engine}

/-- The cache was not asked and is as it was, or it did not know the answer. -/
def Misses (useCache : Bool) (q : Query) (e : Engine) (cache : ResultCache) : Prop :=
  if useCache then e.cache.lookup e.wall q = (none, cache) else cache = e.cache

-- ════════════════════════════════════════════════════════════════════════
-- Sending
-- ════════════════════════════════════════════════════════════════════════

theorem load_result (answer : String → Reply) (q : Query) (e : Engine) :
    (e.load answer q).1 = ⟨(e.dispatch answer q).1, q, some q.request⟩ := by
  unfold load
  rcases e.dispatch answer q with ⟨_ | _, _⟩ <;> rfl

/-- What welcoming an answer leaves alone is, after a load, as sending the query left it. -/
theorem apply_load {β : Type} (f : Engine → β) (hwelcome : ∀ e q p, f (welcome q p e) = f e)
    (answer : String → Reply) (q : Query) (e : Engine) :
    f (e.load answer q).2 = f (e.dispatch answer q).2 := by
  unfold load
  rcases e.dispatch answer q with ⟨_ | _, _⟩
  · rfl
  · exact hwelcome _ _ _

@[simp] theorem load_cooldown (answer : String → Reply) (q : Query) (e : Engine) :
    (e.load answer q).2.cooldown = (e.dispatch answer q).2.cooldown :=
  apply_load (·.cooldown) welcome_cooldown answer q e

@[simp] theorem load_settings (answer : String → Reply) (q : Query) (e : Engine) :
    (e.load answer q).2.settings = e.settings :=
  (apply_load (·.settings) welcome_settings answer q e).trans (e.dispatch_settings answer q)

@[simp] theorem load_wall (answer : String → Reply) (q : Query) (e : Engine) :
    (e.load answer q).2.wall = e.wall :=
  (apply_load (·.wall) welcome_wall answer q e).trans (e.dispatch_wall answer q)

/-- What is sent ends in no error of those that are raised before. -/
theorem isPreDispatch_of_dispatch {error : ResolveError}
    (h : (e.dispatch answer q).1 = .error error) : error.isPreDispatch = false := by
  rcases dispatch_cases answer q e with ⟨p, hp⟩ | ⟨f, hf⟩ | ⟨load, hload⟩
  · rw [hp] at h
    cases h
  · rw [hf] at h
    obtain rfl := Except.error.inj h
    unfold LoadFailure.classify
    split <;> rfl
  · rw [hload] at h
    obtain rfl := Except.error.inj h
    rfl

theorem load_congr (h : answer' q.request = answer q.request) :
    e.load answer' q = e.load answer q := by
  have hdispatch : e.dispatch answer' q = e.dispatch answer q := by
    unfold dispatch
    rw [h]
  unfold load
  rw [hdispatch]

-- ════════════════════════════════════════════════════════════════════════
-- The three cases
-- ════════════════════════════════════════════════════════════════════════

/-- A request is refused, and only counted; or it is answered from the cache; or it is sent. Which of
them it is does not depend on the loader. -/
theorem resolve_cases (useCache : Bool) (q : Query) (e : Engine) :
    (∃ error q', e.admission q = .error (error, q') ∧ ∀ answer, e.resolve answer useCache q =
      (⟨.error error, q', none⟩, (e.count .requestsIssued).countEnd (.error error))) ∨
    (∃ q' p tier cache, e.admission q = .ok q' ∧ useCache = true ∧
      e.cache.lookup e.wall q' = (some (p, tier), cache) ∧ ∀ answer, e.resolve answer useCache q =
        (⟨.ok p, q', none⟩, (((count .requestsIssued { e with cache }).count .cacheHits).count
          Outcome.cache.counter).countEnd (.ok p))) ∨
    (∃ q' cache, e.admission q = .ok q' ∧ Misses useCache q' e cache ∧
      ∀ answer, e.resolve answer useCache q =
        (((count .requestsIssued { e with cache }).load answer q').1,
          ((count .requestsIssued { e with cache }).load answer q').2.countEnd
            ((count .requestsIssued { e with cache }).load answer q').1.result)) := by
  have hcount : (e.count .requestsIssued).admission q = e.admission q := rfl
  unfold resolve
  simp only [hcount]
  cases hadmission : e.admission q with
  | error refusal =>
    obtain ⟨error, q'⟩ := refusal
    exact .inl ⟨error, q', rfl, fun _ => rfl⟩
  | ok q' =>
    refine .inr ?_
    cases useCache with
    | false => exact .inr ⟨q', e.cache, rfl, rfl, fun _ => rfl⟩
    | true =>
      rcases hlookup : e.cache.lookup e.wall q' with ⟨_ | ⟨p, tier⟩, cache⟩
      · refine .inr ⟨q', cache, rfl, hlookup, fun answer => ?_⟩
        simp only [answerAdmitted, count_cache, count_wall, hlookup, if_true]
        rfl
      · refine .inl ⟨q', p, tier, cache, rfl, rfl, hlookup, fun answer => ?_⟩
        simp only [answerAdmitted, count_cache, count_wall, hlookup, if_true]
        rfl

@[simp] theorem resolve_settings (answer : String → Reply) (useCache : Bool) (q : Query) (e : Engine) :
    (e.resolve answer useCache q).2.settings = e.settings := by
  rcases resolve_cases useCache q e with
    ⟨error, q', -, hr⟩ | ⟨q', p, tier, cache, -, -, -, hr⟩ | ⟨q', cache, -, -, hr⟩ <;> simp [hr]

@[simp] theorem resolve_wall (answer : String → Reply) (useCache : Bool) (q : Query) (e : Engine) :
    (e.resolve answer useCache q).2.wall = e.wall := by
  rcases resolve_cases useCache q e with
    ⟨error, q', -, hr⟩ | ⟨q', p, tier, cache, -, -, -, hr⟩ | ⟨q', cache, -, -, hr⟩ <;> simp [hr]

@[simp] theorem isDisabled_resolve (answer : String → Reply) (useCache : Bool) (q : Query) (e : Engine)
    (p : Provider) : (e.resolve answer useCache q).2.isDisabled p = e.isDisabled p := by
  rw [isDisabled, resolve_settings, isDisabled]

@[simp] theorem wallMs_resolve (answer : String → Reply) (useCache : Bool) (q : Query) (e : Engine) :
    (e.resolve answer useCache q).2.wallMs = e.wallMs := by
  rw [wallMs, resolve_wall, wallMs]

/-- What a request sends is the text of the query as it was admitted. -/
theorem sent_eq_some {t : String} (h : (e.resolve answer useCache q).1.sent = some t) :
    e.admission q = .ok (e.resolve answer useCache q).1.query ∧
      t = (e.resolve answer useCache q).1.query.request := by
  rcases resolve_cases useCache q e with
    ⟨error, q', -, hr⟩ | ⟨q', p, tier, cache, -, -, -, hr⟩ | ⟨q', cache, hadmission, -, hr⟩
  · rw [hr] at h
    cases h
  · rw [hr] at h
    cases h
  · rw [hr, load_result] at h ⊢
    exact ⟨hadmission, (Option.some.inj h).symm⟩

/-- A request ends with the query as it came, or with a search at the partner of its provider. -/
theorem resolve_query (answer : String → Reply) (useCache : Bool) (q : Query) (e : Engine) :
    q = (e.resolve answer useCache q).1.query ∨ e.MovesTo q (e.resolve answer useCache q).1.query := by
  have hadmitted : ∀ {q'}, e.admission q = .ok q' → q = q' ∨ e.MovesTo q q' := by
    intro q' h
    rcases admission_eq_ok_iff.1 h with ⟨-, -, hq⟩ | ⟨hmoves, -⟩
    · exact .inl hq
    · exact .inr hmoves
  rcases resolve_cases useCache q e with
    ⟨error, q', hrefused, hr⟩ | ⟨q', p, tier, cache, hadmission, -, -, hr⟩ | ⟨q', cache, hadmission, -, hr⟩
  · rw [hr]
    exact (admission_error hrefused).2
  · rw [hr]
    exact hadmitted hadmission
  · rw [hr, load_result]
    exact hadmitted hadmission

/-- A request depends on the loader through the text that it sends only: what the loader does with any
other text makes no difference, and nothing makes a difference to a request that is not sent. -/
theorem resolve_congr
    (h : ∀ t, (e.resolve answer useCache q).1.sent = some t → answer' t = answer t) :
    e.resolve answer' useCache q = e.resolve answer useCache q := by
  rcases resolve_cases useCache q e with
    ⟨error, q', -, hr⟩ | ⟨q', p, tier, cache, -, -, -, hr⟩ | ⟨q', cache, -, -, hr⟩
  · rw [hr, hr]
  · rw [hr, hr]
  · rw [hr, load_result] at h
    rw [hr, hr, load_congr (h _ rfl)]

/-- An error is one of those that are raised before anything is sent exactly if nothing was sent, and
then the request was refused, which leaves the cache and the cooldowns alone. -/
theorem resolve_error {error : ResolveError} (h : (e.resolve answer useCache q).1.result = .error error) :
    ((e.resolve answer useCache q).1.sent = none ↔ error.isPreDispatch = true) ∧
      (error.isPreDispatch = true → (e.resolve answer useCache q).2.cache = e.cache ∧
        (e.resolve answer useCache q).2.cooldown = e.cooldown) := by
  rcases resolve_cases useCache q e with
    ⟨error', q', hrefused, hr⟩ | ⟨q', p, tier, cache, -, -, -, hr⟩ | ⟨q', cache, -, -, hr⟩
  · rw [hr] at h ⊢
    obtain rfl := Except.error.inj h
    have hpre := (admission_error hrefused).1
    exact ⟨iff_of_true rfl hpre, fun _ => ⟨by simp, by simp⟩⟩
  · rw [hr] at h
    cases h
  · rw [hr, load_result] at h
    have hpost : error.isPreDispatch = false := isPreDispatch_of_dispatch h
    rw [hr, load_result, hpost]
    exact ⟨by simp, by simp⟩

/-- A refused query is only counted. -/
theorem resolve_of_refusal {q' : Query} {error : ResolveError} (h : e.admission q = .error (error, q')) :
    e.resolve answer useCache q =
      (⟨.error error, q', none⟩, (e.count .requestsIssued).countEnd (.error error)) := by
  rcases resolve_cases useCache q e with
    ⟨error', q₁, hrefused, hr⟩ | ⟨q₁, p, tier, cache, hadmission, -⟩ | ⟨q₁, cache, hadmission, -⟩
  · obtain ⟨rfl, rfl⟩ := Prod.mk.inj (Except.error.inj (h.symm.trans hrefused))
    exact hr answer
  · rw [h] at hadmission
    cases hadmission
  · rw [h] at hadmission
    cases hadmission

/-- An admitted query ends in no error of those that are raised before anything is sent. -/
theorem isPreDispatch_of_admission {q' : Query} {error : ResolveError} (h : e.admission q = .ok q')
    (hresult : (e.resolve answer useCache q).1.result = .error error) : error.isPreDispatch = false := by
  rcases resolve_cases useCache q e with
    ⟨error', q₁, hrefused, -⟩ | ⟨q₁, p, tier, cache, -, -, -, hr⟩ | ⟨q₁, cache, -, -, hr⟩
  · rw [h] at hrefused
    cases hrefused
  · rw [hr] at hresult
    cases hresult
  · rw [hr, load_result] at hresult
    exact isPreDispatch_of_dispatch hresult

theorem sent_of_admission {q' : Query} (h : e.admission q = .ok q') (answer : String → Reply) :
    (e.resolve answer false q).1.query = q' ∧
      (e.resolve answer false q).1.sent = some q'.request := by
  rcases resolve_cases false q e with
    ⟨error, q₁, hrefused, -⟩ | ⟨q₁, p, tier, cache, -, hcache, -⟩ | ⟨q₁, cache, hadmission, -, hr⟩
  · rw [h] at hrefused
    cases hrefused
  · cases hcache
  · obtain rfl := Except.ok.inj (h.symm.trans hadmission)
    rw [hr, load_result]
    exact ⟨rfl, rfl⟩

/-- A query whose provider is neither disabled nor cooling down stays there, and only the cache can keep
it from being sent. -/
theorem resolve_of_unobstructed (henabled : e.isDisabled q.provider = false)
    (hcool : e.isCooling q.provider = false) :
    (e.resolve answer useCache q).1.query = q ∧ ((e.resolve answer useCache q).1.sent = none →
      useCache = true ∧ ∃ p, (e.resolve answer useCache q).1.result = .ok p) := by
  have hadmitted : e.admission q = .ok q := admission_eq_ok_iff.2 (.inl ⟨henabled, hcool, rfl⟩)
  rcases resolve_cases useCache q e with
    ⟨error, q', hrefused, -⟩ | ⟨q', p, tier, cache, hadmission, hcache, -, hr⟩ | ⟨q', cache, hadmission, -, hr⟩
  · rw [hadmitted] at hrefused
    cases hrefused
  · obtain rfl := Except.ok.inj (hadmitted.symm.trans hadmission)
    rw [hr]
    exact ⟨rfl, fun _ => ⟨hcache, p, rfl⟩⟩
  · obtain rfl := Except.ok.inj (hadmitted.symm.trans hadmission)
    rw [hr, load_result]
    exact ⟨rfl, fun h => nomatch h⟩

/-- A request sends one text at most, since the loader makes no difference to it with any other. What it
sends is the request of the query in which it ends, at a provider that is not disabled. An address keeps
its provider and is sent as it stands; a search ends at its provider or at the partner of that; and only
the cache keeps a query from being sent whose provider is neither disabled nor cooling down. An error is
one of those that are raised before anything is sent exactly if nothing was sent, and then neither the
cache nor a cooldown has changed. -/
theorem resolve_sends_where_admitted (answer : String → Reply) (useCache : Bool) (q : Query)
    (e : Engine) :
    let r := (e.resolve answer useCache q).1
    let e' := (e.resolve answer useCache q).2
    (∀ answer', (∀ t, r.sent = some t → answer' t = answer t) →
      e.resolve answer' useCache q = e.resolve answer useCache q) ∧
    (∀ t, r.sent = some t → t = r.query.request ∧ e.isDisabled r.query.provider = false) ∧
    (q.isAddress = true → r.query = q ∧ ∀ t, r.sent = some t → t = q.text) ∧
    (q.isAddress = false → r.query = q.withProvider r.query.provider ∧
      (r.query.provider = q.provider ∨ q.provider.partner = some r.query.provider)) ∧
    (e.isDisabled q.provider = false ∧ e.isCooling q.provider = false →
      r.query = q ∧ (r.sent = none → useCache = true ∧ ∃ p, r.result = .ok p)) ∧
    (∀ error, r.result = .error error → (r.sent = none ↔ error.isPreDispatch = true) ∧
      (error.isPreDispatch = true → e'.cache = e.cache ∧ e'.cooldown = e.cooldown)) := by
  intro r e'
  have hquery : q = r.query ∨ e.MovesTo q r.query := resolve_query answer useCache q e
  refine ⟨fun answer' h => resolve_congr h, ?_, ?_, ?_, ?_, fun error h => resolve_error h⟩
  · intro t h
    obtain ⟨hadmission, ht⟩ := sent_eq_some h
    exact ⟨ht, isDisabled_of_admission hadmission⟩
  · intro haddress
    have hq : r.query = q := by
      rcases hquery with hq | ⟨hsearch, -⟩
      · exact hq.symm
      · rw [haddress] at hsearch
        cases hsearch
    refine ⟨hq, fun t h => ?_⟩
    rw [(sent_eq_some h).2]
    change r.query.request = q.text
    rw [hq, Query.request_of_isAddress haddress]
  · intro _
    rcases hquery with hq | ⟨-, p, hp, -, hq⟩
    · rw [← hq]
      exact ⟨rfl, .inl rfl⟩
    · rw [← hq]
      exact ⟨rfl, .inr hp⟩
  · rintro ⟨henabled, hcool⟩
    exact resolve_of_unobstructed henabled hcool

end Engine

end Jukebox
