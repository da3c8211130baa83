import Jukebox.Proofs.Run

/-!
# Avoiding providers that cool down

A query is kept from a provider that is cooling down, unless it comes there instead of its own provider
for the very reason that this one is cooling down: the partner is not asked whether it is cooling down as
well. That takes cooldowns of both, and so it takes a service that watches both.

## Main definitions

- `Provider.PairWatched` — a provider is watched and so is its partner
- `Engine.BothCool` — a search may go to its provider and to the partner, and both are cooling down

## Main results

- `Engine.isCooling_of_sent_iff` — which queries are sent to a provider that is cooling down
- `Engine.refused_iff` — which searches are refused while both providers are cooling down
- `Service.avoids_cooling_iff` — which services never send a query to a provider that is cooling down

## Design notes

Whether a provider is cooling down is told by the wall clock as a request begins, which is also when a cooldown
begins that the request starts.
-/

namespace Jukebox

/-- A provider is among the watched ones and so is its partner. -/
def Provider.PairWatched (tracked : List Provider) : Prop :=
  ∃ p p' : Provider, p.partner = some p' ∧ p ∈ tracked ∧ p' ∈ tracked

namespace Engine

variable {answer : String → Reply} {useCache : Bool} {q : Query} {e : Engine} {p : Provider}
  {tracked : List Provider}

/-- A search that may go to its provider and to the partner, which are both cooling down. -/
def BothCool (q : Query) (e : Engine) : Prop :=
  q.isAddress = false ∧ ∃ p, q.provider.partner = some p ∧
    (e.isDisabled q.provider = false ∧ e.isCooling q.provider = true) ∧
    (e.isDisabled p = false ∧ e.isCooling p = true)

-- ════════════════════════════════════════════════════════════════════════
-- One request
-- ════════════════════════════════════════════════════════════════════════

/-- A search both of whose providers are cooling down is admitted all the same. -/
theorem BothCool.admission (h : e.BothCool q) : ∃ q', e.admission q = .ok q' := by
  obtain ⟨hsearch, p, hp, ⟨henabled, hcool⟩, henabled', -⟩ := h
  refine ⟨q.withProvider p, admission_eq_ok_iff.2 (.inr ⟨?_, .inr ⟨henabled, hcool⟩⟩)⟩
  exact ⟨hsearch, p, hp, henabled', rfl⟩

/-- A query is admitted at a cooling provider exactly if it is a search that may go to its provider and to
the partner, and both are cooling down. -/
theorem isCooling_of_admission_iff {q' : Query} (h : e.admission q = .ok q') :
    e.isCooling q'.provider = true ↔ e.BothCool q := by
  rcases admission_eq_ok_iff.1 h with
    ⟨-, hcool, rfl⟩ | ⟨⟨hsearch, p, hp, henabled, rfl⟩, ⟨hdisabled, hcool⟩ | ⟨henabled', hcool⟩⟩
  · refine iff_of_false (by rw [hcool]; exact Bool.false_ne_true) ?_
    rintro ⟨-, p, -, ⟨-, hcool'⟩, -⟩
    rw [hcool] at hcool'
    cases hcool'
  · refine iff_of_false (by rw [hcool]; exact Bool.false_ne_true) ?_
    rintro ⟨-, p, -, ⟨henabled', -⟩, -⟩
    rw [hdisabled] at henabled'
    cases henabled'
  · constructor
    · exact fun hcool' => ⟨hsearch, p, hp, ⟨henabled', hcool⟩, henabled, hcool'⟩
    · rintro ⟨-, p', hp', -, -, hcool'⟩
      obtain rfl := Option.some.inj (hp.symm.trans hp')
      exact hcool'

/-- A query is sent to a cooling provider in no other case than that. -/
theorem isCooling_of_sent_iff {t : String} (h : (e.resolve answer useCache q).1.sent = some t) :
    e.isCooling (e.resolve answer useCache q).1.query.provider = true ↔ e.BothCool q :=
  isCooling_of_admission_iff (sent_eq_some h).1

/-- How a search is admitted or refused while both its provider and the partner are cooling down. -/
theorem admission_of_cooling (hsearch : q.isAddress = false) (hp : q.provider.partner = some p)
    (hcool : e.isCooling q.provider = true) (hcool' : e.isCooling p = true) :
    match e.isDisabled q.provider, e.isDisabled p with
    | false, false => e.admission q = .ok (q.withProvider p)
    | false, true => ∃ ms, e.admission q = .error (.coolingDown q.provider ms, q)
    | true, false => ∃ ms, e.admission q = .error (.coolingDown p ms, q.withProvider p)
    | true, true => e.admission q = .error (.disabled q.provider, q) := by
  have hback : p.partner = some q.provider := Provider.partner_partner hp
  obtain ⟨ms, hms⟩ := Option.isSome_iff_exists.1 hcool
  obtain ⟨ms', hms'⟩ := Option.isSome_iff_exists.1 hcool'
  cases hdisabled : e.isDisabled q.provider <;> cases hdisabled' : e.isDisabled p <;>
    simp [admission, validate, checkCooldown, usablePartner?_eq hp, usablePartner?_eq hback,
      Query.withProvider, hsearch, hms, hms', hdisabled, hdisabled']

/-- While both providers of a search are cooling down, it is refused for that reason exactly if one of
them is disabled: if both are, it is refused because of that, and if none is, it is admitted. -/
theorem refused_iff (answer : String → Reply) (useCache : Bool) (hsearch : q.isAddress = false)
    (hp : q.provider.partner = some p) (hcool : e.isCooling q.provider = true)
    (hcool' : e.isCooling p = true) :
    (∃ p' ms, (e.resolve answer useCache q).1.result = .error (.coolingDown p' ms)) ↔
      e.isDisabled q.provider ≠ e.isDisabled p := by
  have hadmission := admission_of_cooling hsearch hp hcool hcool'
  split at hadmission
  · next hdisabled hdisabled' =>
    rw [hdisabled, hdisabled']
    refine iff_of_false ?_ fun h => h rfl
    rintro ⟨p', ms, h⟩
    cases isPreDispatch_of_admission hadmission h
  · next hdisabled hdisabled' =>
    obtain ⟨ms, hrefused⟩ := hadmission
    rw [hdisabled, hdisabled']
    exact iff_of_true ⟨q.provider, ms, by rw [resolve_of_refusal hrefused]⟩ Bool.false_ne_true
  · next hdisabled hdisabled' =>
    obtain ⟨ms, hrefused⟩ := hadmission
    rw [hdisabled, hdisabled']
    exact iff_of_true ⟨p, ms, by rw [resolve_of_refusal hrefused]⟩ Bool.false_ne_true.symm
  · next hdisabled hdisabled' =>
    rw [hdisabled, hdisabled']
    refine iff_of_false ?_ fun h => h rfl
    rintro ⟨p', ms, h⟩
    rw [resolve_of_refusal hadmission] at h
    cases h

-- ════════════════════════════════════════════════════════════════════════
-- A provider that cannot keep up
-- ════════════════════════════════════════════════════════════════════════

/-- A loader that always reports at once that the rate of requests is limited. -/
def limiting : String → Reply :=
  fun _ => .reports 0 (.failed { kind := .rateLimited, message := "" })

theorem throttles_limiting (q : Query) (e : Engine) : e.throttles limiting q = true := rfl

/-- A watched provider that limits the rate of requests is left alone from then on. -/
theorem resolve_limiting_cooldown (henabled : e.isDisabled q.provider = false)
    (hcool : e.isCooling q.provider = false) (hwatched : e.cooldown.tracks q.provider = true) :
    (e.resolve limiting false q).2.cooldown =
      (e.cooldown.trigger e.wallMs e.settings.cooldownMs q.provider).2 := by
  obtain ⟨hquery, hsent⟩ := sent_of_admission (admission_eq_ok_iff.2 (.inl ⟨henabled, hcool, rfl⟩)) limiting
  rw [resolve_cooldown, hsent, hquery, Option.isSome_some, if_pos rfl, cooldownAfter, throttles_limiting,
    hwatched, Bool.and_self, if_pos rfl]

/-- A watched provider that limits the rate of requests is cooling down from then on, and no other is that
was not before. -/
theorem isCooling_resolve_limiting (henabled : e.isDisabled q.provider = false)
    (hcool : e.isCooling q.provider = false) (hwatched : e.cooldown.tracks q.provider = true)
    (hlater : e.wallMs < min (e.wallMs + e.settings.cooldownMs) Cooldown.horizon) (p : Provider) :
    (e.resolve limiting false q).2.isCooling p = true ↔ p = q.provider ∨ e.isCooling p = true := by
  unfold isCooling
  rw [wallMs_resolve, resolve_limiting_cooldown henabled hcool hwatched, Cooldown.isActive_iff,
    Cooldown.isActive_iff, Cooldown.trigger_deadline]
  by_cases hp : p = q.provider
  · rw [if_pos hp]
    exact iff_of_true (Nat.lt_of_lt_of_le hlater (Nat.le_max_right _ _)) (.inl hp)
  · rw [if_neg hp]
    exact (or_iff_right hp).symm

/-- Once a watched provider and its watched partner have limited the rate of requests, both are cooling
down. -/
theorem bothCool_resolve_limiting {e : Engine} (q q' : Query) (hsearch : q.isAddress = false)
    (hp : q.provider.partner = some q'.provider) (henabled : ∀ x, e.isDisabled x = false)
    (hwarm : ∀ x, e.isCooling x = false) (hwatches : e.cooldown.Watches tracked)
    (hwatched : q.provider ∈ tracked) (hwatched' : q'.provider ∈ tracked)
    (hlater : e.wallMs < min (e.wallMs + e.settings.cooldownMs) Cooldown.horizon) :
    BothCool q ((e.resolve limiting false q).2.resolve limiting false q').2 := by
  have hcool := isCooling_resolve_limiting (henabled _) (hwarm _) (hwatches.tracks_iff.2 hwatched) hlater
  have hwarm' : (e.resolve limiting false q).2.isCooling q'.provider = false := by
    refine Bool.eq_false_iff.2 fun hcool' => ?_
    rcases (hcool q'.provider).1 hcool' with heq | hcool'
    · exact Provider.partner_ne hp heq
    · rw [hwarm] at hcool'
      cases hcool'
  have hcool' := isCooling_resolve_limiting (q := q')
    ((isDisabled_resolve limiting false q e _).trans (henabled _)) hwarm'
    ((watches_resolve hwatches limiting false q).tracks_iff.2 hwatched')
    (by rwa [wallMs_resolve, resolve_settings])
  refine ⟨hsearch, q'.provider, hp, ⟨?_, ?_⟩, ?_, ?_⟩
  · rw [isDisabled_resolve, isDisabled_resolve, henabled]
  · exact (hcool' q.provider).2 (.inr ((hcool q.provider).2 (.inl rfl)))
  · rw [isDisabled_resolve, isDisabled_resolve, henabled]
  · exact (hcool' q'.provider).2 (.inl rfl)

end Engine

-- ════════════════════════════════════════════════════════════════════════
-- Runs
-- ════════════════════════════════════════════════════════════════════════

namespace Service

variable {tracked : List Provider}

/-- A service that watches a provider and its partner sends a query to a cooling provider once both have
limited the rate of requests. -/
theorem exists_sent_to_cooling (h : Provider.PairWatched tracked) :
    ∃ steps step r t, ((initial tracked).run steps).resolution? step = some r ∧ r.sent = some t ∧
      ((initial tracked).run steps).engine.isCooling r.query.provider = true := by
  obtain ⟨p, p', hp, hwatched, hwatched'⟩ := h
  have hlater : 0 / 1000 < min (0 / 1000 + 600000) Cooldown.horizon := by decide
  have hboth := Engine.bothCool_resolve_limiting (e := (initial tracked).engine) (probe p) (probe p')
    (isAddress_probe p) hp (fun _ => rfl) (fun _ => rfl) (Cooldown.watches_new tracked) hwatched hwatched'
    hlater
  obtain ⟨q', hadmission⟩ := hboth.admission
  have hsent := (Engine.sent_of_admission hadmission Engine.limiting).2
  exact ⟨[.resolve Engine.limiting false (probe p), .resolve Engine.limiting false (probe p')],
    .resolve Engine.limiting false (probe p), _, _, rfl, hsent, (Engine.isCooling_of_sent_iff hsent).2 hboth⟩

/-- A service never sends a query to a provider that is cooling down, whatever it is asked and whatever the
loader does, exactly if it does not watch both a provider and its partner. A single request does so exactly
if it is a search that may go to both and both are cooling down. While they are, such a search is refused
for that reason only if one of the two is disabled. Cooldowns last from the beginning of the request that starts
them. -/
theorem avoids_cooling_iff (tracked : List Provider) :
    ((∀ s : Service, s.engine.cooldown = { tracked } → ∀ steps step r t,
        (s.run steps).resolution? step = some r → r.sent = some t →
          (s.run steps).engine.isCooling r.query.provider = false) ↔
      ¬ Provider.PairWatched tracked) ∧
    (∀ answer useCache q (e : Engine) t, (e.resolve answer useCache q).1.sent = some t →
      (e.isCooling (e.resolve answer useCache q).1.query.provider = true ↔ e.BothCool q)) ∧
    (∀ answer useCache q (e : Engine) p, q.isAddress = false → q.provider.partner = some p →
      e.isCooling q.provider = true → e.isCooling p = true →
        ((∃ p' ms, (e.resolve answer useCache q).1.result = .error (.coolingDown p' ms)) ↔
          e.isDisabled q.provider ≠ e.isDisabled p)) := by
  refine ⟨⟨fun havoids hpair => ?_, fun hpair s hnew steps step r t hr ht => ?_⟩, ?_, ?_⟩
  · obtain ⟨steps, step, r, t, hr, ht, hcool⟩ := exists_sent_to_cooling hpair
    rw [havoids (initial tracked) rfl steps step r t hr ht] at hcool
    cases hcool
  · refine Bool.eq_false_iff.2 fun hcool => hpair ?_
    have hwatches : (s.run steps).engine.cooldown.Watches tracked :=
      watches_run (hnew ▸ Cooldown.watches_new tracked) steps
    obtain ⟨answer, useCache, q, -, rfl⟩ := resolution?_eq_some_iff.1 hr
    obtain ⟨-, p, hp, ⟨-, hcool'⟩, -, hcool''⟩ := (Engine.isCooling_of_sent_iff ht).1 hcool
    exact ⟨q.provider, p, hp, hwatches.mem_of_isActive hcool', hwatches.mem_of_isActive hcool''⟩
  · exact fun answer useCache q e t h => Engine.isCooling_of_sent_iff h
  · exact fun answer useCache q e p hsearch hp hcool hcool' =>
      Engine.refused_iff answer useCache hsearch hp hcool hcool'

end Service

end Jukebox
