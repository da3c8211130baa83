import Jukebox.Engine

/-!
# Admission of queries

A query is admitted at a provider that is not disabled. A search may be moved to the partner of its
provider for one of two reasons: the provider is disabled, or it is cooling down. The two moves never
follow each other, since the second would lead back to the disabled provider.

## Main definitions

- `Engine.isCooling` — the provider is cooling down at this moment
- `Engine.MovesTo` — a search goes to the partner of its provider, which is not disabled

## Main results

- `Engine.admission_eq_ok_iff` — where a query is admitted
- `Engine.admission_error` — how a query is refused
-/

namespace Jukebox

theorem Provider.partner_ne {p p' : Provider} (h : p.partner = some p') : p' ≠ p := by
  rintro rfl
  revert h
  cases p' <;> decide

namespace Engine

variable {e : Engine} {q q' : Query} {p : Provider} {error : ResolveError}

def isCooling (p : Provider) (e : Engine) : Bool :=
  e.cooldown.isActive e.wallMs p

/-- `q'` is the search `q` at the partner of its provider, which is not disabled. -/
def MovesTo (e : Engine) (q q' : Query) : Prop :=
  q.isAddress = false ∧
    ∃ p, q.provider.partner = some p ∧ e.isDisabled p = false ∧ q.withProvider p = q'

theorem usablePartner?_eq_some_iff {p' : Provider} :
    e.usablePartner? p = some p' ↔ p.partner = some p' ∧ e.isDisabled p' = false := by
  simp only [usablePartner?, Option.filter_eq_some_iff, Bool.not_eq_true']

theorem usablePartner?_eq {p' : Provider} (h : p.partner = some p') :
    e.usablePartner? p = if e.isDisabled p' then none else some p' := by
  rw [usablePartner?, h, Option.filter_some]
  cases e.isDisabled p' <;> rfl

theorem movesTo_iff :
    e.MovesTo q q' ↔ q.isAddress = false ∧
      ∃ p, e.usablePartner? q.provider = some p ∧ q.withProvider p = q' := by
  simp only [MovesTo, usablePartner?_eq_some_iff, and_assoc]

-- ════════════════════════════════════════════════════════════════════════
-- The two checks
-- ════════════════════════════════════════════════════════════════════════

/-- A query passes the first check at its provider, or a search at the partner of a disabled one. -/
theorem validate_eq_ok_iff :
    e.validate q = .ok q' ↔
      e.isDisabled q.provider = false ∧ q = q' ∨
        e.isDisabled q.provider = true ∧ e.MovesTo q q' := by
  rw [movesTo_iff]
  unfold validate
  cases e.isDisabled q.provider with
  | false => simp
  | true =>
    cases q.isAddress with
    | true => simp
    | false => cases e.usablePartner? q.provider <;> simp

/-- A query passes the second check at its provider, or a search at the partner of a cooling one. -/
theorem checkCooldown_eq_ok_iff :
    e.checkCooldown q = .ok q' ↔
      e.isCooling q.provider = false ∧ q = q' ∨ e.isCooling q.provider = true ∧ e.MovesTo q q' := by
  rw [movesTo_iff]
  unfold checkCooldown isCooling Cooldown.isActive
  cases e.cooldown.remaining? e.wallMs q.provider with
  | none => simp
  | some ms =>
    cases q.isAddress with
    | true => simp
    | false => cases e.usablePartner? q.provider <;> simp

/-- The first check refuses with an error that is raised before anything is sent. -/
theorem validate_error (h : e.validate q = .error error) : error.isPreDispatch = true := by
  unfold validate at h
  split at h
  · cases h
  · split at h
    · obtain rfl := Except.error.inj h
      rfl
    · split at h
      · cases h
      · obtain rfl := Except.error.inj h
        rfl

/-- The second check refuses with the time for which the provider is still cooling down. -/
theorem checkCooldown_error (h : e.checkCooldown q = .error error) :
    ∃ ms, e.cooldown.remaining? e.wallMs q.provider = some ms ∧
      error = .coolingDown q.provider ms := by
  unfold checkCooldown at h
  split at h
  · cases h
  · next ms hremaining =>
    refine ⟨ms, hremaining, ?_⟩
    split at h
    · exact (Except.error.inj h).symm
    · split at h
      · cases h
      · exact (Except.error.inj h).symm

-- ════════════════════════════════════════════════════════════════════════
-- Both checks in a row
-- ════════════════════════════════════════════════════════════════════════

/-- The partner of the partner is the provider itself, so that a search that has left a disabled
provider cannot move a second time. -/
theorem not_movesTo_of_movesTo {q'' : Query} (hdisabled : e.isDisabled q.provider = true)
    (h : e.MovesTo q q') : ¬ e.MovesTo q' q'' := by
  obtain ⟨-, p, hp, -, rfl⟩ := h
  rintro ⟨-, p', hp', henabled, -⟩
  obtain rfl : q.provider = p' := Option.some.inj ((Provider.partner_partner hp).symm.trans hp')
  rw [hdisabled] at henabled
  cases henabled

theorem MovesTo.isDisabled_provider (h : e.MovesTo q q') : e.isDisabled q'.provider = false := by
  obtain ⟨-, p, -, henabled, rfl⟩ := h
  exact henabled

theorem admission_eq_ok_iff_checks :
    e.admission q = .ok q' ↔ ∃ q₁, e.validate q = .ok q₁ ∧ e.checkCooldown q₁ = .ok q' := by
  unfold admission
  cases hvalid : e.validate q with
  | error error => simp
  | ok q₁ => cases hcool : e.checkCooldown q₁ <;> simp [hcool]

/-- A query is admitted at its provider, which is neither disabled nor cooling down; or it is a search,
admitted at the partner instead of a disabled provider if the partner is not cooling down, and instead of
a cooling one in any case. -/
theorem admission_eq_ok_iff :
    e.admission q = .ok q' ↔
      e.isDisabled q.provider = false ∧ e.isCooling q.provider = false ∧ q = q' ∨
        e.MovesTo q q' ∧ (e.isDisabled q.provider = true ∧ e.isCooling q'.provider = false ∨
          e.isDisabled q.provider = false ∧ e.isCooling q.provider = true) := by
  simp only [admission_eq_ok_iff_checks, validate_eq_ok_iff, checkCooldown_eq_ok_iff]
  constructor
  · rintro ⟨q₁, ⟨henabled, rfl⟩ | ⟨hdisabled, hmoves⟩, ⟨hcool, rfl⟩ | ⟨hcool, hmoves'⟩⟩
    · exact .inl ⟨henabled, hcool, rfl⟩
    · exact .inr ⟨hmoves', .inr ⟨henabled, hcool⟩⟩
    · exact .inr ⟨hmoves, .inl ⟨hdisabled, hcool⟩⟩
    · exact absurd hmoves' (not_movesTo_of_movesTo hdisabled hmoves)
  · rintro (⟨henabled, hcool, rfl⟩ | ⟨hmoves, ⟨hdisabled, hcool⟩ | ⟨henabled, hcool⟩⟩)
    · exact ⟨q, .inl ⟨henabled, rfl⟩, .inl ⟨hcool, rfl⟩⟩
    · exact ⟨q', .inr ⟨hdisabled, hmoves⟩, .inl ⟨hcool, rfl⟩⟩
    · exact ⟨q, .inl ⟨henabled, rfl⟩, .inr ⟨hcool, hmoves⟩⟩

theorem isDisabled_of_admission (h : e.admission q = .ok q') : e.isDisabled q'.provider = false := by
  rcases admission_eq_ok_iff.1 h with ⟨henabled, -, rfl⟩ | ⟨hmoves, -⟩
  · exact henabled
  · exact hmoves.isDisabled_provider

/-- A query is refused before anything is sent, at its provider or at the partner. -/
theorem admission_error (h : e.admission q = .error (error, q')) :
    error.isPreDispatch = true ∧ (q = q' ∨ e.MovesTo q q') := by
  unfold admission at h
  cases hvalid : e.validate q with
  | error error' =>
    rw [hvalid] at h
    obtain ⟨rfl, rfl⟩ := Prod.mk.inj (Except.error.inj h)
    exact ⟨validate_error hvalid, .inl rfl⟩
  | ok q₁ =>
    rw [hvalid] at h
    cases hcool : e.checkCooldown q₁ with
    | ok q₂ =>
      simp only [hcool] at h
      cases h
    | error error' =>
      simp only [hcool] at h
      obtain ⟨rfl, rfl⟩ := Prod.mk.inj (Except.error.inj h)
      obtain ⟨ms, -, rfl⟩ := checkCooldown_error hcool
      refine ⟨rfl, ?_⟩
      rcases validate_eq_ok_iff.1 hvalid with ⟨-, rfl⟩ | ⟨-, hmoves⟩
      · exact .inl rfl
      · exact .inr hmoves

end Engine

end Jukebox
