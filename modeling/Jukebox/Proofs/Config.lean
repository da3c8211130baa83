import Jukebox.Config
import Jukebox.Proofs.Attribution
import Jukebox.Proofs.Engine.Admission
import Jukebox.Proofs.Fingerprint
import Jukebox.Proofs.Text.Number
import Jukebox.Proofs.Text.Trim

/-!
# What settings mean

Settings are read from an environment one variable after the other, and then have to obey the rules. Those that are
accepted say what the variables say: a number is the one that is written, and a provider is disabled if the list names
it. The one exception is the cooldown. It is written in minutes, and nothing keeps its seconds within 64 bits. Where
products wrap, the rules are about the seconds that are left, so that a cooldown beyond all bounds is accepted as a
short one. Where they do not, the program stops in the middle of reading, without settings and without a report.

## Main definitions

- `Config.IsNumber` — a variable writes a number
- `Provider.IsNamed` — a text is the name of a provider
- `Config.Lists` — a list names a provider
- `Config.IsRead` — what each of the settings has to do with the environment
- `Config.Overflows` — the seconds of the cooldown are asked for, and do not fit
- `Config.Obeys` — the rules
- `Config.Env.IsPossible` — a program can be started with the environment

## Main results

- `Config.load_eq_ok_iff` — which settings an environment gives
- `Config.load_eq_overflow_iff` — which environments stop the program
- `Config.mem_of_providers_iff` — which providers are disabled
- `Config.toNat_cooldown` — how long the cooldown is
- `Config.load_means_written` — what accepted settings mean, to their reader and to the engine
- `Config.exists_load_commandPrefix_iff` — which texts are command prefixes
-/

namespace Jukebox

namespace Provider

open Text (lowerAscii)

variable {p q : Provider} {s : List Char}

/-- The text is the name of the provider, in ASCII letters of any case and with blanks around it. -/
def IsNamed (p : Provider) (s : List Char) : Prop := (Text.trim s).map lowerAscii = p.name.toList

theorem IsNamed.eq (hp : p.IsNamed s) (hq : q.IsNamed s) : p = q :=
  name_injective (String.toList_inj.1 (hp.symm.trans hq))

theorem isNamed_trim_iff : p.IsNamed (Text.trim s) ↔ p.IsNamed s := by
  rw [IsNamed, IsNamed, Text.trim_trim]

theorem IsNamed.trim_ne_nil (h : p.IsNamed s) : Text.trim s ≠ [] := by
  intro hnil
  rw [IsNamed, hnil] at h
  revert h
  cases p <;> decide

/-- A provider is found by its name, wherever it stands among the others. -/
theorem ofName?_eq_some_iff : ofName? s = some p ↔ p.IsNamed s := by
  have hnamed : ∀ q : Provider, Text.sameAscii q.name.toList (Text.trim s) = true ↔ q.IsNamed s := by
    intro q
    have hlower : q.name.toList.map lowerAscii = q.name.toList := by cases q <;> decide
    rw [Text.sameAscii, beq_iff_eq, hlower, IsNamed, eq_comm]
  have hfound : ∀ {q}, ofName? s = some q → q.IsNamed s := by
    intro q hq
    have hsame := List.find?_some hq
    exact (hnamed q).1 hsame
  constructor
  · exact hfound
  · intro h
    have hsome : (ofName? s).isSome = true := List.find?_isSome.2 ⟨p, mem_all p, (hnamed p).2 h⟩
    obtain ⟨q, hq⟩ := Option.isSome_iff_exists.1 hsome
    rw [hq, (hfound hq).eq h]

end Provider

namespace Query

variable {input : List Char}

/-- The input is terms to search for, and names neither an address nor a provider. -/
def IsTerms (input : List Char) : Prop :=
  isWebAddress (unwrap input) = false ∧ Provider.ofSearch? (unwrap input) = none

/-- Terms are searched for at the provider that is preferred. -/
theorem ofInput_of_isTerms (h : IsTerms input) (p : Provider) : ofInput input p = new (unwrap input) p := by
  obtain ⟨haddress, -⟩ | ⟨_, _, hsearch, -⟩ | ⟨-, -, hnew⟩ := ofInput_cases input p
  · exact nomatch h.1.symm.trans haddress
  · exact nomatch h.2.symm.trans hsearch
  · exact hnew

end Query

namespace Config

variable {o : Overflow} {env : Env} {key usual : String} {n minutes : Nat} {b : Bool} {p : Provider}
variable {list : List Char} {c : Config}

/-- What is read in two steps is read if both are. -/
theorem bind_eq_ok_iff {α β : Type} {x : Except Fault α} {f : α → Except Fault β} {r : β} :
    x >>= f = .ok r ↔ ∃ a, x = .ok a ∧ f a = .ok r := by
  cases x with
  | error fault => exact iff_of_false nofun fun ⟨_, h, _⟩ => nomatch h
  | ok a =>
    constructor
    · exact fun h => ⟨a, rfl, h⟩
    · rintro ⟨a', ha, h⟩
      rwa [← Except.ok.inj ha] at h

/-- What is read in two steps fails as the first of them does, or else as the second. -/
theorem bind_eq_error_iff {α β : Type} {x : Except Fault α} {f : α → Except Fault β} {fault : Fault} :
    x >>= f = .error fault ↔ x = .error fault ∨ ∃ a, x = .ok a ∧ f a = .error fault := by
  cases x with
  | error fault' =>
    refine ⟨fun h => .inl (congrArg Except.error (Except.error.inj h)), ?_⟩
    rintro (h | ⟨_, h, _⟩)
    · exact congrArg Except.error (Except.error.inj h)
    · exact nomatch h
  | ok a =>
    refine ⟨fun h => .inr ⟨a, rfl, h⟩, ?_⟩
    rintro (h | ⟨a', ha, h⟩)
    · exact nomatch h
    · rwa [← Except.ok.inj ha] at h

-- ════════════════════════════════════════════════════════════════════════
-- Single variables
-- ════════════════════════════════════════════════════════════════════════

/-- The variable writes a number of 64 bits, or its usual text does if it is not set. -/
def IsNumber (env : Env) (key usual : String) (n : Nat) : Prop :=
  n ≤ Text.maxUInt64 ∧ Text.IsNumeralOf n (trimmed env key usual)

theorem number_eq_ok_iff : number env key usual = .ok n ↔ IsNumber env key usual n := by
  rw [IsNumber, ← Text.readUnsigned_eq_ok_iff, number]
  split
  · next m hm => rw [hm, Except.ok.injEq, Except.ok.injEq]
  · next hm => rw [hm]; exact iff_of_false nofun nofun

theorem number_ne_overflow : number env key usual ≠ .error .overflow := by
  unfold number
  split <;> nofun

theorem flag_eq_ok_iff : flag env key usual = .ok b ↔ String.ofList (trimmed env key usual) = toString b := by
  unfold flag
  split
  · next h => rw [h]; cases b <;> decide
  · next h => rw [h]; cases b <;> decide
  · next htrue hfalse =>
    refine iff_of_false nofun ?_
    cases b
    · exact hfalse
    · exact htrue

theorem flag_ne_overflow : flag env key usual ≠ .error .overflow := by
  unfold flag
  split <;> nofun

theorem provider_eq_ok_iff : provider list = .ok p ↔ p.IsNamed list := by
  rw [← Provider.ofName?_eq_some_iff, provider]
  split
  · next q hq => rw [hq, Except.ok.injEq, Option.some.injEq]
  · next hq => rw [hq]; exact iff_of_false nofun nofun

theorem provider_ne_overflow : provider list ≠ .error .overflow := by
  unfold provider
  split <;> nofun

-- ════════════════════════════════════════════════════════════════════════
-- The list of disabled providers
-- ════════════════════════════════════════════════════════════════════════

/-- The list names the provider at one of its places, with commas between them. -/
def Lists (list : List Char) (p : Provider) : Prop := ∃ place ∈ list.splitOnP (· = ','), p.IsNamed place

theorem mem_of_mapM_provider {names : List (List Char)} {ps : List Provider} (h : names.mapM provider = .ok ps) :
    p ∈ ps ↔ ∃ name ∈ names, p.IsNamed name := by
  induction names generalizing ps with
  | nil =>
    rw [List.mapM_nil] at h
    obtain rfl := Except.ok.inj h
    exact iff_of_false List.not_mem_nil fun ⟨_, hname, _⟩ => List.not_mem_nil hname
  | cons name names ih =>
    simp only [List.mapM_cons, bind_eq_ok_iff, provider_eq_ok_iff] at h
    obtain ⟨q, hq, qs, hqs, heq⟩ := h
    obtain rfl := Except.ok.inj heq
    rw [List.mem_cons, ih hqs, List.exists_mem_cons_iff]
    refine or_congr_left ⟨?_, fun hp => hp.eq hq⟩
    rintro rfl
    exact hq

/-- Exactly the providers that the list names are disabled. -/
theorem mem_of_providers_iff {ps : List Provider} (h : providers list = .ok ps) : p ∈ ps ↔ Lists list p := by
  rw [mem_of_mapM_provider h, Lists]
  constructor
  · rintro ⟨name, hname, hp⟩
    obtain ⟨place, hplace, rfl⟩ := List.mem_map.1 (List.mem_filter.1 hname).1
    exact ⟨place, hplace, Provider.isNamed_trim_iff.1 hp⟩
  · rintro ⟨place, hplace, hp⟩
    exact ⟨Text.trim place, List.mem_filter.2 ⟨List.mem_map_of_mem hplace, decide_eq_true hp.trim_ne_nil⟩,
      Provider.isNamed_trim_iff.2 hp⟩

theorem providers_ne_overflow : providers list ≠ .error .overflow := by
  unfold providers
  generalize ((list.splitOnP (· = ',')).map Text.trim).filter (· ≠ []) = names
  induction names with
  | nil => nofun
  | cons name names ih =>
    simp only [List.mapM_cons, ne_eq, bind_eq_error_iff, provider_ne_overflow, ih, false_or]
    rintro ⟨_, _, _, _, h⟩
    exact nomatch h

-- ════════════════════════════════════════════════════════════════════════
-- The cooldown
-- ════════════════════════════════════════════════════════════════════════

theorem seconds_eq_ok_iff {t : UInt64} :
    seconds o minutes = .ok t ↔ (o = .stops → 60 * minutes ≤ Text.maxUInt64) ∧ 60 * UInt64.ofNat minutes = t := by
  rw [seconds]
  split
  · next h => exact iff_of_false nofun fun ⟨hfits, _⟩ => absurd (hfits h.1) (Nat.not_le.2 h.2)
  · next h =>
    rw [Except.ok.injEq]
    exact ⟨fun ht => ⟨fun ho => Nat.not_lt.1 fun hlt => h ⟨ho, hlt⟩, ht⟩, And.right⟩

theorem seconds_eq_overflow_iff :
    seconds o minutes = .error .overflow ↔ o = .stops ∧ Text.maxUInt64 < 60 * minutes := by
  rw [seconds]
  split
  · next h => exact iff_of_true rfl h
  · next h => exact iff_of_false nofun h

/-- The cooldown has the seconds of its minutes, less what does not fit into 64 bits. -/
theorem toNat_cooldown (h : minutes ≤ Text.maxUInt64) :
    (60 * UInt64.ofNat minutes).toNat = 60 * minutes % (Text.maxUInt64 + 1) := by
  rw [UInt64.toNat_mul, UInt64.toNat_ofNat_of_lt' (Nat.lt_succ_of_le h)]
  rfl

theorem toNat_cooldown_eq_iff (h : minutes ≤ Text.maxUInt64) :
    (60 * UInt64.ofNat minutes).toNat = 60 * minutes ↔ 60 * minutes ≤ Text.maxUInt64 := by
  rw [toNat_cooldown h, Nat.mod_eq_iff_lt (Nat.succ_ne_zero _), Nat.lt_succ_iff]

-- ════════════════════════════════════════════════════════════════════════
-- All variables
-- ════════════════════════════════════════════════════════════════════════

/-- What the settings have to do with the environment they are read from. -/
structure IsRead (o : Overflow) (env : Env) (c : Config) : Prop where
  token : (env "DISCORD_TOKEN").getD "" = c.token
  commandPrefix : (env "COMMAND_PREFIX").getD "!" = c.commandPrefix
  cacheSize : IsNumber env "CACHE_SIZE" "500" c.cacheSize
  cacheTtl : IsNumber env "CACHE_TTL" "3600" c.cacheTtl
  durableTtl : IsNumber env "DURABLE_CACHE_TTL" "604800" c.durableTtl
  promotes : String.ofList (trimmed env "CACHE_PROMOTE_DURABLE_HITS" "false") = toString c.promotes
  loadTimeoutMs : IsNumber env "LOAD_TIMEOUT_MS" "3000" c.loadTimeoutMs
  cooldown : ∃ minutes, IsNumber env "COOLDOWN_MINUTES" "10" minutes ∧ seconds o minutes = .ok c.cooldown
  disabled : providers ((env "DISABLED_PROVIDERS").getD "").toList = .ok c.disabled
  defaultSearch : c.defaultSearch.IsNamed ((env "DEFAULT_SEARCH_PROVIDER").getD "youtube").toList
  dataDir : (env "DATA_DIR").getD "./data" = c.dataDir
  extractorPath : (env "YTDLP_PATH").getD "yt-dlp" = c.extractorPath
  maxQueue : IsNumber env "MAX_QUEUE_SIZE" "1000" c.maxQueue

theorem read_eq_ok_iff : read o env = .ok c ↔ IsRead o env c := by
  simp only [read, bind_eq_ok_iff, number_eq_ok_iff, flag_eq_ok_iff, provider_eq_ok_iff]
  constructor
  · rintro ⟨disabled, hdisabled, cacheSize, hsize, cacheTtl, hcache, durableTtl, hdurable, promotes, hpromotes,
      loadTimeoutMs, htimeout, minutes, hminutes, cooldown, hcooldown, defaultSearch, hsearch, maxQueue, hqueue, heq⟩
    obtain rfl := Except.ok.inj heq
    exact ⟨rfl, rfl, hsize, hcache, hdurable, hpromotes, htimeout, ⟨minutes, hminutes, hcooldown⟩, hdisabled, hsearch,
      rfl, rfl, hqueue⟩
  · rintro ⟨htoken, hprefix, hsize, hcache, hdurable, hpromotes, htimeout, ⟨minutes, hminutes, hcooldown⟩, hdisabled,
      hsearch, hdata, hpath, hqueue⟩
    refine ⟨_, hdisabled, _, hsize, _, hcache, _, hdurable, _, hpromotes, _, htimeout, minutes, hminutes, _, hcooldown,
      _, hsearch, _, hqueue, ?_⟩
    rw [htoken, hprefix, hdata, hpath]
    rfl

/-- The cooldown is read, since all that is read before it can be read, and its seconds do not fit into 64 bits. -/
structure Overflows (env : Env) : Prop where
  disabled : ∃ ps, providers ((env "DISABLED_PROVIDERS").getD "").toList = .ok ps
  cacheSize : ∃ n, IsNumber env "CACHE_SIZE" "500" n
  cacheTtl : ∃ n, IsNumber env "CACHE_TTL" "3600" n
  durableTtl : ∃ n, IsNumber env "DURABLE_CACHE_TTL" "604800" n
  promotes : ∃ b, String.ofList (trimmed env "CACHE_PROMOTE_DURABLE_HITS" "false") = toString (b : Bool)
  loadTimeoutMs : ∃ n, IsNumber env "LOAD_TIMEOUT_MS" "3000" n
  cooldown : ∃ minutes, IsNumber env "COOLDOWN_MINUTES" "10" minutes ∧ Text.maxUInt64 < 60 * minutes

theorem read_eq_overflow_iff : read o env = .error .overflow ↔ o = .stops ∧ Overflows env := by
  simp only [read, bind_eq_error_iff, number_eq_ok_iff, flag_eq_ok_iff, number_ne_overflow, flag_ne_overflow,
    provider_ne_overflow, providers_ne_overflow, seconds_eq_overflow_iff, false_or]
  constructor
  · rintro ⟨_, hdisabled, _, hsize, _, hcache, _, hdurable, _, hpromotes, _, htimeout, minutes, hminutes, hover⟩
    obtain ⟨ho, hover⟩ | ⟨_, _, _, _, _, _, h⟩ := hover
    · exact ⟨ho, ⟨_, hdisabled⟩, ⟨_, hsize⟩, ⟨_, hcache⟩, ⟨_, hdurable⟩, ⟨_, hpromotes⟩, ⟨_, htimeout⟩, minutes,
        hminutes, hover⟩
    · exact nomatch h
  · rintro ⟨ho, ⟨_, hdisabled⟩, ⟨_, hsize⟩, ⟨_, hcache⟩, ⟨_, hdurable⟩, ⟨_, hpromotes⟩, ⟨_, htimeout⟩, minutes,
      hminutes, hover⟩
    exact ⟨_, hdisabled, _, hsize, _, hcache, _, hdurable, _, hpromotes, _, htimeout, minutes, hminutes,
      .inl ⟨ho, hover⟩⟩

/-- The rules that settings obey. -/
structure Obeys (c : Config) : Prop where
  cacheSize : 0 < c.cacheSize
  cacheTtl : 0 < c.cacheTtl
  durableTtl : 0 < c.durableTtl
  loadTimeoutMs : 0 < c.loadTimeoutMs
  cooldown : 0 < c.cooldown.toNat
  maxQueue : 0 < c.maxQueue
  canSearch : c.defaultSearch.isSearchable = true
  isEnabled : c.defaultSearch ∉ c.disabled

theorem brokenRule?_eq_none_iff : c.brokenRule? = none ↔ c.Obeys := by
  have hcooldown : c.cooldown = 0 ↔ c.cooldown.toNat = 0 := by rw [← UInt64.toNat_inj]; rfl
  simp only [brokenRule?, apply_ite (· = none), reduceCtorEq, if_false_left, hcooldown]
  constructor
  · rintro ⟨hsize, hlifetimes, htimeout, hcooldown, hqueue, hsearch, henabled, -⟩
    obtain ⟨hcache, hdurable⟩ := not_or.1 hlifetimes
    exact ⟨Nat.pos_of_ne_zero hsize, Nat.pos_of_ne_zero hcache, Nat.pos_of_ne_zero hdurable,
      Nat.pos_of_ne_zero htimeout, Nat.pos_of_ne_zero hcooldown, Nat.pos_of_ne_zero hqueue,
      Bool.not_eq_false _ ▸ hsearch, henabled⟩
  · rintro ⟨hsize, hcache, hdurable, htimeout, hcooldown, hqueue, hsearch, henabled⟩
    exact ⟨hsize.ne', not_or.2 ⟨hcache.ne', hdurable.ne'⟩, htimeout.ne', hcooldown.ne', hqueue.ne',
      Bool.not_eq_false _ ▸ hsearch, henabled, trivial⟩

theorem validate_eq_ok_iff {c' : Config} : c.validate = .ok c' ↔ c.Obeys ∧ c = c' := by
  rw [← brokenRule?_eq_none_iff, validate]
  cases c.brokenRule? <;> simp

/-- The settings of an environment are those that it is read as, if they obey the rules. -/
theorem load_eq_ok_iff : load o env = .ok c ↔ IsRead o env c ∧ c.Obeys := by
  simp only [load, bind_eq_ok_iff, read_eq_ok_iff, validate_eq_ok_iff]
  constructor
  · rintro ⟨_, hread, hobeys, rfl⟩
    exact ⟨hread, hobeys⟩
  · rintro ⟨hread, hobeys⟩
    exact ⟨c, hread, hobeys, rfl⟩

theorem validate_ne_overflow : c.validate ≠ .error .overflow := by
  unfold validate
  split <;> nofun

/-- An environment stops the program if it is built to stop, and the seconds of the cooldown do not fit. -/
theorem load_eq_overflow_iff : load o env = .error .overflow ↔ o = .stops ∧ Overflows env := by
  simp only [load, bind_eq_error_iff, read_eq_overflow_iff, validate_ne_overflow, and_false, exists_false, or_false]

theorem isNumber_of_unset (hunset : env key = none)
    (hn : Text.readUnsigned Text.maxUInt64 (Text.trim usual.toList) = .ok n) : IsNumber env key usual n := by
  rwa [IsNumber, ← Text.readUnsigned_eq_ok_iff, trimmed, hunset]

/-- The environment in which one variable is set. -/
def only (key text : String) : Env := fun k => if k = key then some text else none

theorem isRead_only_commandPrefix (front : String) :
    IsRead o (only "COMMAND_PREFIX" front) { commandPrefix := front } := by
  have hunset : ∀ {key}, key ≠ "COMMAND_PREFIX" → only "COMMAND_PREFIX" front key = none := fun hkey => if_neg hkey
  exact {
    token := by rw [hunset (by decide)]; rfl
    commandPrefix := rfl
    cacheSize := isNumber_of_unset (hunset (by decide)) rfl
    cacheTtl := isNumber_of_unset (hunset (by decide)) rfl
    durableTtl := isNumber_of_unset (hunset (by decide)) rfl
    promotes := by rw [trimmed, hunset (by decide)]; rfl
    loadTimeoutMs := isNumber_of_unset (hunset (by decide)) rfl
    cooldown := ⟨10, isNumber_of_unset (hunset (by decide)) rfl, seconds_eq_ok_iff.2 ⟨fun _ => by decide, rfl⟩⟩
    disabled := by rw [hunset (by decide)]; rfl
    defaultSearch := by rw [hunset (by decide)]; exact Provider.ofName?_eq_some_iff.1 rfl
    dataDir := by rw [hunset (by decide)]; rfl
    extractorPath := by rw [hunset (by decide)]; rfl
    maxQueue := isNumber_of_unset (hunset (by decide)) rfl }

/-- A program can be started with the environment: there is no NUL in its texts. -/
def Env.IsPossible (env : Env) : Prop := ∀ key text, env key = some text → '\x00' ∉ text.toList

theorem Env.IsPossible.only {text : String} (h : '\x00' ∉ text.toList) : (only key text).IsPossible := by
  intro k t ht
  obtain ⟨-, heq⟩ := Option.ite_none_right_eq_some.1 ht
  rwa [← Option.some.inj heq]

/-- Every text that an environment can hold is the command prefix of some settings. -/
theorem exists_load_commandPrefix_iff (o : Overflow) (front : String) :
    (∃ env c, env.IsPossible ∧ load o env = .ok c ∧ c.commandPrefix = front) ↔ '\x00' ∉ front.toList := by
  constructor
  · rintro ⟨env, c, henv, hload, rfl⟩
    rw [← (load_eq_ok_iff.1 hload).1.commandPrefix]
    cases htext : env "COMMAND_PREFIX" with
    | none => decide
    | some text => exact henv _ _ htext
  · intro h
    exact ⟨_, _, .only h, load_eq_ok_iff.2 ⟨isRead_only_commandPrefix front, brokenRule?_eq_none_iff.1 rfl⟩, rfl⟩

-- ════════════════════════════════════════════════════════════════════════
-- Accepted settings
-- ════════════════════════════════════════════════════════════════════════

/-- The engine lets every query pass that goes to the default provider. -/
theorem validate_defaultSearch (h : c.Obeys) {e : Engine} (he : e.settings = c.engineSettings) {q : Query}
    (hq : q.provider = c.defaultSearch) : e.validate q = .ok q := by
  have henabled : e.isDisabled q.provider = false := by
    rw [Engine.isDisabled, he, hq]
    exact Bool.eq_false_iff.2 (mt List.contains_iff_mem.1 h.isEnabled)
  exact Engine.validate_eq_ok_iff.2 (.inl ⟨henabled, rfl⟩)

/-- What accepted settings mean. Their numbers are those that the variables write, and none of them is zero. The
cooldown has the seconds of the minutes that are written, less what does not fit into 64 bits, so that it is as long as
it is written exactly if they fit. Where a product that does not fit stops the program, it has all of them, and the
program stops at every environment in which they do not fit, unless another setting is refused before. The providers
that the list names are disabled, and no others. Terms are searched for at the provider that is written, and no engine
with these settings sends them elsewhere. Settings that can be read and obey the rules are accepted. -/
theorem load_means_written (o : Overflow) (env : Env) :
    (∀ c, load o env = .ok c ↔ IsRead o env c ∧ c.Obeys) ∧
    (∀ c, load o env = .ok c →
      (IsNumber env "CACHE_SIZE" "500" c.cacheSize ∧ 0 < c.cacheSize) ∧
      (IsNumber env "CACHE_TTL" "3600" c.cacheTtl ∧ 0 < c.cacheTtl) ∧
      (IsNumber env "DURABLE_CACHE_TTL" "604800" c.durableTtl ∧ 0 < c.durableTtl) ∧
      (IsNumber env "LOAD_TIMEOUT_MS" "3000" c.loadTimeoutMs ∧ 0 < c.loadTimeoutMs) ∧
      (IsNumber env "MAX_QUEUE_SIZE" "1000" c.maxQueue ∧ 0 < c.maxQueue) ∧
      (∃ minutes, IsNumber env "COOLDOWN_MINUTES" "10" minutes ∧ 0 < c.cooldown.toNat ∧
        c.cooldown.toNat = 60 * minutes % (Text.maxUInt64 + 1) ∧
        (c.cooldown.toNat = 60 * minutes ↔ 60 * minutes ≤ Text.maxUInt64) ∧
        (o = .stops → c.cooldown.toNat = 60 * minutes)) ∧
      (∀ p, p ∈ c.disabled ↔ Lists ((env "DISABLED_PROVIDERS").getD "").toList p) ∧
      c.defaultSearch.IsNamed ((env "DEFAULT_SEARCH_PROVIDER").getD "youtube").toList ∧
      c.defaultSearch.isSearchable = true ∧ c.defaultSearch ∉ c.disabled ∧
      ∀ e : Engine, e.settings = c.engineSettings → ∀ input, Query.IsTerms input →
        (Query.ofInput input c.defaultSearch).provider = c.defaultSearch ∧
        e.validate (Query.ofInput input c.defaultSearch) = .ok (Query.ofInput input c.defaultSearch)) ∧
    (load o env = .error .overflow ↔ o = .stops ∧ Overflows env) := by
  refine ⟨fun c => load_eq_ok_iff, ?_, load_eq_overflow_iff⟩
  intro c h
  obtain ⟨hread, hobeys⟩ := load_eq_ok_iff.1 h
  obtain ⟨minutes, hminutes, hseconds⟩ := hread.cooldown
  obtain ⟨hfits, hcooldown⟩ := seconds_eq_ok_iff.1 hseconds
  have hexact : c.cooldown.toNat = 60 * minutes ↔ 60 * minutes ≤ Text.maxUInt64 := by
    rw [← hcooldown, toNat_cooldown_eq_iff hminutes.1]
  refine ⟨⟨hread.cacheSize, hobeys.cacheSize⟩, ⟨hread.cacheTtl, hobeys.cacheTtl⟩,
    ⟨hread.durableTtl, hobeys.durableTtl⟩, ⟨hread.loadTimeoutMs, hobeys.loadTimeoutMs⟩,
    ⟨hread.maxQueue, hobeys.maxQueue⟩,
    ⟨minutes, hminutes, hobeys.cooldown, ?_, hexact, fun ho => hexact.2 (hfits ho)⟩, ?_, hread.defaultSearch,
    hobeys.canSearch, hobeys.isEnabled, ?_⟩
  · rw [← hcooldown, toNat_cooldown hminutes.1]
  · exact fun p => mem_of_providers_iff hread.disabled
  · intro e he input hinput
    have hprovider : (Query.ofInput input c.defaultSearch).provider = c.defaultSearch := by
      rw [Query.ofInput_of_isTerms hinput]
      rfl
    exact ⟨hprovider, validate_defaultSearch hobeys he hprovider⟩

/-- A cooldown of some five hundred billion years stops the program, or is accepted and lasts 44 seconds. -/
theorem long_cooldown_cut :
    load .stops (only "COOLDOWN_MINUTES" "307445734561825861") = .error .overflow ∧
      ∃ c minutes, load .wraps (only "COOLDOWN_MINUTES" "307445734561825861") = .ok c ∧
        IsNumber (only "COOLDOWN_MINUTES" "307445734561825861") "COOLDOWN_MINUTES" "10" minutes ∧
        minutes = 307445734561825861 ∧ c.cooldown.toNat = 44 ∧ c.cooldown.toNat ≠ 60 * minutes := by
  obtain ⟨-, hmeans, -⟩ := load_means_written .wraps (only "COOLDOWN_MINUTES" "307445734561825861")
  have hload : load .wraps (only "COOLDOWN_MINUTES" "307445734561825861") = .ok { cooldown := 44 } := rfl
  obtain ⟨-, -, -, -, -, ⟨minutes, hminutes, -, hseconds, hexact, -⟩, -⟩ := hmeans _ hload
  have hread : number (only "COOLDOWN_MINUTES" "307445734561825861") "COOLDOWN_MINUTES" "10" =
    .ok 307445734561825861 := rfl
  obtain rfl := Except.ok.inj ((number_eq_ok_iff.2 hminutes).symm.trans hread)
  exact ⟨rfl, _, _, hload, hminutes, rfl, hseconds.trans (by decide), mt hexact.1 (by decide)⟩

end Config

end Jukebox
