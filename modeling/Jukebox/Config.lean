import Jukebox.Engine
import Jukebox.Provider
import Jukebox.Text.Number
import Jukebox.Text.TimeSpan

/-!
# Configuration

The settings of the player, read from an environment of named texts.

The cooldown is written in minutes and kept in seconds, a number of 64 bits. Nothing is looked at before the one is
multiplied into the other, so that how the program is built decides what becomes of a product that does not fit.

## Main definitions

* `Jukebox.Config`: the settings.
* `Jukebox.Config.Overflow`: how the program is built.
* `Jukebox.Config.Fault`: why an environment gives no settings.
* `Jukebox.Config.load`: the settings of an environment.
* `Jukebox.Config.validate`: the rules that settings obey.
* `Jukebox.Config.engineSettings`: how the engine is set up.
* `Jukebox.Config.summary`: the settings in words, without the token.
-/

namespace Jukebox

/-- The settings of the player. Lifetimes and the cooldown are in seconds. -/
structure Config where
  token : String := ""
  commandPrefix : String := "!"
  cacheSize : Nat := 500
  cacheTtl : Nat := 3600
  durableTtl : Nat := 604800
  promotes : Bool := false
  loadTimeoutMs : Nat := 3000
  cooldown : UInt64 := 600
  disabled : List Provider := []
  defaultSearch : Provider := .youtube
  dataDir : String := "./data"
  extractorPath : String := "yt-dlp"
  maxQueue : Nat := 1000

namespace Config

/-- An environment: the text of each variable that is set. -/
abbrev Env := String → Option String

/-- A rule that settings obey. -/
inductive Rule where
  | cacheSize
  | lifetimes
  | loadTimeout
  | cooldown
  | queueSize
  | canSearch (p : Provider)
  | isEnabled (p : Provider)
  deriving DecidableEq, Repr

/-- What a product that does not fit into 64 bits does, which is up to the way the program is built: with checks it
stops the program, and without them it loses what does not fit. -/
inductive Overflow where
  | stops
  | wraps
  deriving DecidableEq, Repr

/-- Why an environment gives no settings. All but an overflow, which stops the program, are reported. -/
inductive Fault where
  | unknownProvider (name : String)
  | badNumber (key : String) (cause : Text.NumberFault)
  | badFlag (key : String)
  | overflow
  | broken (rule : Rule)
  deriving DecidableEq, Repr

/-- The wording of a broken rule. -/
def Rule.message : Rule → String
  | cacheSize => "Cache size must be greater than 0"
  | lifetimes => "Cache TTLs must be greater than 0"
  | loadTimeout => "Load timeout must be greater than 0"
  | cooldown => "Cooldown must be greater than 0"
  | queueSize => "Max queue size must be greater than 0"
  | canSearch p => "Default search provider " ++ p.name ++ " cannot search"
  | isEnabled p => "Default search provider " ++ p.name ++ " is disabled"

def badValue (key cause : String) : String :=
  "valor inválido para " ++ key ++ ": " ++ cause

/-- The wording of a fault. -/
def Fault.message : Fault → String
  | unknownProvider name => "proveedor desconocido: " ++ name
  | badNumber key cause => badValue key cause.message
  | badFlag key => badValue key "provided string was not `true` or `false`"
  | overflow => "attempt to multiply with overflow"
  | broken rule => rule.message

/-- The text of a variable without blanks around it, or else `usual`. -/
def trimmed (env : Env) (key usual : String) : List Char :=
  Text.trim ((env key).getD usual).toList

/-- The 64-bit number in a variable, or else `usual`. -/
def number (env : Env) (key usual : String) : Except Fault Nat :=
  match Text.readUnsigned Text.maxUInt64 (trimmed env key usual) with
  | .ok n => .ok n
  | .error cause => .error (.badNumber key cause)

/-- The truth value in a variable, or else `usual`. -/
def flag (env : Env) (key usual : String) : Except Fault Bool :=
  match String.ofList (trimmed env key usual) with
  | "true" => .ok true
  | "false" => .ok false
  | _ => .error (.badFlag key)

/-- The seconds of some minutes. -/
def seconds (o : Overflow) (minutes : Nat) : Except Fault UInt64 :=
  if o = .stops ∧ Text.maxUInt64 < 60 * minutes then .error .overflow else .ok (60 * UInt64.ofNat minutes)

def provider (name : List Char) : Except Fault Provider :=
  match Provider.ofName? name with
  | some p => .ok p
  | none => .error (.unknownProvider (String.ofList name))

/-- The providers named in a list with commas. Empty places in the list do not count. -/
def providers (list : List Char) : Except Fault (List Provider) :=
  (((list.splitOnP (· = ',')).map Text.trim).filter (· ≠ [])).mapM provider

/-- The first rule that the settings break. -/
def brokenRule? (c : Config) : Option Rule :=
  if c.cacheSize = 0 then some .cacheSize
  else if c.cacheTtl = 0 ∨ c.durableTtl = 0 then some .lifetimes
  else if c.loadTimeoutMs = 0 then some .loadTimeout
  else if c.cooldown = 0 then some .cooldown
  else if c.maxQueue = 0 then some .queueSize
  else if c.defaultSearch.isSearchable = false then some (.canSearch c.defaultSearch)
  else if c.defaultSearch ∈ c.disabled then some (.isEnabled c.defaultSearch)
  else none

/-- The settings, if they obey the rules. -/
def validate (c : Config) : Except Fault Config :=
  match c.brokenRule? with
  | some rule => .error (.broken rule)
  | none => .ok c

/-- The settings of an environment before the rules are looked at. -/
def read (o : Overflow) (env : Env) : Except Fault Config := do
  let disabled ← providers ((env "DISABLED_PROVIDERS").getD "").toList
  let cacheSize ← number env "CACHE_SIZE" "500"
  let cacheTtl ← number env "CACHE_TTL" "3600"
  let durableTtl ← number env "DURABLE_CACHE_TTL" "604800"
  let promotes ← flag env "CACHE_PROMOTE_DURABLE_HITS" "false"
  let loadTimeoutMs ← number env "LOAD_TIMEOUT_MS" "3000"
  let cooldown ← seconds o (← number env "COOLDOWN_MINUTES" "10")
  let defaultSearch ← provider ((env "DEFAULT_SEARCH_PROVIDER").getD "youtube").toList
  let maxQueue ← number env "MAX_QUEUE_SIZE" "1000"
  return {
    token := (env "DISCORD_TOKEN").getD ""
    commandPrefix := (env "COMMAND_PREFIX").getD "!"
    cacheSize, cacheTtl, durableTtl, promotes, loadTimeoutMs, cooldown, disabled, defaultSearch
    dataDir := (env "DATA_DIR").getD "./data"
    extractorPath := (env "YTDLP_PATH").getD "yt-dlp"
    maxQueue }

/-- The settings of an environment. -/
def load (o : Overflow) (env : Env) : Except Fault Config := do
  validate (← read o env)

/-- How the engine is set up. The grace of a late load is not among the settings of an environment. -/
def engineSettings (c : Config) : Engine.Settings where
  timeoutMs := c.loadTimeoutMs
  cooldownMs := c.cooldown.toNat * 1000
  disabled := c.disabled

/-- The names of the disabled providers, each once, in order. -/
def disabledNames (c : Config) : List String :=
  ((c.disabled.map Provider.name).eraseDups).mergeSort fun a b => a ≤ b

/-- The settings in words, without the token. -/
def summary (c : Config) : String :=
  let names := c.disabledNames
  "Config Summary:\n  Cache: " ++ toString c.cacheSize ++ " entries, TTL " ++
    Text.timeSpan c.cacheTtl ++ ", durable TTL " ++ Text.timeSpan c.durableTtl ++ ", promote=" ++
    (if c.promotes then "true" else "false") ++
    "\n  Resolution: timeout " ++ toString c.loadTimeoutMs ++ "ms, cooldown " ++
    Text.timeSpan c.cooldown.toNat ++ ", search via " ++ c.defaultSearch.name ++
    "\n  Disabled providers: " ++ (if names.isEmpty then "none" else ", ".intercalate names) ++
    "\n  Data: " ++ c.dataDir ++ ", yt-dlp: " ++ c.extractorPath ++
    "\n  Limits: " ++ toString c.maxQueue ++ " queue, prefix '" ++ c.commandPrefix ++ "'"

end Config

end Jukebox
