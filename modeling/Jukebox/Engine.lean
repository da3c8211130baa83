import Jukebox.Cache.Tiers
import Jukebox.Cooldown
import Jukebox.Loader.Outcome
import Jukebox.Metrics

/-!
# The engine

Resolves queries into playlists. A query is admitted or refused, looked up in the cache, and only then
sent to the upstream loader, which has a limited time to answer.

## Main definitions

* `Jukebox.Engine`: the state that requests share.
* `Jukebox.Engine.admission`: the query as it may be sent, or the refusal.
* `Jukebox.Engine.elapse`: lets time pass for the loads that are late.
* `Jukebox.Engine.resolve`: one request.

## Design notes

There are two clocks. Waiting for loaders moves `clock`, in milliseconds; the age of what is stored and
the cooldowns are told by `wall`, in microseconds since the start of 1970, which a request does not move.
So what a request keeps, and the cooldown that it starts, are dated by the beginning of the request and not
by the arrival of the reply.

What the loader does is given to a request as a function of the text sent. A load that misses the timeout
becomes a late load. It is heard until its grace ends: what it reports by then goes into the cache, and
what still runs at the end is aborted.
-/

namespace Jukebox

/-- What the upstream loader does with a text that it is sent. -/
inductive Reply where
  /-- Reports an outcome after so many milliseconds. -/
  | reports (delay : Nat) (outcome : LoadOutcome)
  /-- Gives up without a report after so many milliseconds. -/
  | drops (delay : Nat)
  /-- Never reports, and nothing is left to abort. -/
  | forgets
  /-- Never reports, and runs until it is aborted. -/
  | hangs
  deriving DecidableEq, Repr

namespace Reply

/-- When the loader is done, if ever. -/
def delay? : Reply → Option Nat
  | reports delay _ | drops delay => some delay
  | forgets | hangs => none

/-- What the loader reports, if anything. -/
def outcome? : Reply → Option LoadOutcome
  | reports _ outcome => some outcome
  | drops _ | forgets | hangs => none

/-- The loader is done at once or before the timeout. -/
def isInTime (timeout : Nat) (r : Reply) : Bool :=
  r.delay?.any fun delay => delay = 0 || delay < timeout

end Reply

/-- How the engine is set up. Times are in milliseconds. -/
structure Engine.Settings where
  timeoutMs : Nat := 3000
  cooldownMs : Nat := 600000
  graceMs : Nat := 60000
  disabled : List Provider := []

/-- A load that missed the timeout: the query as it was sent, what the loader does, when it was sent and
when its grace ends. -/
structure LateLoad where
  query : Query
  reply : Reply
  sentAt : Nat
  graceEnd : Nat
  deriving DecidableEq, Repr

namespace LateLoad

/-- The load is done before its grace ends. -/
def arrives (l : LateLoad) : Bool :=
  l.reply.delay?.any fun delay => l.sentAt + delay ≤ l.graceEnd

/-- When the load ceases to matter: it is done, or its grace ends. -/
def endsAt (l : LateLoad) : Nat :=
  if l.arrives then l.sentAt + l.reply.delay?.getD 0 else l.graceEnd

/-- The playlist to keep when the load arrives. -/
def playlist? (l : LateLoad) : Option Playlist :=
  match l.reply.outcome? with
  | none => none
  | some outcome =>
    match outcome.accept l.query with
    | .ok p => if p.isEmpty then none else some p
    | .error _ => none

end LateLoad

/-- The state that requests share. Late loads are listed in the order in which they were sent, and
`aborted` holds those whose grace ended before they did. -/
structure Engine where
  settings : Engine.Settings
  cache : ResultCache
  cooldown : Cooldown
  metrics : Metrics := {}
  wall : Nat
  clock : Nat := 0
  late : List LateLoad := []
  aborted : List LateLoad := []

namespace Engine

/-- The wall clock in milliseconds. -/
def wallMs (e : Engine) : Nat := e.wall / 1000

def isDisabled (p : Provider) (e : Engine) : Bool :=
  e.settings.disabled.contains p

/-- The partner of a provider, if it is not disabled. -/
def usablePartner? (p : Provider) (e : Engine) : Option Provider :=
  p.partner.filter fun partner => !e.isDisabled partner

/-- The query at a provider that is not disabled. -/
def validate (q : Query) (e : Engine) : Except ResolveError Query :=
  if !e.isDisabled q.provider then .ok q
  else if q.isAddress then .error (.unsupported q.provider)
  else
    match e.usablePartner? q.provider with
    | some partner => .ok (q.withProvider partner)
    | none => .error (.disabled q.provider)

/-- The query at its provider if that is not cooling down, and otherwise at the partner. -/
def checkCooldown (q : Query) (e : Engine) : Except ResolveError Query :=
  match e.cooldown.remaining? e.wallMs q.provider with
  | none => .ok q
  | some ms =>
    if q.isAddress then .error (.coolingDown q.provider ms)
    else
      match e.usablePartner? q.provider with
      | some partner => .ok (q.withProvider partner)
      | none => .error (.coolingDown q.provider ms)

def keep (q : Query) (p : Playlist) (e : Engine) : Engine :=
  { e with cache := (e.cache.store e.wall q p).2 }

/-- Increases a counter by one. -/
def count (c : Counter) (e : Engine) : Engine :=
  { e with metrics := e.metrics.increment c }

/-- Ends a late load: what arrives goes into the cache, and all else is aborted. -/
def settle (e : Engine) (l : LateLoad) : Engine :=
  if l.arrives then
    match l.playlist? with
    | some p => e.keep l.query p
    | none => e
  else { e with aborted := e.aborted ++ [l] }

/-- Moves the clock to a later time, and ends the late loads that are due by then, in their order. -/
def elapse (time : Nat) (e : Engine) : Engine :=
  let due := (e.late.filter fun l => l.endsAt ≤ time).mergeSort fun a b => a.endsAt ≤ b.endsAt
  let waiting := e.late.filter fun l => !(l.endsAt ≤ time)
  due.foldl settle { e with clock := time, late := waiting }

/-- The failure of a load that gave up. -/
def dropped : LoadFailure :=
  { kind := .other, message := "loader dropped the request without reporting an outcome" }

/-- Starts or prolongs the cooldown of a watched provider that cannot keep up. -/
def coolDown (p : Provider) (error : ResolveError) (e : Engine) : Engine :=
  if error.isThrottling && e.cooldown.tracks p then
    { e with cooldown := (e.cooldown.trigger e.wallMs e.settings.cooldownMs p).2 }
  else e

/-- Sends a query and waits for the answer, but no longer than the timeout. The wall clock stands still meanwhile. -/
def dispatch (answer : String → Reply) (q : Query) (e : Engine) :
    Except ResolveError Playlist × Engine :=
  let reply := answer q.request
  if reply.isInTime e.settings.timeoutMs then
    let e := e.elapse (e.clock + reply.delay?.getD 0)
    match (reply.outcome?.getD (.failed dropped)).accept q with
    | .ok p => (.ok p, e)
    | .error f => (.error f.classify, e.coolDown q.provider f.classify)
  else
    let timeout := e.clock + e.settings.timeoutMs
    let load : LateLoad :=
      { query := q, reply, sentAt := e.clock, graceEnd := timeout + e.settings.graceMs }
    let e := e.elapse timeout
    (.error (.timedOut e.settings.timeoutMs), elapse timeout { e with late := e.late ++ [load] })

/-- How a request ended: its result, the query as it was in the end, and the text that was sent. -/
structure Resolution where
  result : Except ResolveError Playlist
  query : Query
  sent : Option String

/-- Counts the tracks of an answer from the loader, and keeps it. -/
def welcome (q : Query) (p : Playlist) (e : Engine) : Engine :=
  if p.isEmpty then e
  else
    keep q p { e with
      metrics := (e.metrics.add .tracksLoaded (UInt64.ofNat p.length)).increment Outcome.live.counter }

/-- Sends an admitted query, and welcomes the answer. -/
def load (answer : String → Reply) (q : Query) (e : Engine) : Resolution × Engine :=
  match e.dispatch answer q with
  | (.error error, e) => (⟨.error error, q, some q.request⟩, e)
  | (.ok p, e) => (⟨.ok p, q, some q.request⟩, e.welcome q p)

/-- Answers an admitted query from the cache if it may be asked and knows the answer, and otherwise
sends it. -/
def answerAdmitted (answer : String → Reply) (useCache : Bool) (q : Query) (e : Engine) :
    Resolution × Engine :=
  if useCache then
    let (found, cache) := e.cache.lookup e.wall q
    let e := { e with cache }
    match found with
    | some (p, _) => (⟨.ok p, q, none⟩, (e.count .cacheHits).count Outcome.cache.counter)
    | none => e.load answer q
  else e.load answer q

/-- Admits a query or refuses it. A refused query stays at the provider it has reached. -/
def admission (q : Query) (e : Engine) : Except (ResolveError × Query) Query :=
  match e.validate q with
  | .error error => .error (error, q)
  | .ok q =>
    match e.checkCooldown q with
    | .error error => .error (error, q)
    | .ok q => .ok q

/-- Counts how a request ended, as far as that has not been done yet. -/
def countEnd (result : Except ResolveError Playlist) (e : Engine) : Engine :=
  match result with
  | .ok p => if p.isEmpty then e.count Outcome.empty.counter else e
  | .error _ => (e.count .loadFailures).count Outcome.exception.counter

/-- One request, which may be kept from asking the cache. -/
def resolve (answer : String → Reply) (useCache : Bool) (q : Query) (e : Engine) :
    Resolution × Engine :=
  let e := e.count .requestsIssued
  let (resolution, e) : Resolution × Engine :=
    match e.admission q with
    | .error (error, q) => (⟨.error error, q, none⟩, e)
    | .ok q => e.answerAdmitted answer useCache q
  (resolution, e.countEnd resolution.result)

end Engine

end Jukebox
