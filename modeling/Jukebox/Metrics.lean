/-!
# Metrics

Counters of 64 bits that only grow, and wrap around. A counter has a name and may have a label.

## Main definitions

* `Jukebox.Counter`: the name and the label of a counter.
* `Jukebox.Metrics`: the counters that were ever increased.
* `Jukebox.Metrics.report`: all counters under their written names, in order.
-/

namespace Jukebox

/-- The name of a counter, and its label. The empty label counts as none. -/
structure Counter where
  name : String
  label : String := ""
  deriving DecidableEq, Repr

namespace Counter

/-- The name with the label in braces, if there is one. -/
def key (c : Counter) : String :=
  if c.label.isEmpty then c.name else c.name ++ "\x7b" ++ c.label ++ "\x7d"

/-- Requests made of the engine. -/
def requestsIssued : Counter := ⟨"requests_issued", ""⟩

def tracksLoaded : Counter := ⟨"tracks_loaded", ""⟩

/-- Requests that ended in an error. -/
def loadFailures : Counter := ⟨"load_failures", ""⟩

/-- Requests answered from the cache. -/
def cacheHits : Counter := ⟨"cache_hits", ""⟩

/-- Submitted requests that queued nothing. -/
def intakeFailures : Counter := ⟨"intake_failures", ""⟩

end Counter

/-- How a request ended. -/
inductive Outcome where
  | cache
  | live
  | empty
  | exception
  deriving DecidableEq, Repr

namespace Outcome

def label : Outcome → String
  | cache => "cache"
  | live => "live"
  | empty => "empty"
  | exception => "exception"

/-- The counter of requests that ended in this way. -/
def counter (o : Outcome) : Counter := ⟨"load_outcome", o.label⟩

end Outcome

/-- The counters that were ever increased. -/
structure Metrics where
  counters : List (Counter × UInt64) := []

namespace Metrics

/-- The value of a counter; one that was never increased stands at zero. -/
def get (c : Counter) (m : Metrics) : UInt64 :=
  (m.counters.lookup c).getD 0

/-- Increases a counter, modulo 2 ^ 64. -/
def add (c : Counter) (n : UInt64) (m : Metrics) : Metrics :=
  if m.counters.any (·.1 = c) then
    ⟨m.counters.map fun (d, v) => if d = c then (d, v + n) else (d, v)⟩
  else ⟨m.counters ++ [(c, n)]⟩

def increment (c : Counter) (m : Metrics) : Metrics :=
  m.add c 1

/-- All counters under their written names, ordered by name and then by value. -/
def report (m : Metrics) : List (String × UInt64) :=
  (m.counters.map fun (c, v) => (c.key, v)).mergeSort fun a b =>
    a.1 < b.1 || (a.1 == b.1 && a.2 ≤ b.2)

/-- All counters, one on a line. -/
def display (m : Metrics) : String :=
  m.report.foldl (fun s (key, value) => s ++ "\n  " ++ key ++ " = " ++ toString value)
    "📊 Métricas:"

end Metrics

end Jukebox
