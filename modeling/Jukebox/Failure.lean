import Jukebox.Provider
import Jukebox.Text.TimeSpan

/-!
# Failures

What can go wrong with a load and with a resolution, and how the one is classified as the other.

## Main definitions

* `Jukebox.LoadFailure`: a failure reported by a loader, with the chain of its causes.
* `Jukebox.ResolveError`: why a request was not resolved.
* `Jukebox.LoadFailure.classify`: the resolution error for a failed load.

## Design notes

A loader that knows what went wrong says so in the kind of the failure. If it does not, the messages are
searched, the outermost first, for the two known signs of an upstream that cannot keep up.
-/

namespace Jukebox

/-- What a loader knows about the nature of a failure. -/
inductive FailureKind where
  | overloaded
  | rateLimited
  | other
  deriving DecidableEq, Repr

def FailureKind.name : FailureKind → String
  | .overloaded => "overloaded"
  | .rateLimited => "rate_limited"
  | .other => "other"

/-- A failure reported by a loader. The causes come outermost first. -/
structure LoadFailure where
  kind : FailureKind
  message : String
  causes : List String := []
  deriving DecidableEq, Repr

/-- Why a request was not resolved. -/
inductive ResolveError where
  /-- The provider is disabled and no other can take over. -/
  | disabled (provider : Provider)
  /-- An address belongs to a disabled provider. -/
  | unsupported (provider : Provider)
  /-- The provider is cooling down for so many milliseconds. -/
  | coolingDown (provider : Provider) (remainingMs : Nat)
  /-- The loader did not answer within so many milliseconds. -/
  | timedOut (ms : Nat)
  | overloaded (failure : LoadFailure)
  | throttled (failure : LoadFailure)
  | rejected (failure : LoadFailure)
  deriving DecidableEq, Repr

namespace ResolveError

/-- The wording of an error. -/
def message : ResolveError → String
  | disabled p => "provider " ++ p.name ++ " is disabled"
  | unsupported p => "unsupported provider: " ++ p.name
  | coolingDown p ms =>
    "provider " ++ p.name ++ " is cooling down for another " ++ Text.timeSpan (ms / 1000)
  | timedOut ms => "upstream load timed out after " ++ toString ms ++ "ms"
  | overloaded _ => "upstream backend overloaded"
  | throttled _ => "upstream is actively throttling requests"
  | rejected f => "upstream rejected the request: " ++ f.message

def failure? : ResolveError → Option LoadFailure
  | overloaded f | throttled f | rejected f => some f
  | disabled _ | unsupported _ | coolingDown .. | timedOut _ => none

/-- The messages behind an error, outermost first. -/
def causes (e : ResolveError) : List String :=
  match e.failure? with
  | some f => f.message :: f.causes
  | none => []

/-- The error was raised before anything was sent to a loader. -/
def isPreDispatch : ResolveError → Bool
  | disabled _ | unsupported _ | coolingDown .. => true
  | timedOut _ | overloaded _ | throttled _ | rejected _ => false

/-- The upstream cannot keep up. -/
def isThrottling : ResolveError → Bool
  | overloaded _ | throttled _ => true
  | disabled _ | unsupported _ | coolingDown .. | timedOut _ | rejected _ => false

end ResolveError

namespace LoadFailure

def overloadSign : String := "503"

/-- The sign of an upstream that limits the rate of requests, in lower case. -/
def rateLimitSign : String := "rate limit reached"

/-- What a single message gives away. The sign of an overload counts first. -/
def kindOfMessage? (message : String) : Option FailureKind :=
  let s := message.toList
  if Text.contains overloadSign.toList s then some .overloaded
  else if Text.contains rateLimitSign.toList (Text.lower s) then some .rateLimited
  else none

/-- The kind of the failure: the reported one, or the first that a message gives away. -/
def effectiveKind (f : LoadFailure) : FailureKind :=
  match f.kind with
  | .other => ((f.message :: f.causes).findSome? kindOfMessage?).getD .other
  | kind => kind

def classify (f : LoadFailure) : ResolveError :=
  match f.effectiveKind with
  | .overloaded => .overloaded f
  | .rateLimited => .throttled f
  | .other => .rejected f

/-- The error keeps the failure as it was. -/
theorem failure?_classify (f : LoadFailure) : f.classify.failure? = some f := by
  unfold classify
  split <;> rfl

end LoadFailure

end Jukebox
