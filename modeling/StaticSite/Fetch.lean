import StaticSite.FileTree.Fault
import StaticSite.Location

/-!
# Fetching templates

A template is fetched from its location; an attempt that fails is repeated up to a number of
retries. The last error is reported together with the number of attempts. Attempts are counted with
32 bits, and a fetch that would take more of them than that comes to nothing.
-/

namespace StaticSite

/-- Why a template could not be fetched. -/
inductive FetchError where
  /-- The file could not be read. -/
  | io (location : String) (fault : FileFault)
  /-- The web address could not be reached. -/
  | unreachable (location : String)
  /-- All attempts failed. -/
  | exhausted (location : String) (attempts : Nat) (last : FetchError)
  deriving DecidableEq, Repr

/-- The text of an error. -/
def FetchError.message : FetchError → String
  | .io location fault => "failed to read " ++ location ++ ": " ++ fault.message
  | .unreachable location =>
    "request to " ++ location ++ " failed: error sending request for url (" ++ location ++ ")"
  | .exhausted location attempts last =>
    "giving up on " ++ location ++ " after " ++ toString attempts ++ " attempt(s): " ++ last.message

/-- The error without the count of attempts. -/
def FetchError.cause : FetchError → FetchError
  | .exhausted _ _ last => last.cause
  | e => e

/-- A source of templates: the text at a location, or the reason why there is none. -/
abbrev Source := Location → Except FetchError String

namespace Fetch

/-- The retries of a fetch for which no number is set. -/
def defaultRetries : Nat := 3

/-- The largest number of attempts that can be counted. -/
def maxAttempts : Nat := 4294967295

/-- What a fetch comes to. -/
structure Fetched where
  /-- The number of attempts that were made. -/
  attempts : Nat
  /-- The text or the last error; there is none where one more attempt is due than can be
  counted. -/
  result? : Option (Except FetchError String)
  deriving Repr

/-- The first text among the outcomes of the attempts from one number on. After `retries` more
failures the last error is final. -/
def attemptFrom (location : String) (outcome : Nat → Except FetchError String) (attempt : Nat) :
    (retries : Nat) → Fetched
  | 0 => ⟨attempt, some ((outcome attempt).mapError fun e => .exhausted location attempt e)⟩
  | retries + 1 =>
    match outcome attempt with
    | .ok text => ⟨attempt, some (.ok text)⟩
    | .error _ =>
      if attempt < maxAttempts then attemptFrom location outcome (attempt + 1) retries
      else ⟨attempt, none⟩

/-- Fetches a template whose attempts, counted from one, have the outcomes given. -/
def fetch (retries : Nat) (location : Location) (outcome : Nat → Except FetchError String) :
    Fetched :=
  attemptFrom location.display outcome 1 retries

end Fetch

end StaticSite
