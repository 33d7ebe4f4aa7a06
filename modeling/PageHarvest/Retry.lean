import PageHarvest.Error

/-!
When and how patiently a failed request is sent again. The delay grows with the
number of attempts as the policy says, up to a cap; a server that asks for a
longer delay gets it, up to the same cap. Delays are counted in nanoseconds.
-/

namespace PageHarvest

/-- A span of time in nanoseconds. -/
abbrev Duration := Nat

namespace Duration

/-- The longest span: seconds of 64 bits and one nanosecond less than a second. -/
def longest : Duration := 18446744073709551615 * 1000000000 + 999999999

def ofSeconds (n : Nat) : Duration := n * 1000000000

def ofMillis (n : Nat) : Duration := n * 1000000

def millis (d : Duration) : Nat := d / 1000000

/-- A multiple, or the longest span if that is shorter. -/
def times (d : Duration) (n : Nat) : Duration := min (d * n) longest

end Duration

inductive Backoff where
  | constant
  | linear
  | exponential
deriving DecidableEq, Repr

namespace Backoff

def choices : List (String × Backoff) :=
  [("constant", .constant), ("linear", .linear), ("exponential", .exponential)]

def ofName? (name : String) : Option Backoff := choices.lookup name

def name : Backoff → String
  | .constant => "constant"
  | .linear => "linear"
  | .exponential => "exponential"

/-- By how much the first delay is multiplied after an attempt. Attempts count
from one, and the factor has 32 bits. -/
def factor (b : Backoff) (attempt : Nat) : Nat :=
  let step := attempt - 1
  match b with
  | .constant => 1
  | .linear => step + 1
  | .exponential => if step < 32 then Nat.pow 2 step else 4294967295

end Backoff

structure RetryPolicy where
  /-- All attempts, the first one included. -/
  maxAttempts : UInt32 := 5
  initial : Duration := Duration.ofMillis 500
  cap : Duration := Duration.ofSeconds 30
  backoff : Backoff := .exponential
deriving DecidableEq, Repr

namespace RetryPolicy

instance : Inhabited RetryPolicy := ⟨{}⟩

/-- One attempt and no retry. -/
def never : RetryPolicy := { maxAttempts := 1 }

/-- Sets the number of attempts; there is at least one. -/
def withMaxAttempts (p : RetryPolicy) (n : UInt32) : RetryPolicy := { p with maxAttempts := max n 1 }

def withBackoff (p : RetryPolicy) (b : Backoff) (initial cap : Duration) : RetryPolicy :=
  { p with backoff := b, initial, cap }

def shouldRetry (p : RetryPolicy) (e : Error) (attempt : Nat) : Bool :=
  attempt < p.maxAttempts.toNat && e.isRetryable

def backoffAfter (p : RetryPolicy) (attempt : Nat) : Duration :=
  min (p.initial.times (p.backoff.factor attempt)) p.cap

def delayFor (p : RetryPolicy) (e : Error) (attempt : Nat) : Duration :=
  match e with
  | .rateLimited seconds => max (p.backoffAfter attempt) (min (Duration.ofSeconds seconds) p.cap)
  | _ => p.backoffAfter attempt

end RetryPolicy

end PageHarvest
