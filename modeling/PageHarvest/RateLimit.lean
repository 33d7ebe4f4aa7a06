/-!
Limiting the rate of requests. Permits become due at a steady rate, and a number
of them may be taken at once. The limiter keeps the time at which the next
permit would be due if none were taken early; times are in nanoseconds.
-/

namespace PageHarvest

/-- The allowed rate. Zero is taken as one. -/
structure RateLimit where
  perSecond : Nat
  /-- How many permits may be taken at once. -/
  burst : Nat := 1
deriving DecidableEq, Repr

namespace RateLimit

def interval (r : RateLimit) : Nat := 1000000000 / max r.perSecond 1

/-- How far ahead of its due time a permit may be taken. -/
def tolerance (r : RateLimit) : Nat := r.interval * max r.burst 1

end RateLimit

/-- A limiter at work: the limit, and when the next permit is due. -/
structure Limiter where
  limit : RateLimit
  due : Nat
deriving DecidableEq, Repr

namespace Limiter

def start (limit : RateLimit) (now : Nat) : Limiter := ⟨limit, now + limit.interval⟩

/-- The earliest time at which the next permit can be taken. -/
def ready (l : Limiter) : Nat := l.due - l.limit.tolerance

def acquire (l : Limiter) (now : Nat) : Bool × Limiter :=
  if l.ready ≤ now then (true, { l with due := max l.due now + l.limit.interval }) else (false, l)

/-- Tries several times at one moment. -/
def acquireMany (l : Limiter) (now : Nat) : Nat → List Bool × Limiter
  | 0 => ([], l)
  | n + 1 =>
      let (taken, l) := l.acquire now
      let (more, l) := l.acquireMany now n
      (taken :: more, l)

end Limiter

end PageHarvest
