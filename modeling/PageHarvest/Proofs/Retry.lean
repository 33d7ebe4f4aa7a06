import Mathlib.Algebra.GroupWithZero.Nat
import Mathlib.Order.MinMax
import PageHarvest.Retry

/-!
The delays of a retry policy in exact arithmetic. The factors of the backoff grow
as they should until 32 bits are full, and the longest span is longer than every
cap; so the limits of the numbers that are computed with never show in a delay.
What is left is the least of the cap and the first delay times the factor.
-/

namespace PageHarvest

namespace Duration

variable {d n : Nat}

theorem times_of_le (h : d * n ≤ 18446744073709551615999999999) : times d n = d * n :=
  min_eq_left h

theorem times_of_ge (h : 18446744073709551615999999999 ≤ d * n) : times d n = longest :=
  min_eq_right h

end Duration

namespace Backoff

/-- By how much the first delay grows by an attempt. Attempts count from one, and
an attempt zero is taken as the first. -/
def growth (b : Backoff) (attempt : Nat) : Nat :=
  match b with
  | .constant => 1
  | .linear => max attempt 1
  | .exponential => min (2 ^ (attempt - 1)) (2 ^ 32 - 1)

theorem factor_eq_growth (b : Backoff) (attempt : Nat) : b.factor attempt = b.growth attempt := by
  cases b with
  | constant => rfl
  | linear =>
      simp only [factor, growth]
      omega
  | exponential =>
      simp only [factor, growth, Nat.pow_eq]
      split
      · rename_i hsmall
        have hpow : 2 ^ (attempt - 1) ≤ 2 ^ 31 := Nat.pow_le_pow_right Nat.two_pos (by omega)
        omega
      · rename_i hlarge
        have hpow : 2 ^ 32 ≤ 2 ^ (attempt - 1) := Nat.pow_le_pow_right Nat.two_pos (by omega)
        omega

theorem growth_mono (b : Backoff) {early late : Nat} (h : early ≤ late) :
    b.growth early ≤ b.growth late := by
  cases b with
  | constant => exact Nat.le_refl 1
  | linear => exact max_le_max_right 1 h
  | exponential =>
      apply min_le_min_right
      exact Nat.pow_le_pow_right Nat.two_pos (by omega)

end Backoff

namespace RetryPolicy

variable (p : RetryPolicy)

/-- A delay is as long as it is in exact arithmetic. -/
theorem backoffAfter_eq (hcap : p.cap ≤ .longest) (attempt : Nat) :
    p.backoffAfter attempt = min p.cap (p.initial * p.backoff.growth attempt) := by
  rw [backoffAfter, Duration.times, Backoff.factor_eq_growth, min_assoc, min_eq_right hcap, min_comm]

theorem backoffAfter_mono {early late : Nat} (h : early ≤ late) :
    p.backoffAfter early ≤ p.backoffAfter late := by
  have hgrowth := p.backoff.growth_mono h
  simp only [backoffAfter, Duration.times, Backoff.factor_eq_growth]
  apply min_le_min_right
  apply min_le_min_right
  exact Nat.mul_le_mul_left p.initial hgrowth

theorem backoffAfter_le_cap (attempt : Nat) : p.backoffAfter attempt ≤ p.cap := min_le_right _ _

theorem delayFor_rateLimited (seconds attempt : Nat) :
    p.delayFor (.rateLimited seconds) attempt =
      max (p.backoffAfter attempt) (min (.ofSeconds seconds) p.cap) := rfl

theorem backoffAfter_le_delayFor (e : Error) (attempt : Nat) :
    p.backoffAfter attempt ≤ p.delayFor e attempt := by
  cases e with
  | rateLimited seconds => exact le_max_left _ _
  | _ => exact le_refl _

theorem delayFor_le_cap (e : Error) (attempt : Nat) : p.delayFor e attempt ≤ p.cap := by
  cases e with
  | rateLimited seconds => exact max_le (p.backoffAfter_le_cap attempt) (min_le_right _ _)
  | _ => exact p.backoffAfter_le_cap attempt

/-- Whoever asks for a longer delay does not get a shorter one. -/
theorem delayFor_rateLimited_mono {few many : Nat} (h : few ≤ many) (attempt : Nat) :
    p.delayFor (.rateLimited few) attempt ≤ p.delayFor (.rateLimited many) attempt := by
  rw [delayFor_rateLimited, delayFor_rateLimited]
  apply max_le_max_left
  apply min_le_min_right
  exact Nat.mul_le_mul_right _ h

/-- The cap may be applied to the requested delay or to the longer of both. -/
theorem delayFor_rateLimited_eq (seconds attempt : Nat) :
    p.delayFor (.rateLimited seconds) attempt =
      min p.cap (max (.ofSeconds seconds) (p.backoffAfter attempt)) := by
  rw [delayFor_rateLimited, min_max_distrib_left, min_eq_right (p.backoffAfter_le_cap attempt),
    max_comm, min_comm p.cap]

end RetryPolicy

end PageHarvest
