import PageHarvest.Proofs.Retry

/-!
The backoff in machine words. Attempts and factors have 32 bits, and a span is kept
as seconds of 64 bits and the nanoseconds that are left over. Some operations stop
at the largest word or at the longest span; the others have no result where the
exact one does not fit. For every policy and every attempt the backoff has a result
in words, and it is the one of exact arithmetic.
-/

namespace PageHarvest

/-- A number as a word, if it fits. -/
def word32? (n : Nat) : Option UInt32 := if n < 2 ^ 32 then some (UInt32.ofNat n) else none

def word64? (n : Nat) : Option UInt64 := if n < 2 ^ 64 then some (UInt64.ofNat n) else none

theorem word32?_of_lt {n : Nat} (h : n < 2 ^ 32) :
    ∃ w, word32? n = some w ∧ w.toNat = n :=
  ⟨UInt32.ofNat n, if_pos h, UInt32.toNat_ofNat_of_lt' h⟩

theorem word64?_of_lt {n : Nat} (h : n < 2 ^ 64) :
    ∃ w, word64? n = some w ∧ w.toNat = n :=
  ⟨UInt64.ofNat n, if_pos h, UInt64.toNat_ofNat_of_lt' h⟩

theorem word64?_of_le {n : Nat} (h : 2 ^ 64 ≤ n) : word64? n = none := if_neg (Nat.not_lt.mpr h)

/-- A span in words. The nanoseconds make up less than a second. -/
structure Span where
  seconds : UInt64
  nanos : UInt32
  nanos_lt : nanos.toNat < 1000000000

namespace Span

def duration (s : Span) : Nat := s.seconds.toNat * 1000000000 + s.nanos.toNat

def longest : Span := ⟨18446744073709551615, 999999999, by decide⟩

theorem duration_longest : longest.duration = Duration.longest := rfl

theorem duration_le (s : Span) : s.duration ≤ 18446744073709551615999999999 := by
  have hseconds := s.seconds.toNat_lt
  have hnanos := s.nanos_lt
  rw [duration]
  omega

def ofDuration (d : Duration) : Span where
  seconds := UInt64.ofNat (d / 1000000000)
  nanos := UInt32.ofNat (d % 1000000000)
  nanos_lt := by
    have hmod : d % 1000000000 < 1000000000 := Nat.mod_lt _ (by decide)
    rw [UInt32.toNat_ofNat']
    omega

theorem duration_ofDuration {d : Duration} (h : d ≤ Duration.longest) :
    (ofDuration d).duration = d := by
  have hsplit : d / 1000000000 * 1000000000 + d % 1000000000 = d := Nat.div_add_mod' d 1000000000
  have hmod : d % 1000000000 < 1000000000 := Nat.mod_lt _ (by decide)
  have hdiv : d / 1000000000 < 2 ^ 64 := Nat.div_lt_of_lt_mul (Nat.lt_of_le_of_lt h (by decide))
  rw [duration, ofDuration, UInt64.toNat_ofNat', UInt32.toNat_ofNat', Nat.mod_eq_of_lt hdiv,
    Nat.mod_eq_of_lt (Nat.lt_trans hmod (by decide)), hsplit]

def least (s t : Span) : Span :=
  if s.seconds < t.seconds ∨ s.seconds = t.seconds ∧ s.nanos ≤ t.nanos then s else t

theorem duration_least (s t : Span) : (s.least t).duration = min s.duration t.duration := by
  have hs := s.nanos_lt
  have ht := t.nanos_lt
  simp only [least, UInt64.lt_iff_toNat_lt, UInt32.le_iff_toNat_le, ← UInt64.toNat_inj]
  split
  · simp only [duration]
    omega
  · simp only [duration]
    omega

/-- What is left over of nanoseconds fits in 32 bits. -/
theorem toNat_leftover (nanos : UInt64) :
    (nanos % 1000000000).toUInt32.toNat = nanos.toNat % 1000000000 := by
  have hmod : (nanos % 1000000000).toNat = nanos.toNat % 1000000000 := UInt64.toNat_mod _ _
  rw [UInt64.toNat_toUInt32, hmod]
  omega

theorem leftover_lt (nanos : UInt64) : (nanos % 1000000000).toUInt32.toNat < 1000000000 := by
  rw [toNat_leftover]
  exact Nat.mod_lt _ (by decide)

/-- A multiple, or the longest span if that is shorter. The seconds may overflow,
and then the span is the longest one; the nanoseconds must not. -/
def times (s : Span) (n : UInt32) : Option Span := do
  let nanos ← word64? (s.nanos.toNat * n.toNat)
  let seconds? := do
    let seconds ← word64? (s.seconds.toNat * n.toNat)
    word64? (seconds.toNat + (nanos / 1000000000).toNat)
  match seconds? with
  | none => return longest
  | some seconds => return ⟨seconds, (nanos % 1000000000).toUInt32, leftover_lt nanos⟩

/-- The product of the nanoseconds always fits, and where the seconds do not, the
multiple is longer than the longest span. -/
theorem times_eq (s : Span) (n : UInt32) :
    ∃ t, s.times n = some t ∧ t.duration = Duration.times s.duration n.toNat := by
  have hproduct : s.duration * n.toNat =
      s.seconds.toNat * n.toNat * 1000000000 + s.nanos.toNat * n.toNat := by
    rw [duration, Nat.add_mul, Nat.mul_right_comm]
  have hfits : s.nanos.toNat * n.toNat < 2 ^ 64 := by
    have hless := Nat.mul_lt_mul'' s.nanos_lt n.toNat_lt
    omega
  obtain ⟨nanos, hnanos, hexact⟩ := word64?_of_lt hfits
  -- The seconds can overflow in the product or when the carry is added.
  have hcarry : (nanos / 1000000000).toNat = nanos.toNat / 1000000000 := UInt64.toNat_div _ _
  simp only [times, hnanos, Option.bind_eq_bind, Option.bind_some, Option.pure_def]
  by_cases hseconds : s.seconds.toNat * n.toNat < 2 ^ 64
  · obtain ⟨seconds, hsome, hvalue⟩ := word64?_of_lt hseconds
    rw [hsome, Option.bind_some]
    by_cases hsum : seconds.toNat + (nanos / 1000000000).toNat < 2 ^ 64
    · obtain ⟨total, htotal, htotalValue⟩ := word64?_of_lt hsum
      rw [htotal]
      refine ⟨_, rfl, ?_⟩
      rw [Duration.times_of_le]
      · rw [hproduct]
        change total.toNat * 1000000000 + (nanos % 1000000000).toUInt32.toNat = _
        rw [toNat_leftover]
        omega
      · omega
    · rw [word64?_of_le (Nat.not_lt.mp hsum)]
      refine ⟨longest, rfl, ?_⟩
      rw [duration_longest, Duration.times_of_ge]
      omega
  · rw [word64?_of_le (Nat.not_lt.mp hseconds)]
    refine ⟨longest, rfl, ?_⟩
    rw [duration_longest, Duration.times_of_ge]
    omega

end Span

namespace Backoff

/-- The first delay as it has grown by an attempt. The step before the attempt
stops at zero, and the power at the largest word. -/
def grown (b : Backoff) (initial : Span) (attempt : UInt32) : Option Span :=
  let step := if attempt = 0 then 0 else attempt - 1
  match b with
  | .constant => some initial
  | .linear => do initial.times (← word32? (step.toNat + 1))
  | .exponential => initial.times ((word32? (2 ^ step.toNat)).getD 4294967295)

theorem toNat_step (attempt : UInt32) :
    (if attempt = 0 then 0 else attempt - 1).toNat = attempt.toNat - 1 := by
  split
  · rename_i hzero
    rw [hzero]
    rfl
  · rename_i hpos
    have hle : 1 ≤ attempt := by
      rw [UInt32.le_iff_toNat_le, UInt32.toNat_one]
      exact Nat.one_le_iff_ne_zero.mpr fun h => hpos (UInt32.toNat_inj.mp h)
    rw [UInt32.toNat_sub_of_le _ _ hle, UInt32.toNat_one]

theorem toNat_power (step : Nat) :
    ((word32? (2 ^ step)).getD 4294967295).toNat =
      if step < 32 then Nat.pow 2 step else 4294967295 := by
  split
  · rename_i hsmall
    obtain ⟨power, hpower, hvalue⟩ := word32?_of_lt (Nat.pow_lt_pow_right Nat.one_lt_two hsmall)
    rw [hpower, Option.getD_some, hvalue, Nat.pow_eq]
  · rename_i hlarge
    have hge : 2 ^ 32 ≤ 2 ^ step := Nat.pow_le_pow_right Nat.two_pos (Nat.not_lt.mp hlarge)
    rw [word32?, if_neg (Nat.not_lt.mpr hge)]
    rfl

theorem grown_eq (b : Backoff) (initial : Span) (attempt : UInt32) :
    ∃ s, b.grown initial attempt = some s ∧
      s.duration = Duration.times initial.duration (b.factor attempt.toNat) := by
  cases b with
  | constant =>
      have hfits := initial.duration_le
      refine ⟨initial, rfl, ?_⟩
      simp only [factor]
      rw [Duration.times_of_le (by omega), Nat.mul_one]
  | linear =>
      have hfits : attempt.toNat - 1 + 1 < 2 ^ 32 := by
        have hattempt := attempt.toNat_lt
        omega
      obtain ⟨factor, hfactor, hvalue⟩ := word32?_of_lt hfits
      obtain ⟨s, hs, hduration⟩ := initial.times_eq factor
      refine ⟨s, ?_, ?_⟩
      · simp only [grown, toNat_step, hfactor, Option.bind_eq_bind, Option.bind_some, hs]
      · rw [hduration, hvalue]
        rfl
  | exponential =>
      obtain ⟨s, hs, hduration⟩ :=
        initial.times_eq ((word32? (2 ^ (attempt.toNat - 1))).getD 4294967295)
      refine ⟨s, ?_, ?_⟩
      · simp only [grown, toNat_step, hs]
      · rw [hduration, toNat_power]
        rfl

end Backoff

namespace RetryPolicy

def wordBackoff (p : RetryPolicy) (attempt : UInt32) : Option Span := do
  let delay ← p.backoff.grown (.ofDuration p.initial) attempt
  return delay.least (.ofDuration p.cap)

theorem wordBackoff_eq (p : RetryPolicy) (hinitial : p.initial ≤ .longest)
    (hcap : p.cap ≤ .longest) (attempt : UInt32) :
    ∃ s, p.wordBackoff attempt = some s ∧ s.duration = p.backoffAfter attempt.toNat := by
  obtain ⟨delay, hdelay, hduration⟩ := p.backoff.grown_eq (.ofDuration p.initial) attempt
  refine ⟨delay.least (.ofDuration p.cap), by simp [wordBackoff, hdelay], ?_⟩
  rw [Span.duration_least, hduration, Span.duration_ofDuration hinitial,
    Span.duration_ofDuration hcap, backoffAfter]

/-- The backoff is the least of the cap and the first delay times its growth, and
comes out of words without an overflow. It never decreases, and the cap holds for
it as for every delay; a server that asks for a delay gets the longer of both. -/
theorem backoff_is_exact (p : RetryPolicy) (hinitial : p.initial ≤ Duration.longest)
    (hcap : p.cap ≤ Duration.longest) :
    (∀ attempt : UInt32,
        p.backoffAfter attempt.toNat =
            min p.cap (p.initial * p.backoff.growth attempt.toNat) ∧
          ∃ s, p.wordBackoff attempt = some s ∧
            s.duration = p.backoffAfter attempt.toNat) ∧
      (∀ early late : UInt32, early ≤ late →
        p.backoffAfter early.toNat ≤ p.backoffAfter late.toNat) ∧
      (∀ attempt, p.backoffAfter attempt ≤ p.cap) ∧
      (∀ e attempt,
        p.backoffAfter attempt ≤ p.delayFor e attempt ∧ p.delayFor e attempt ≤ p.cap) ∧
      (∀ few many attempt, few ≤ many →
        p.delayFor (.rateLimited few) attempt ≤ p.delayFor (.rateLimited many) attempt) ∧
      ∀ seconds attempt, p.delayFor (.rateLimited seconds) attempt =
        min p.cap (max (Duration.ofSeconds seconds) (p.backoffAfter attempt)) := by
  refine ⟨?_, ?_, p.backoffAfter_le_cap, ?_, ?_, p.delayFor_rateLimited_eq⟩
  · intro attempt
    exact ⟨p.backoffAfter_eq hcap attempt.toNat, p.wordBackoff_eq hinitial hcap attempt⟩
  · intro early late hle
    exact p.backoffAfter_mono (UInt32.le_iff_toNat_le.mp hle)
  · intro e attempt
    exact ⟨p.backoffAfter_le_delayFor e attempt, p.delayFor_le_cap e attempt⟩
  · intro few many attempt hle
    exact p.delayFor_rateLimited_mono hle attempt

namespace Sample

/-- Half a second more than 31 bits hold of seconds, doubled without a cap. -/
def doubling : RetryPolicy where
  initial := 2147483648500000000
  cap := Duration.longest
  backoff := .exponential

end Sample

/-- The factor is at its largest, and half of the seconds are carried over from
the nanoseconds. -/
theorem backoff_of_largest_factor :
    Sample.doubling.initial ≤ Duration.longest ∧ Sample.doubling.cap ≤ Duration.longest ∧
      Sample.doubling.backoffAfter 33 = 9223372036854775807500000000 ∧
      ∃ s, Sample.doubling.wordBackoff 33 = some s ∧ s.duration = 9223372036854775807500000000 := by
  have hinitial : Sample.doubling.initial ≤ Duration.longest := by decide
  have hcap : Sample.doubling.cap ≤ Duration.longest := by decide
  obtain ⟨hbackoff, s, hs, hduration⟩ := (backoff_is_exact Sample.doubling hinitial hcap).1 33
  have hvalue : Sample.doubling.backoffAfter 33 = 9223372036854775807500000000 :=
    hbackoff.trans (by decide)
  exact ⟨hinitial, hcap, hvalue, s, hs, hduration.trans hvalue⟩

end RetryPolicy

end PageHarvest
