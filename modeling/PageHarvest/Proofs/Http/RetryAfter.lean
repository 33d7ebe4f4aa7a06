import Mathlib.Data.List.Induction
import PageHarvest.Http.Answer
import PageHarvest.Proofs.Retry
import PageHarvest.Sync.Fetch

/-!
How long a server can make a sync wait. A server that was asked too often may name
a number of seconds; the next attempt then waits at least that long, or for the cap
of the policy if that is shorter. The number is read with 64 bits only. One that
needs more of them counts as none, and the delay is that of any other failure.
-/

namespace PageHarvest

namespace Text

theorem trimChars_digits {digits : List Char} (hdigits : ∀ c ∈ digits, c.isDigit = true) :
    trimChars digits = digits := by
  have hstart : trimStart digits = digits := by
    cases digits with
    | nil => rfl
    | cons c rest => exact trimStart_of_head rest (isBlankChar_of_isDigit (hdigits c (by simp)))
  rw [trimChars, hstart]
  cases digits using List.reverseRecOn with
  | nil => rfl
  | append_singleton front c =>
      exact trimEnd_concat_of_not_blank front (isBlankChar_of_isDigit (hdigits c (by simp)))

theorem numeral?_digits {digits : List Char} (hne : digits ≠ [])
    (hdigits : ∀ c ∈ digits, c.isDigit = true) : numeral? digits = some (digitsValue digits) := by
  have hall : digits.all Char.isDigit = true := List.all_eq_true.mpr hdigits
  simp [numeral?, hne, hall]

theorem natOfBits?_digits (bits : Nat) {digits : List Char} (hne : digits ≠ [])
    (hdigits : ∀ c ∈ digits, c.isDigit = true) :
    natOfBits? bits digits =
      if digitsValue digits < 2 ^ bits then some (digitsValue digits) else none := by
  have hsign : digits.head? ≠ some '+' := by
    intro hplus
    have hdigit := hdigits '+' (List.mem_of_mem_head? hplus)
    revert hdigit
    decide
  simp [natOfBits?, hsign, numeral?_digits hne hdigits]

end Text

namespace Http

variable {answer : Answer} {digits : List Char}

/-- A number counts as long as it fits in 64 bits, and as none beyond. -/
theorem Answer.retryAfter_digits
    (hheader : answer.header? "retry-after" = some (String.ofList digits)) (hne : digits ≠ [])
    (hdigits : ∀ c ∈ digits, c.isDigit = true) :
    answer.retryAfter =
      if Text.digitsValue digits < 2 ^ 64 then Text.digitsValue digits else 0 := by
  have hvisible : ∀ c ∈ digits, (c == '\t' || (0x20 ≤ c.toNat && c.toNat < 0x7F)) = true := by
    intro c hc
    have hrange := Text.isDigit_range (hdigits c hc)
    simp only [Bool.or_eq_true, Bool.and_eq_true, decide_eq_true_eq]
    omega
  simp only [retryAfter, hheader, Option.filter_some, String.toList_ofList,
    List.all_eq_true.mpr hvisible, if_true, Option.bind_some, Text.trimChars_digits hdigits,
    Text.natOfBits?_digits 64 hne hdigits]
  split <;> rfl

theorem Outcome.judge_tooManyRequests (url : String) (timeout : Duration)
    (hstatus : answer.status = tooManyRequests) :
    (Outcome.answered answer).judge url timeout = .error (.rateLimited answer.retryAfter) := by
  simp [judge, Answer.judge, hstatus]

end Http

namespace Sync

open Http (Answer Outcome)

/-- After an answer to too many requests that names a number of seconds, the next
attempt is put off for that long or for the cap of the policy, whichever is
shorter, if the number fits in 64 bits. If it does not, the attempt is put off as
if there were no number. -/
theorem retry_after_is_honoured (policy : RetryPolicy) (request : Request) {attempt : Nat}
    {answer : Answer} {digits : List Char} (url : String) (timeout : Duration)
    (hattempt : attempt < policy.maxAttempts.toNat)
    (hstatus : answer.status = Http.tooManyRequests)
    (hheader : answer.header? "retry-after" = some (String.ofList digits)) (hne : digits ≠ [])
    (hdigits : ∀ c ∈ digits, c.isDigit = true) :
    ∃ delay,
      (Fetch.sending request attempt).step? policy
          (.answered ((Outcome.answered answer).judge url timeout)) =
        some (.ongoing (.waiting request attempt delay)) ∧
      (Text.digitsValue digits < 2 ^ 64 →
        min (Duration.ofSeconds (Text.digitsValue digits)) policy.cap ≤ delay) ∧
      (2 ^ 64 ≤ Text.digitsValue digits → delay = policy.backoffAfter attempt) := by
  have hretry : policy.shouldRetry (.rateLimited answer.retryAfter) attempt = true := by
    simp [RetryPolicy.shouldRetry, Error.isRetryable, hattempt]
  have hread := Answer.retryAfter_digits hheader hne hdigits
  refine ⟨policy.delayFor (.rateLimited answer.retryAfter) attempt, ?_, ?_, ?_⟩
  · rw [Outcome.judge_tooManyRequests url timeout hstatus]
    simp [Fetch.step?, Fetch.afterFailure, hretry]
  · intro hfits
    rw [hread, if_pos hfits, RetryPolicy.delayFor_rateLimited]
    exact le_max_right _ _
  · intro hlarge
    rw [hread, if_neg (Nat.not_lt.mpr hlarge), RetryPolicy.delayFor_rateLimited]
    have hzero : min (Duration.ofSeconds 0) policy.cap = 0 := Nat.zero_min _
    rw [hzero]
    exact max_eq_left (Nat.zero_le _)

namespace Sample

def limited (seconds : String) : Answer where
  status := 429
  headers := [("retry-after", seconds)]

def asked : Request :=
  .empty .post ⟨"https", some ⟨"", "api.example.com", none⟩, "/graphql", none, none⟩

end Sample

/-- Seven seconds are longer than the first backoff of half a second. -/
theorem seven_seconds_are_waited :
    (1 < ({} : RetryPolicy).maxAttempts.toNat ∧
        (Sample.limited "7").header? "retry-after" = some (String.ofList ['7'])) ∧
      ∃ delay,
        (Fetch.sending Sample.asked 1).step? {}
            (.answered ((Outcome.answered (Sample.limited "7")).judge "" 0)) =
          some (.ongoing (.waiting Sample.asked 1 delay)) ∧
        Duration.ofSeconds 7 ≤ delay := by
  have hattempt : 1 < ({} : RetryPolicy).maxAttempts.toNat := by decide
  have hheader : (Sample.limited "7").header? "retry-after" = some (String.ofList ['7']) := rfl
  obtain ⟨delay, hstep, hleast, -⟩ := retry_after_is_honoured {} Sample.asked "" 0 hattempt rfl
    hheader (List.cons_ne_nil _ _) (List.forall_mem_singleton.mpr rfl)
  have hwanted : Duration.ofSeconds 7 =
      min (Duration.ofSeconds (Text.digitsValue ['7'])) ({} : RetryPolicy).cap := by decide
  exact ⟨⟨hattempt, hheader⟩, delay, hstep, hwanted.trans_le (hleast (by decide))⟩

/-- After a number that needs one bit more, half a second is waited, although the
cap is longer. -/
theorem large_number_is_dropped :
    (Sample.limited "18446744073709551616").header? "retry-after" =
        some "18446744073709551616" ∧
      (Fetch.sending Sample.asked 1).step? {}
          (.answered ((Outcome.answered (Sample.limited "18446744073709551616")).judge "" 0)) =
        some (.ongoing (.waiting Sample.asked 1 (Duration.ofMillis 500))) ∧
      Duration.ofMillis 500 <
        min (Duration.ofSeconds (Text.digitsValue "18446744073709551616".toList))
          ({} : RetryPolicy).cap := by
  refine ⟨rfl, ?_, by decide⟩
  have hnone : (Sample.limited "18446744073709551616").retryAfter = 0 := by decide +kernel
  rw [Outcome.judge_tooManyRequests "" 0 rfl, hnone]
  rfl

end Sync

end PageHarvest
