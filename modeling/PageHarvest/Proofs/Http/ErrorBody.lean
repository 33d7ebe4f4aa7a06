import PageHarvest.Http.Answer
import PageHarvest.Proofs.Text.Boundary
import PageHarvest.Proofs.Text.Utf8

/-!
What an error keeps of the body of an answer. A failed answer other than one to too many
requests becomes an error with its status and the beginning of its body in whole characters,
the longest one within the limit.
-/

namespace PageHarvest.Http

variable {answer : Answer}

/-- A body that is UTF-8 is read as the text that it was written for. -/
theorem Answer.bodyText_of_utf8Bytes {text : String}
    (h : answer.body = Text.utf8Bytes text.toList) : answer.bodyText = text := by
  rw [bodyText, h, Text.utf8CharsLenient_utf8Bytes, String.ofList_toList]

theorem Answer.errorText_of_whole (h : answer.isWhole = true) :
    Text.IsLongestWithin 2048 answer.bodyText answer.errorText := by
  rw [errorText, if_pos h]
  exact Text.isLongestWithin_truncate answer.bodyText errorLimit

theorem Answer.errorText_of_cutShort (h : answer.isWhole = false) : answer.errorText = "" := by
  rw [errorText, h]
  rfl

theorem Answer.errorText_begins (answer : Answer) :
    answer.errorText.toList <+: answer.bodyText.toList ∧ answer.errorText.utf8ByteSize ≤ 2048 := by
  cases hwhole : answer.isWhole with
  | true =>
      have hlongest := errorText_of_whole hwhole
      exact ⟨hlongest.begins, hlongest.size_le⟩
  | false =>
      rw [errorText_of_cutShort hwhole]
      exact ⟨List.nil_prefix, by decide⟩

theorem Outcome.judge_failed (url : String) (timeout : Duration) (hstatus : answer.status ≠ 429)
    (hfailed : answer.isSuccess = false) :
    (Outcome.answered answer).judge url timeout =
      .error (.httpStatus answer.status answer.errorText) := by
  simp [judge, Answer.judge, tooManyRequests, hstatus, hfailed]

/-- The way back from any limit finds a boundary before it would lead below zero, and what
is left of a text is its longest beginning in whole characters that fits. The error of a
failed answer keeps so much of a whole body, and nothing of one that broke off. -/
theorem error_body_is_cut_safely :
    (∀ (text : String) (limit : Nat),
      (∃ found, Text.lastBoundary? text limit = some found ∧ found.offset.byteIdx ≤ limit) ∧
        Text.IsLongestWithin limit text (Text.truncate text limit) ∧
        (text.utf8ByteSize ≤ limit → Text.truncate text limit = text) ∧
        (limit < text.utf8ByteSize → limit < (Text.truncate text limit).utf8ByteSize + 4)) ∧
      ∀ (answer : Answer) (url : String) (timeout : Duration),
        answer.status ≠ 429 → answer.isSuccess = false →
          ∃ kept,
            (Outcome.answered answer).judge url timeout =
              .error (.httpStatus answer.status kept) ∧
            kept.toList <+: answer.bodyText.toList ∧ kept.utf8ByteSize ≤ 2048 ∧
            (answer.isWhole = true → Text.IsLongestWithin 2048 answer.bodyText kept) ∧
            (answer.isWhole = false → kept = "") := by
  constructor
  · intro text limit
    obtain ⟨found, hfound⟩ := Text.exists_lastBoundary? text limit
    have hwithin := (Text.lastBoundary?_isGreatest hfound).1.2
    have hlongest := Text.isLongestWithin_truncate text limit
    exact ⟨⟨found, hfound, hwithin⟩, hlongest, Text.truncate_of_fits, hlongest.limit_lt⟩
  · intro answer url timeout hstatus hfailed
    obtain ⟨hbegins, hsize⟩ := answer.errorText_begins
    exact ⟨answer.errorText, Outcome.judge_failed url timeout hstatus hfailed, hbegins, hsize,
      Answer.errorText_of_whole, Answer.errorText_of_cutShort⟩

namespace Sample

def letters (count : Nat) : String := String.ofList (List.replicate count 'a')

def failed : Answer where
  status := 502
  body := Text.utf8Bytes ((letters 2047).push 'é').toList

theorem size_letters (count : Nat) : (letters count).utf8ByteSize = count := by
  have hsize : (String.utf8EncodeChar 'a').length = 1 := rfl
  rw [letters, ← String.size_toByteArray, String.toByteArray_ofList, List.utf8Encode,
    List.size_toByteArray, List.length_flatMap, List.map_replicate, List.sum_replicate_nat, hsize,
    Nat.mul_one]

theorem letters_longest : Text.IsLongestWithin 2048 failed.bodyText (letters 2047) := by
  rw [Answer.bodyText_of_utf8Bytes rfl]
  refine ⟨?_, by rw [size_letters]; decide, fun other hbegins hsize => ?_⟩
  · rw [String.toList_push]
    exact List.prefix_append _ _
  · rw [String.toList_push, List.prefix_concat_iff] at hbegins
    rcases hbegins with hall | hbegins
    · have hpush : other = (letters 2047).push 'é' :=
        String.toList_injective (by rw [hall, String.toList_push])
      have hlarge : ('é' : Char).utf8Size = 2 := by decide
      rw [hpush, String.utf8ByteSize_push, size_letters, hlarge] at hsize
      omega
    · exact hbegins

end Sample

/-- Only the first byte of the last character would fit, so the error ends before it. -/
theorem split_char_is_left_out :
    (Sample.failed.status ≠ 429 ∧ Sample.failed.isSuccess = false) ∧
      (Outcome.answered Sample.failed).judge "" 0 =
        .error (.httpStatus 502 (Sample.letters 2047)) := by
  have hstatus : Sample.failed.status ≠ 429 := by decide
  have hfailed : Sample.failed.isSuccess = false := rfl
  obtain ⟨-, herror⟩ := error_body_is_cut_safely
  obtain ⟨kept, hjudge, -, -, hwhole, -⟩ := herror Sample.failed "" 0 hstatus hfailed
  obtain rfl := (hwhole rfl).unique Sample.letters_longest
  exact ⟨⟨hstatus, hfailed⟩, hjudge⟩

end PageHarvest.Http
