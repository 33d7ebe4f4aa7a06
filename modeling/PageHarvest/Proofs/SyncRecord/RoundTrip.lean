import PageHarvest.Proofs.Instant.Validity
import PageHarvest.Proofs.SyncRecord

/-!
Records that are written are read back. The only thing a record needs for that is a
time that exists, and the time of every record that was read exists, however its text
spells it.
-/

namespace PageHarvest.SyncRecord

open Json

theorem isValid_of_readInstant {document : Document} {t : Instant}
    (h : readInstant document = some t) : t.isValid = true := by
  unfold readInstant at h
  split at h
  · exact Instant.isValid_of_parseChars? h
  · cases h

/-- A time found among the members exists, if the one before them does. -/
theorem isValid_of_readMembers {members : List (Option String × Document)} {found last : Found}
    (h : readMembers found members = some last) (hfound : ∀ t ∈ found.instant, t.isValid = true) :
    ∀ t ∈ last.instant, t.isValid = true := by
  induction members generalizing found with
  | nil =>
      cases h
      exact hfound
  | cons member members ih =>
      obtain ⟨name, value⟩ := member
      cases name with
      | none => cases h
      | some name =>
          rw [readMembers] at h
          split at h
          · split at h
            · cases h
            · obtain ⟨cursor, -, h⟩ := Option.bind_eq_some_iff.mp h
              exact ih h hfound
          · split at h
            · split at h
              · cases h
              · obtain ⟨t, ht, h⟩ := Option.bind_eq_some_iff.mp h
                refine ih h fun other hother => ?_
                obtain rfl : t = other := Option.some.inj hother
                exact isValid_of_readInstant ht
            · exact ih h hfound

theorem isValid_of_parse? {text : String} {r : SyncRecord} (h : parse? text = some r) :
    r.updatedAt.isValid = true := by
  obtain ⟨document, -, h⟩ := Option.bind_eq_some_iff.mp h
  unfold ofDocument? at h
  split at h
  · obtain ⟨found, hfound, h⟩ := Option.bind_eq_some_iff.mp h
    obtain ⟨t, ht, h⟩ := Option.bind_eq_some_iff.mp h
    cases h
    exact isValid_of_readMembers hfound (by simp) t ht
  · obtain ⟨cursor, -, h⟩ := Option.bind_eq_some_iff.mp h
    obtain ⟨t, ht, h⟩ := Option.bind_eq_some_iff.mp h
    cases h
    exact isValid_of_readInstant ht
  · cases h

/-- Records are read back from their text: those stamped by the clock, those of any
time that exists, and those that were read from another text, whose time exists. -/
theorem render_reads_back :
    (∀ cursor seconds nanos, nanos < 1000000000 →
      (Instant.ofUnix seconds nanos).date.year ≤ 262142 →
        parse? (render ⟨cursor, Instant.ofUnix seconds nanos⟩) =
          some ⟨cursor, Instant.ofUnix seconds nanos⟩) ∧
      (∀ r : SyncRecord, r.updatedAt.isValid = true → parse? r.render = some r) ∧
      ∀ text r, parse? text = some r → r.updatedAt.isValid = true ∧ parse? r.render = some r := by
  refine ⟨?_, ?_, ?_⟩
  · intro cursor seconds nanos hnanos hyear
    exact parse?_render (Instant.isValid_ofUnix hnanos hyear)
  · intro r hr
    exact parse?_render hr
  · intro text r hread
    have hexists := isValid_of_parse? hread
    exact ⟨hexists, parse?_render hexists⟩

namespace Sample

/-- A leap second, told five hours behind UTC on the day before. -/
def leapText : String :=
  "\x7b\"note\": [1, \x7b\x7d], \"updated_at\": \"2016-12-31T18:59:60.1234567891-05:00\"," ++
    "\n \"last_cursor\": \"\\u0061\\n\"\x7d"

def leap : SyncRecord := ⟨some "a\n", ⟨⟨2016, 12, 31⟩, 86399, 1123456789⟩⟩

/-- The first half hour of a year that is still the old one in UTC, as an array. -/
def newYearText : String := "[null, \"2024-01-01t00:30:00.5+0530\"]"

def newYear : SyncRecord := ⟨none, ⟨⟨2023, 12, 31⟩, 68400, 500000000⟩⟩

/-- A record that the clock stamped on a 29th of February. -/
def stamped : SyncRecord := ⟨some "", .ofUnix 1709164800 1⟩

end Sample

/-- Offsets take the time over the end of a day and of a year. -/
theorem render_reads_back_of_offsets :
    parse? Sample.leapText = some Sample.leap ∧ parse? Sample.leap.render = some Sample.leap ∧
      parse? Sample.newYearText = some Sample.newYear ∧
      parse? Sample.newYear.render = some Sample.newYear ∧
      parse? Sample.stamped.render = some Sample.stamped ∧
      Sample.stamped.updatedAt.date = ⟨2024, 2, 29⟩ := by
  obtain ⟨hclock, hwritten, hread⟩ := render_reads_back
  have hleap : parse? Sample.leapText = some Sample.leap := by decide +kernel
  have hnewYear : parse? Sample.newYearText = some Sample.newYear := by decide +kernel
  exact ⟨hleap, (hread _ _ hleap).2, hnewYear, hwritten Sample.newYear (by decide),
    hclock _ _ _ (by decide) (by decide), by decide⟩

end PageHarvest.SyncRecord
