import PageHarvest.Proofs.Connector
import PageHarvest.Proofs.Text.Base64

/-!
The header that basic authentication puts on a request. The user name and the
password are read from the configuration as text, and text has no white space at
its ends: what a server finds in the header are the credentials without it. So
they are sent as they were entered exactly if neither begins or ends with white
space.
-/

namespace PageHarvest

open Settings

theorem requireCredential_eq_ok {mode field text : String} {value : Option String}
    (h : requireCredential mode field value = .ok text) : value = some text := by
  unfold requireCredential at h
  split at h
  · rename_i found hfound
    cases h
    obtain ⟨given, rfl, hgiven⟩ := Option.bind_eq_some_iff.mp hfound
    unfold Text.nonBlank? at hgiven
    split at hgiven
    · cases hgiven
    · exact hgiven
  · cases h

def basicHeaderText (user password : String) : String :=
  "Basic " ++ String.ofList (Text.base64 (Text.utf8Bytes (user ++ ":" ++ password).toList))

theorem basicHeaderText_injective {user password otherUser otherPassword : String}
    (h : basicHeaderText user password = basicHeaderText otherUser otherPassword) :
    user ++ ":" ++ password = otherUser ++ ":" ++ otherPassword := by
  have hencoded := String.ofList_inj.mp ((String.append_right_inj _).mp h)
  exact String.toList_inj.mp (Text.utf8Bytes_injective (Text.base64_injective hencoded))

namespace Text

theorem length_trimChars_le (cs : List Char) : (trimChars cs).length ≤ cs.length := by
  obtain ⟨blanks, happend, -⟩ := trimEnd_append (trimStart cs)
  have hend : (trimStart cs).length = (trimChars cs).length + blanks.length := by
    rw [happend, List.length_append]
    rfl
  have hstart : (trimStart cs).length ≤ cs.length := (List.dropWhile_sublist _).length_le
  omega

/-- A pair of texts is left as it is by trimming only if both texts are. -/
theorem trim_pair_eq_iff {first second : String} :
    trim first ++ ":" ++ trim second = first ++ ":" ++ second ↔
      trim first = first ∧ trim second = second := by
  constructor
  · intro h
    have hlists := congrArg String.toList h
    simp only [trim, String.toList_append, String.toList_ofList, List.append_assoc] at hlists
    have hfirst := length_trimChars_le first.toList
    have hsecond := length_trimChars_le second.toList
    have hlengths := congrArg List.length hlists
    simp only [List.length_append] at hlengths
    obtain ⟨hkept, hlists⟩ := List.append_inj hlists (by omega)
    obtain ⟨-, hkept'⟩ := List.append_inj hlists rfl
    rw [trim, trim, hkept, hkept', String.ofList_toList, String.ofList_toList]
    exact ⟨rfl, rfl⟩
  · rintro ⟨hfirst, hsecond⟩
    rw [hfirst, hsecond]

end Text

namespace Credentials

variable {user password : String} {before after : Request}

theorem apply_basic_ok (h : (basic (some user) (some password)).apply before = .ok after) :
    after.headers = before.headers.insert headerName ⟨basicHeaderText user password, true⟩ := by
  obtain ⟨text, htext, h⟩ := ok_of_bind h
  obtain ⟨sentUser, huser, htext⟩ := ok_of_bind htext
  obtain ⟨sentPassword, hpassword, htext⟩ := ok_of_bind htext
  cases requireCredential_eq_ok huser
  cases requireCredential_eq_ok hpassword
  cases htext
  dsimp only at h
  split at h
  · cases h
    rfl
  · cases h

end Credentials

namespace Connector

variable {c : Configuration} {connector : Connector} {active : ActiveValues}
  {request : Request} {vars : List (String × Json)} {user password : String}

theorem request_basic_header
    (hcredentials : connector.credentials = .basic (some user) (some password))
    (h : connector.request vars = .ok request) :
    request.headers.get? Credentials.headerName = some ⟨basicHeaderText user password, true⟩ := by
  obtain ⟨headers, -, h⟩ := ok_of_bind h
  obtain ⟨signed, hsigned, h⟩ := ok_of_bind h
  rw [hcredentials] at hsigned
  cases h
  dsimp only [Request.setHeader]
  rw [Table.get?_insert_of_ne _ (by decide), Credentials.apply_basic_ok hsigned,
    Table.get?_insert_self]

theorem textInEffect?_of_string {name text : String} (h : c.valueOf? name = some (.string text)) :
    c.textInEffect? name = some (Text.trim text) := by
  simp [Configuration.textInEffect?, Configuration.inEffect?, h, valueText]

/-- With basic authentication the credentials are the texts that were entered. -/
theorem readCredentials_basic (h : Passed c rows active)
    (hmethod : c.textInEffect? "authentication_method" = some "basic") :
    readCredentials active =
      .basic (c.textInEffect? "username") (c.textInEffect? "password") := by
  have hselected : selected active "authentication_method" AuthMethod.ofName? AuthMethod.default =
      .basic := by
    have hname := authMethod_name h
    rw [hmethod] at hname
    cases hselected : selected active "authentication_method" AuthMethod.ofName?
        AuthMethod.default with
    | basic => rfl
    | none | bearer =>
        rw [hselected] at hname
        exact absurd (Option.some.inj hname) (by decide)
  unfold readCredentials
  rw [hselected, h.getText?_of_counts rfl (counts_of_condition rfl hmethod),
    h.getText?_of_counts rfl (counts_of_condition rfl hmethod)]

/-- The header carries the user name and the password without the white space at
their ends, and so the credentials that were entered exactly if they have none
there. -/
theorem basic_header_is_trimmed
    (hmethod : c.textInEffect? "authentication_method" = some "basic")
    (huser : c.valueOf? "username" = some (.string user))
    (hpassword : c.valueOf? "password" = some (.string password))
    (hconnector : ofConfiguration c = .ok connector)
    (hrequest : connector.request vars = .ok request) :
    request.headers.get? "authorization" =
        some ⟨basicHeaderText (Text.trim user) (Text.trim password), true⟩ ∧
      (request.headers.get? "authorization" = some ⟨basicHeaderText user password, true⟩ ↔
        Text.trim user = user ∧ Text.trim password = password) := by
  obtain ⟨active, hactive, hread⟩ := ofConfiguration_ok hconnector
  have hcredentials := hread.credentials
  rw [readCredentials_basic (c.activeValues_passed hactive) hmethod,
    textInEffect?_of_string huser, textInEffect?_of_string hpassword] at hcredentials
  have hheader := request_basic_header hcredentials hrequest
  refine ⟨hheader, ?_⟩
  rw [← Text.trim_pair_eq_iff]
  constructor
  · intro hentered
    rw [show "authorization" = Credentials.headerName from rfl, hheader] at hentered
    exact basicHeaderText_injective (congrArg HeaderValue.text (Option.some.inj hentered))
  · intro hpair
    rw [show "authorization" = Credentials.headerName from rfl, hheader, basicHeaderText, hpair]
    rfl

namespace Sample

/-- White space stands around the password. -/
def paddedPassword : Configuration :=
  (Settings.Sample.configuration.setValue "authentication_method" (.string "basic")).setValue
    "username" (.string "alice")

def padded : Connector := { trimmed with credentials := .basic (some "alice") (some "secret") }

theorem padded_read :
    paddedPassword.valueOf? "authentication_method" = some (.string "basic") ∧
      paddedPassword.valueOf? "username" = some (.string "alice") ∧
      paddedPassword.valueOf? "password" = some (.string " secret ") ∧
      ofConfiguration paddedPassword = .ok padded := by
  decide +kernel

theorem padded_request : ∃ request, padded.request [] = .ok request := by
  cases hrequest : padded.request [] with
  | ok request => exact ⟨request, rfl⟩
  | error e =>
      have hok : (padded.request []).toOption.isSome = true := by decide +kernel
      rw [hrequest] at hok
      cases hok

end Sample

/-- A password with white space around it is sent without. -/
theorem padded_password_is_trimmed :
    Sample.paddedPassword.valueOf? "password" = some (.string " secret ") ∧
      ofConfiguration Sample.paddedPassword = .ok Sample.padded ∧
      ∃ request, Sample.padded.request [] = .ok request ∧
        request.headers.get? "authorization" = some ⟨"Basic YWxpY2U6c2VjcmV0", true⟩ := by
  obtain ⟨hmethod, huser, hpassword, hconnector⟩ := Sample.padded_read
  obtain ⟨request, hrequest⟩ := Sample.padded_request
  have hbasic : Sample.paddedPassword.textInEffect? "authentication_method" = some "basic" :=
    (textInEffect?_of_string hmethod).trans (by decide +kernel)
  have hheader := (basic_header_is_trimmed hbasic huser hpassword hconnector hrequest).1
  exact ⟨hpassword, hconnector, request, hrequest, hheader.trans (by decide +kernel)⟩

/-- The header is not the one of the password that was entered. -/
theorem padded_password_is_changed :
    Sample.paddedPassword.valueOf? "authentication_method" = some (.string "basic") ∧
      Sample.paddedPassword.valueOf? "username" = some (.string "alice") ∧
      Sample.paddedPassword.valueOf? "password" = some (.string " secret ") ∧
      ofConfiguration Sample.paddedPassword = .ok Sample.padded ∧
      ∃ request, Sample.padded.request [] = .ok request ∧
        request.headers.get? "authorization" ≠
          some ⟨basicHeaderText "alice" " secret ", true⟩ := by
  obtain ⟨hmethod, huser, hpassword, hconnector⟩ := Sample.padded_read
  obtain ⟨request, hrequest⟩ := Sample.padded_request
  refine ⟨hmethod, huser, hpassword, hconnector, request, hrequest, ?_⟩
  rw [show "authorization" = Credentials.headerName from rfl, request_basic_header rfl hrequest]
  decide +kernel

end Connector

end PageHarvest
