import PageHarvest.Proofs.Http.HeaderLines
import PageHarvest.Proofs.Secrets
import PageHarvest.Proofs.Text.Utf8

/-!
How a request is authenticated. Basic authentication encodes its credentials, and what
is encoded fits into a header, so it fails only for want of a credential. A token is
sent as it is, so it must fit by itself. The missing credential is reported first. A
request that is authenticated has one value for it, whatever it had before, and keeps
everything else.
-/

namespace PageHarvest

/-- A character that no header may hold: a control character other than the tab. -/
def IsForbidden (c : Char) : Prop := c.toNat < 0x20 ∧ c ≠ '\t' ∨ c.toNat = 0x7F

theorem isHeaderValueChar_iff (c : Char) : isHeaderValueChar c = true ↔ ¬ IsForbidden c := by
  simp only [isHeaderValueChar, IsForbidden, Bool.or_eq_true, Bool.and_eq_true, beq_iff_eq,
    decide_eq_true_eq, bne_iff_ne]
  constructor
  · rintro (rfl | hplain)
    · decide
    · omega
  · intro hplain
    obtain ⟨hlow, hdelete⟩ := not_or.mp hplain
    by_cases htab : c = '\t'
    · exact .inl htab
    · have hprinted : ¬ c.toNat < 0x20 := fun h => hlow ⟨h, htab⟩
      exact .inr ⟨by omega, hdelete⟩

theorem isHeaderText_iff (text : String) :
    isHeaderText text = true ↔ ∀ c ∈ text.toList, ¬ IsForbidden c := by
  rw [isHeaderText, List.all_eq_true]
  exact forall₂_congr fun c _ => isHeaderValueChar_iff c

theorem isHeaderText_bearer_iff (token : String) :
    isHeaderText ("Bearer " ++ token) = true ↔ ∀ c ∈ token.toList, ¬ IsForbidden c := by
  have hscheme : "Bearer ".toList.all isHeaderValueChar = true := by decide
  rw [← isHeaderText_iff, isHeaderText, isHeaderText, String.toList_append, List.all_append,
    hscheme, Bool.true_and]

section Required

variable {mode field text : String} {value : Option String} {e : Error}

theorem requireCredential_ok_iff : requireCredential mode field value = .ok text ↔
    value = some text ∧ Text.isBlank text = false := by
  constructor
  · intro h
    obtain rfl := requireCredential_eq_ok h
    refine ⟨rfl, ?_⟩
    by_contra hblank
    rw [Bool.not_eq_false] at hblank
    simp [requireCredential, Text.nonBlank?, hblank] at h
  · rintro ⟨rfl, hblank⟩
    simp [requireCredential, Text.nonBlank?, hblank]

theorem requireCredential_error_iff : requireCredential mode field value = .error e ↔
    ¬ IsCredential value ∧ e = .missingCredential mode field := by
  constructor
  · intro h
    refine ⟨fun hvalue => ?_, requireCredential_error h⟩
    obtain ⟨text, hok⟩ := requireCredential_ok hvalue mode field
    rw [h] at hok
    cases hok
  · rintro ⟨hvalue, rfl⟩
    cases hrequired : requireCredential mode field value with
    | error e => rw [requireCredential_error hrequired]
    | ok text => exact absurd ⟨text, requireCredential_ok_iff.mp hrequired⟩ hvalue

end Required

/-- The request is the one before but for the header that authenticates, which has this
text, out of sight, and no other value. -/
structure Request.SignedFrom (after before : Request) (text : String) : Prop where
  value : after.valuesOf Credentials.headerName = [⟨text, true⟩]
  others : after.linesBut Credentials.headerName = before.linesBut Credentials.headerName
  rest : before = { after with headers := before.headers, further := before.further }

theorem Request.signedFrom_setHeader (before : Request) (text : String) :
    (before.setHeader Credentials.headerName ⟨text, true⟩).SignedFrom before text where
  value := valuesOf_setHeader_self before _ _
  others := linesBut_setHeader before _ _
  rest := rfl

/-- What the encoded part of the header stands for: the user name, a colon and the
password. -/
theorem decoded_basicHeaderText (user password : String) :
    ∃ encoded, basicHeaderText user password = "Basic " ++ encoded ∧
      (Text.base64Bytes? encoded.toList).bind Text.utf8Chars? =
        some (user ++ ":" ++ password).toList := by
  refine ⟨_, rfl, ?_⟩
  rw [String.toList_ofList, Text.base64Bytes?_base64, Option.bind_some, Text.utf8Chars?_utf8Bytes]

namespace Credentials

/-- What basic authentication makes of a request. -/
structure BasicOutcome (username password : Option String) (before : Request) : Prop where
  succeeds : (∃ after, (basic username password).apply before = .ok after) ↔
    IsCredential username ∧ IsCredential password
  signed : ∀ after, (basic username password).apply before = .ok after →
    ∃ user secret encoded, username = some user ∧ password = some secret ∧
      after.SignedFrom before ("Basic " ++ encoded) ∧
      (Text.base64Bytes? encoded.toList).bind Text.utf8Chars? =
        some (user ++ ":" ++ secret).toList
  /-- The first credential that is missing is the only thing to complain about. -/
  fails : ∀ e, (basic username password).apply before = .error e ↔
    ¬ IsCredential username ∧ e = .missingCredential "basic" "username" ∨
      IsCredential username ∧ ¬ IsCredential password ∧ e = .missingCredential "basic" "password"
  fits : ∀ name message,
    (basic username password).apply before ≠ .error (.invalidHeader name message)

/-- What bearer authentication makes of a request. -/
structure BearerOutcome (token : Option String) (before : Request) : Prop where
  succeeds : (∃ after, (bearer token).apply before = .ok after) ↔
    ∃ text, token = some text ∧ Text.isBlank text = false ∧ ∀ c ∈ text.toList, ¬ IsForbidden c
  signed : ∀ after, (bearer token).apply before = .ok after →
    ∃ text, token = some text ∧ after.SignedFrom before ("Bearer " ++ text)
  /-- A token is missed before its characters are looked at. -/
  fails : ∀ e, (bearer token).apply before = .error e ↔
    ¬ IsCredential token ∧ e = .missingCredential "bearer" "token" ∨
      ∃ text, token = some text ∧ Text.isBlank text = false ∧ (∃ c ∈ text.toList, IsForbidden c) ∧
        e = .invalidHeader "authorization" "failed to parse header value"

/-- What authenticating a request with the credentials comes to. -/
def Outcome : Credentials → Request → Prop
  | none, before => none.apply before = .ok before
  | basic username password, before => BasicOutcome username password before
  | bearer token, before => BearerOutcome token before

variable {username password token : Option String} {before after : Request} {e : Error}

theorem apply_basic_ok_iff : (basic username password).apply before = .ok after ↔
    ∃ user secret, (username = some user ∧ Text.isBlank user = false) ∧
      (password = some secret ∧ Text.isBlank secret = false) ∧
      after = before.setHeader headerName ⟨basicHeaderText user secret, true⟩ := by
  rw [apply_basic]
  constructor
  · intro h
    obtain ⟨user, huser, h⟩ := ok_of_bind h
    obtain ⟨secret, hsecret, h⟩ := ok_of_bind h
    cases h
    exact ⟨user, secret, requireCredential_ok_iff.mp huser,
      requireCredential_ok_iff.mp hsecret, rfl⟩
  · rintro ⟨user, secret, huser, hsecret, rfl⟩
    rw [requireCredential_ok_iff.mpr huser, requireCredential_ok_iff.mpr hsecret]
    rfl

theorem apply_basic_error_iff : (basic username password).apply before = .error e ↔
    ¬ IsCredential username ∧ e = .missingCredential "basic" "username" ∨
      IsCredential username ∧ ¬ IsCredential password ∧
        e = .missingCredential "basic" "password" := by
  rw [apply_basic]
  constructor
  · intro h
    rcases error_of_bind h with huser | ⟨user, huser, h⟩
    · exact .inl (requireCredential_error_iff.mp huser)
    rcases error_of_bind h with hsecret | ⟨secret, -, h⟩
    · exact .inr ⟨⟨user, requireCredential_ok_iff.mp huser⟩, requireCredential_error_iff.mp hsecret⟩
    · cases h
  · rintro (huser | ⟨⟨user, huser⟩, hsecret⟩)
    · rw [requireCredential_error_iff.mpr huser]
      rfl
    · rw [requireCredential_ok_iff.mpr huser, requireCredential_error_iff.mpr hsecret]
      rfl

theorem basicOutcome (username password : Option String) (before : Request) :
    BasicOutcome username password before where
  succeeds := by
    constructor
    · rintro ⟨after, h⟩
      obtain ⟨user, secret, huser, hsecret, -⟩ := apply_basic_ok_iff.mp h
      exact ⟨⟨user, huser⟩, secret, hsecret⟩
    · rintro ⟨⟨user, huser⟩, secret, hsecret⟩
      exact ⟨_, apply_basic_ok_iff.mpr ⟨user, secret, huser, hsecret, rfl⟩⟩
  signed after h := by
    obtain ⟨user, secret, ⟨huser, -⟩, ⟨hsecret, -⟩, rfl⟩ := apply_basic_ok_iff.mp h
    obtain ⟨encoded, htext, hdecoded⟩ := decoded_basicHeaderText user secret
    rw [htext]
    exact ⟨user, secret, encoded, huser, hsecret, before.signedFrom_setHeader _, hdecoded⟩
  fails _ := apply_basic_error_iff
  fits name message h := by
    rcases apply_basic_error_iff.mp h with ⟨-, he⟩ | ⟨-, -, he⟩ <;> cases he

theorem apply_bearer_ok_iff : (bearer token).apply before = .ok after ↔
    ∃ text, (token = some text ∧ Text.isBlank text = false) ∧
      (∀ c ∈ text.toList, ¬ IsForbidden c) ∧
      after = before.setHeader headerName ⟨"Bearer " ++ text, true⟩ := by
  rw [apply_bearer]
  constructor
  · intro h
    obtain ⟨text, htoken, h⟩ := ok_of_bind h
    split at h
    · rename_i hfits
      cases h
      exact ⟨text, requireCredential_ok_iff.mp htoken, (isHeaderText_bearer_iff text).mp hfits, rfl⟩
    · cases h
  · rintro ⟨text, htoken, hfits, rfl⟩
    rw [requireCredential_ok_iff.mpr htoken]
    exact if_pos ((isHeaderText_bearer_iff text).mpr hfits)

theorem apply_bearer_error_iff : (bearer token).apply before = .error e ↔
    ¬ IsCredential token ∧ e = .missingCredential "bearer" "token" ∨
      ∃ text, token = some text ∧ Text.isBlank text = false ∧ (∃ c ∈ text.toList, IsForbidden c) ∧
        e = refusedToken := by
  rw [apply_bearer]
  constructor
  · intro h
    rcases error_of_bind h with htoken | ⟨text, htoken, h⟩
    · exact .inl (requireCredential_error_iff.mp htoken)
    obtain ⟨hvalue, hblank⟩ := requireCredential_ok_iff.mp htoken
    split at h
    · cases h
    · rename_i hfits
      cases h
      rw [isHeaderText_bearer_iff] at hfits
      push Not at hfits
      exact .inr ⟨text, hvalue, hblank, hfits, rfl⟩
  · rintro (htoken | ⟨text, hvalue, hblank, ⟨c, hc, hcontrol⟩, rfl⟩)
    · rw [requireCredential_error_iff.mpr htoken]
      rfl
    · rw [requireCredential_ok_iff.mpr ⟨hvalue, hblank⟩]
      exact if_neg fun hfits => (isHeaderText_bearer_iff text).mp hfits c hc hcontrol

theorem bearerOutcome (token : Option String) (before : Request) : BearerOutcome token before where
  succeeds := by
    constructor
    · rintro ⟨after, h⟩
      obtain ⟨text, ⟨hvalue, hblank⟩, hfits, -⟩ := apply_bearer_ok_iff.mp h
      exact ⟨text, hvalue, hblank, hfits⟩
    · rintro ⟨text, hvalue, hblank, hfits⟩
      exact ⟨_, apply_bearer_ok_iff.mpr ⟨text, ⟨hvalue, hblank⟩, hfits, rfl⟩⟩
  signed after h := by
    obtain ⟨text, ⟨hvalue, -⟩, -, rfl⟩ := apply_bearer_ok_iff.mp h
    exact ⟨text, hvalue, before.signedFrom_setHeader _⟩
  fails _ := apply_bearer_error_iff

/-- Without credentials a request stays as it is. With those that are asked for it gets
one header that authenticates, in place of all that it had, and nothing else of it
changes; and it fails for a credential that is missing or for a token that does not
fit into a header, and for no other reason. -/
theorem authentication_outcome (credentials : Credentials) (before : Request) :
    credentials.Outcome before := by
  cases credentials with
  | none => rfl
  | basic username password => exact basicOutcome username password before
  | bearer token => exact bearerOutcome token before

/-- A request that has been authenticated twice, with two values of another header. -/
def Sample.signedTwice : Request where
  method := .post
  url := ⟨"https", some ⟨"", "api.example.com", Option.none⟩, "/graphql", Option.none, Option.none⟩
  parameters := []
  headers := Table.ofList [("authorization", ⟨"first", false⟩), ("x-team", ⟨"a", false⟩)]
  body := Option.none
  further := [("authorization", ⟨"second", false⟩), ("x-team", ⟨"b", false⟩)]

/-- The token takes the place of both values, and the other header keeps its own. -/
theorem token_replaces_all_values :
    ∃ after, (bearer (some "t\u00f6k\ten")).apply Sample.signedTwice = .ok after ∧
      after.valuesOf "authorization" = [⟨"Bearer t\u00f6k\ten", true⟩] ∧
      after.linesBut "authorization" = [("x-team", ⟨"a", false⟩), ("x-team", ⟨"b", false⟩)] := by
  have houtcome : BearerOutcome (some "t\u00f6k\ten") Sample.signedTwice :=
    authentication_outcome (bearer _) Sample.signedTwice
  have hfits : ∀ c ∈ "t\u00f6k\ten".toList, ¬ IsForbidden c :=
    (isHeaderText_iff _).mp (by decide +kernel)
  obtain ⟨after, hafter⟩ := houtcome.succeeds.mpr ⟨_, rfl, by decide +kernel, hfits⟩
  obtain ⟨text, htoken, hsigned⟩ := houtcome.signed after hafter
  cases htoken
  exact ⟨after, hafter, hsigned.value, hsigned.others.trans (by decide +kernel)⟩

end Credentials

end PageHarvest
