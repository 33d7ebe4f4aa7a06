import PageHarvest.Proofs.Http.BasicCredentials

/-!
Where the password and the token of a configuration show. Two configurations that
differ in these texts only are both refused, with one error, or both read, as
connectors that differ in their credentials only. The requests of the two connectors
differ in the header that authenticates and in nothing else, and no error and no
description tells the secrets apart. What a server or a log can learn of a token
beyond that header is whether it may stand in a header at all.
-/

namespace PageHarvest

section Outcomes

variable {α β γ δ : Type} {r : α → β → Prop} {s : γ → δ → Prop}

def Alike (r : α → β → Prop) : Except Error α → Except Error β → Prop
  | .ok a, .ok b => r a b
  | .error e, .error f => e = f
  | _, _ => False

theorem Alike.bind {x : Except Error α} {y : Except Error β} {f : α → Except Error γ}
    {g : β → Except Error δ} (h : Alike r x y) (hnext : ∀ a b, r a b → Alike s (f a) (g b)) :
    Alike s (x >>= f) (y >>= g) := by
  cases x with
  | error e =>
      cases y with
      | error _ => exact h
      | ok _ => exact h.elim
  | ok a =>
      cases y with
      | error _ => exact h.elim
      | ok b => exact hnext a b h

/-- A step that is the same in both leaves what comes after it. -/
theorem Alike.after (x : Except Error α) {f : α → Except Error γ} {g : α → Except Error δ}
    (hnext : ∀ a, Alike s (f a) (g a)) : Alike s (x >>= f) (x >>= g) := by
  cases x with
  | error e => exact rfl
  | ok a => exact hnext a

end Outcomes

namespace Settings

def IsSecret (name : String) : Prop := name = "password" ∨ name = "token"

instance : DecidablePred IsSecret := fun _ => inferInstanceAs (Decidable (_ ∨ _))

/-- Two values of a secret: the same, or two texts neither of which is blank. -/
def SecretValues (v w : Option Json) : Prop :=
  v = w ∨ ∃ s t, v = some (.string s) ∧ w = some (.string t) ∧
    Text.isBlank s = false ∧ Text.isBlank t = false

/-- Two descriptors that differ in the texts that were entered at most. -/
structure Descriptor.DifferInSecret (d e : Descriptor) : Prop where
  value : SecretValues d.value e.value
  default : SecretValues d.default e.default
  rest : e = { d with value := e.value, default := e.default }

structure Configuration.DifferInSecrets (c d : Configuration) : Prop where
  same : ∀ name, ¬ IsSecret name → d.get? name = c.get? name
  secret : ∀ name, IsSecret name → Option.Rel Descriptor.DifferInSecret (c.get? name) (d.get? name)

theorem SecretValues.or {v w x y : Option Json} (h : SecretValues v w) (hrest : SecretValues x y) :
    SecretValues (v.or x) (w.or y) := by
  rcases h with rfl | ⟨s, t, rfl, rfl, hs, ht⟩
  · cases v with
    | none => exact hrest
    | some value => exact .inl rfl
  · exact .inr ⟨s, t, rfl, rfl, hs, ht⟩

theorem SecretValues.bind_present? {v w : Option Json} (h : SecretValues v w) :
    SecretValues (v.bind present?) (w.bind present?) := by
  rcases h with rfl | ⟨s, t, rfl, rfl, hs, ht⟩
  · exact .inl rfl
  · exact .inr ⟨s, t, by simp [present?, hs], by simp [present?, ht], hs, ht⟩

theorem Descriptor.DifferInSecret.effective? {d e : Descriptor} (h : d.DifferInSecret e) :
    SecretValues d.effective? e.effective? :=
  h.value.bind_present?.or h.default.bind_present?

/-- Entering one text or another for a secret makes no other difference. -/
theorem Configuration.setValue_differ (c : Configuration) {name s t : String}
    (hname : IsSecret name) (hs : Text.isBlank s = false) (ht : Text.isBlank t = false) :
    (c.setValue name (.string s)).DifferInSecrets (c.setValue name (.string t)) := by
  have hentered : ∃ d : Descriptor, ∀ text, c.setValue name (.string text) =
      c.insert name { d with value := some (.string text) } := by
    cases hget : c.get? name with
    | some d => exact ⟨d, fun text => by simp [setValue, hget]⟩
    | none =>
        exact ⟨bareDescriptor name (.ofNat _ (c.fields.size + 1)) .null,
          fun text => by simp [setValue, hget, bareDescriptor]⟩
  obtain ⟨d, hentered⟩ := hentered
  rw [hentered, hentered]
  constructor
  · intro other hother
    have hne : name ≠ other := fun heq => hother (heq ▸ hname)
    rw [get?, get?, insert, insert, Table.get?_insert_of_ne _ hne, Table.get?_insert_of_ne _ hne]
  · intro other _
    rw [get?, get?, insert, insert]
    by_cases hsame : name = other
    · subst hsame
      rw [Table.get?_insert_self, Table.get?_insert_self]
      exact .some ⟨.inr ⟨s, t, rfl, rfl, hs, ht⟩, .inl rfl, rfl⟩
    · rw [Table.get?_insert_of_ne _ hsame, Table.get?_insert_of_ne _ hsame]
      cases c.fields.get? other with
      | none => exact .none
      | some e => exact .some ⟨.inl rfl, .inl rfl, rfl⟩

namespace Configuration.DifferInSecrets

variable {c d : Configuration} {name : String}

theorem valueOf?_eq (h : c.DifferInSecrets d) (hname : ¬ IsSecret name) :
    d.valueOf? name = c.valueOf? name := by
  rw [valueOf?, valueOf?, h.same name hname]

theorem valueOf? (h : c.DifferInSecrets d) (name : String) :
    SecretValues (c.valueOf? name) (d.valueOf? name) := by
  by_cases hname : IsSecret name
  · have hfield := h.secret name hname
    unfold Configuration.valueOf?
    generalize c.get? name = before at hfield ⊢
    generalize d.get? name = after at hfield ⊢
    cases hfield with
    | none => exact .inl rfl
    | some hdiffer => exact hdiffer.effective?
  · exact .inl (h.valueOf?_eq hname).symm

end Configuration.DifferInSecrets

structure ActiveValues.DifferInSecrets (a b : ActiveValues) : Prop where
  same : ∀ name, ¬ IsSecret name → b.get? name = a.get? name
  secret : ∀ name, SecretValues (a.get? name) (b.get? name)

namespace ActiveValues.DifferInSecrets

variable {a b : ActiveValues} {name : String} {row : Row}

theorem getText?_eq (h : a.DifferInSecrets b) (hname : ¬ IsSecret name) :
    b.getText? name = a.getText? name := by
  rw [getText?, getText?, h.same name hname]

theorem satisfies_eq (h : a.DifferInSecrets b) (hrow : ∀ d ∈ row.dependsOn, ¬ IsSecret d.1) :
    b.satisfies row = a.satisfies row := by
  apply Bool.eq_iff_iff.mpr
  simp only [satisfies, List.all_eq_true]
  refine forall₂_congr fun d hd => ?_
  rw [h.getText?_eq (hrow d hd)]

theorem concat (h : a.DifferInSecrets b) {v w : Json} (hvalues : SecretValues (some v) (some w))
    (hsame : ¬ IsSecret name → w = v) :
    DifferInSecrets (a ++ [(name, v)]) (b ++ [(name, w)]) := by
  have happend : ∀ (active : ActiveValues) (value : Json) (other : String),
      get? (active ++ [(name, value)]) other =
        (get? active other).or (if other = name then some value else none) := by
    intro active value other
    rw [get?, List.lookup_append]
    by_cases hother : other = name
    · subst hother
      simp [get?]
    · have hne : (other == name) = false := by simpa using hother
      simp [List.lookup_cons, hne, hother, get?]
  constructor
  · intro other hother
    rw [happend, happend, h.same other hother]
    by_cases hname : other = name
    · subst hname
      rw [hsame hother]
    · simp [hname]
  · intro other
    rw [happend, happend]
    by_cases hname : other = name
    · simpa [hname] using (h.secret name).or hvalues
    · simpa [hname] using h.secret other

end ActiveValues.DifferInSecrets

/-- No condition is on a secret, and a secret is not one of several choices. -/
theorem rows_secret : ∀ row ∈ rows,
    (∀ d ∈ row.dependsOn, ¬ IsSecret d.1) ∧ (IsSecret row.name → row.options = []) := by
  decide

variable {c d : Configuration} {a b : ActiveValues} {row : Row}

/-- A row adds values that differ in a secret at most, or is refused in both with one
error: what is offered and what an error shows are never secrets. -/
theorem withRow_alike (h : c.DifferInSecrets d) (hrow : row ∈ rows) (hab : a.DifferInSecrets b) :
    Alike ActiveValues.DifferInSecrets (withRow c a row) (withRow d b row) := by
  obtain ⟨hconditions, hfree⟩ := rows_secret row hrow
  unfold withRow
  rw [hab.satisfies_eq hconditions]
  split
  · exact hab
  have hvalues : SecretValues ((c.valueOf? row.name).or row.default)
      ((d.valueOf? row.name).or row.default) := (h.valueOf? row.name).or (.inl rfl)
  by_cases hsecret : IsSecret row.name
  · have hoffers : ∀ value, offers row value = true := by simp [offers, hfree hsecret]
    generalize (c.valueOf? row.name).or row.default = v at hvalues ⊢
    generalize (d.valueOf? row.name).or row.default = w at hvalues ⊢
    cases v with
    | none =>
        obtain rfl : none = w := by simpa [SecretValues] using hvalues
        dsimp only
        split
        · exact rfl
        · exact hab
    | some v =>
        obtain ⟨w, rfl⟩ : ∃ w', w = some w' := by
          rcases hvalues with rfl | ⟨s, t, -, rfl, -⟩ <;> exact ⟨_, rfl⟩
        simp only [hoffers, if_true]
        exact hab.concat hvalues fun hname => absurd hsecret hname
  · rw [h.valueOf?_eq hsecret]
    generalize (c.valueOf? row.name).or row.default = v
    cases v with
    | none =>
        dsimp only
        split
        · exact rfl
        · exact hab
    | some v =>
        dsimp only
        split
        · exact hab.concat (.inl rfl) fun _ => rfl
        · exact rfl

theorem withRows_alike (h : c.DifferInSecrets d) {rest : List Row} (hrows : rest ⊆ rows)
    (hab : a.DifferInSecrets b) :
    Alike ActiveValues.DifferInSecrets (withRows c a rest) (withRows d b rest) := by
  induction rest generalizing a b with
  | nil => exact hab
  | cons row rest ih =>
      obtain ⟨hrow, hrest⟩ := List.cons_subset.mp hrows
      exact (withRow_alike h hrow hab).bind fun next next' hnext => ih hrest hnext

theorem activeValues_alike (h : c.DifferInSecrets d) :
    Alike ActiveValues.DifferInSecrets c.activeValues d.activeValues :=
  withRows_alike h (List.Subset.refl rows) ⟨fun _ _ => rfl, fun _ => .inl rfl⟩

end Settings

/-- Two secrets: the same, or two texts neither of which is blank. -/
def SecretTexts (v w : Option String) : Prop :=
  v = w ∨ ∃ s t, v = some s ∧ w = some t ∧ Text.isBlank s = false ∧ Text.isBlank t = false

/-- Credentials of one method that differ in the password or the token at most. -/
inductive Credentials.DifferInSecrets : Credentials → Credentials → Prop
  | none : DifferInSecrets .none .none
  | basic (username : Option String) {password password' : Option String}
      (h : SecretTexts password password') :
      DifferInSecrets (.basic username password) (.basic username password')
  | bearer {token token' : Option String} (h : SecretTexts token token') :
      DifferInSecrets (.bearer token) (.bearer token')

/-- Two connectors that differ in the password or the token at most. -/
structure Connector.DifferInSecrets (m n : Connector) : Prop where
  credentials : m.credentials.DifferInSecrets n.credentials
  rest : n = { m with credentials := n.credentials }

open Settings

theorem Settings.ActiveValues.DifferInSecrets.secretTexts {a b : ActiveValues}
    (h : a.DifferInSecrets b) (name : String) :
    SecretTexts (a.getText? name) (b.getText? name) := by
  unfold getText?
  rcases h.secret name with heq | ⟨s, t, hs, ht, hblank, hblank'⟩
  · exact .inl (congrArg _ heq)
  · rw [hs, ht]
    exact .inr ⟨_, _, rfl, rfl, (Text.isBlank_trim s).trans hblank,
      (Text.isBlank_trim t).trans hblank'⟩

namespace Connector

variable {c d : Configuration} {a b : ActiveValues}

theorem required_eq (h : a.DifferInSecrets b) {name : String} (hname : ¬ IsSecret name) :
    required b name = required a name := by
  rw [required, required, h.getText?_eq hname]

theorem selected_eq {α : Type} (h : a.DifferInSecrets b) {name : String} (hname : ¬ IsSecret name)
    (ofName? : String → Option α) (default : α) :
    selected b name ofName? default = selected a name ofName? default := by
  rw [selected, selected, h.getText?_eq hname]

theorem optionalObject_eq (h : a.DifferInSecrets b) {name : String} (hname : ¬ IsSecret name) :
    optionalObject b name = optionalObject a name := by
  rw [optionalObject, optionalObject, h.same name hname]

theorem readEndpoint_eq (h : a.DifferInSecrets b) : readEndpoint b = readEndpoint a := by
  rw [readEndpoint, readEndpoint, required_eq h (show ¬ IsSecret "http_endpoint" by decide)]

theorem readPagination_eq (h : a.DifferInSecrets b) : readPagination b = readPagination a := by
  rw [readPagination, readPagination,
    selected_eq h (show ¬ IsSecret "pagination_model" by decide),
    required_eq h (show ¬ IsSecret "pagination_key" by decide)]

theorem readCredentials_differ (h : a.DifferInSecrets b) :
    (readCredentials a).DifferInSecrets (readCredentials b) := by
  unfold readCredentials
  rw [selected_eq h (show ¬ IsSecret "authentication_method" by decide),
    h.getText?_eq (show ¬ IsSecret "username" by decide)]
  split
  · exact .none
  · exact .basic _ (h.secretTexts "password")
  · exact .bearer (h.secretTexts "token")

/-- The two configurations are refused with one error, or read as connectors that
differ in their secrets at most. -/
theorem ofConfiguration_alike (h : c.DifferInSecrets d) :
    Alike DifferInSecrets (ofConfiguration c) (ofConfiguration d) := by
  unfold ofConfiguration
  refine (activeValues_alike h).bind fun a b hab => ?_
  rw [readEndpoint_eq hab, readPagination_eq hab,
    selected_eq hab (show ¬ IsSecret "http_method" by decide),
    required_eq hab (show ¬ IsSecret "graphql_query" by decide),
    optionalObject_eq hab (show ¬ IsSecret "graphql_variables" by decide),
    optionalObject_eq hab (show ¬ IsSecret "headers" by decide),
    hab.same IdMap.settingName (by decide), hab.same "connection_timeout" (by decide)]
  refine .after _ fun endpoint => .after _ fun pagination => .after _ fun query => ?_
  refine .after _ fun _ => .after _ fun fixedVariables => .after _ fun members => ?_
  refine .after _ fun headers => ?_
  cases a.get? IdMap.settingName with
  | none => exact rfl
  | some value =>
      refine .after _ fun idMap => .after _ fun timeout => ?_
      exact ⟨readCredentials_differ hab, rfl⟩

end Connector

/-- What is encoded may stand in a header, whatever the credentials are. -/
theorem isHeaderText_basicHeaderText (user password : String) :
    isHeaderText (basicHeaderText user password) = true := by
  have halphabet : ∀ c ∈ '=' :: Text.base64Alphabet, isHeaderValueChar c = true :=
    List.all_eq_true.mp (by decide)
  have hscheme : ∀ c ∈ "Basic ".toList, isHeaderValueChar c = true :=
    List.all_eq_true.mp (by decide)
  have hencoded : ∀ bytes, ∀ c ∈ Text.base64 bytes, isHeaderValueChar c = true :=
    fun bytes c hc => halphabet c (Text.mem_base64 hc)
  simp only [isHeaderText, basicHeaderText, String.toList_append (s := "Basic "),
    String.toList_ofList, List.all_append, Bool.and_eq_true, List.all_eq_true]
  exact ⟨hscheme, hencoded _⟩

/-- Two requests that differ in the value of the header that authenticates at most. -/
structure Request.DifferInAuthorization (r s : Request) : Prop where
  rest : s = { r with headers := s.headers }
  headers : ∀ name, name ≠ Credentials.headerName → s.headers.get? name = r.headers.get? name
  sensitive : (s.headers.get? Credentials.headerName).map HeaderValue.sensitive =
    (r.headers.get? Credentials.headerName).map HeaderValue.sensitive

def refusedToken : Error := .invalidHeader Credentials.headerName "failed to parse header value"

/-- Two attempts to form a request: both are formed, or both fail with one error, or
the token of one of them is refused. -/
inductive FormedAlike (bearer : Prop) : Except Error Request → Except Error Request → Prop
  | formed {r s : Request} (h : r.DifferInAuthorization s) : FormedAlike bearer (.ok r) (.ok s)
  | failed (e : Error) : FormedAlike bearer (.error e) (.error e)
  | refusedFirst (h : bearer) (s : Request) : FormedAlike bearer (.error refusedToken) (.ok s)
  | refusedSecond (h : bearer) (r : Request) : FormedAlike bearer (.ok r) (.error refusedToken)

theorem Request.differ_insert (r : Request) (text text' : String) :
    DifferInAuthorization (r.setHeader Credentials.headerName ⟨text, true⟩)
      (r.setHeader Credentials.headerName ⟨text', true⟩) where
  rest := rfl
  headers name hname := by
    dsimp only [setHeader]
    rw [Table.get?_insert_of_ne _ hname.symm, Table.get?_insert_of_ne _ hname.symm]
  sensitive := by
    dsimp only [setHeader]
    rw [Table.get?_insert_self, Table.get?_insert_self]
    rfl

theorem Request.DifferInAuthorization.insert {r s : Request} (h : r.DifferInAuthorization s)
    {name : String} (hname : name ≠ Credentials.headerName) (value : HeaderValue) :
    DifferInAuthorization (r.setHeader name value) (s.setHeader name value) where
  rest := by rw [h.rest]; rfl
  headers other hother := by
    dsimp only [setHeader]
    by_cases hsame : name = other
    · subst hsame
      rw [Table.get?_insert_self, Table.get?_insert_self]
    · rw [Table.get?_insert_of_ne _ hsame, Table.get?_insert_of_ne _ hsame, h.headers other hother]
  sensitive := by
    dsimp only [setHeader]
    rw [Table.get?_insert_of_ne _ hname, Table.get?_insert_of_ne _ hname]
    exact h.sensitive

theorem FormedAlike.bind_insert {bearer : Prop} {x y : Except Error Request}
    (h : FormedAlike bearer x y) {name : String} (hname : name ≠ Credentials.headerName)
    (value : HeaderValue) :
    FormedAlike bearer
      (x >>= fun r => pure (r.setHeader name value))
      (y >>= fun r => pure (r.setHeader name value)) := by
  cases h with
  | formed hdiffer => exact .formed (hdiffer.insert hname value)
  | failed e => exact .failed e
  | refusedFirst hbearer s => exact .refusedFirst hbearer _
  | refusedSecond hbearer r => exact .refusedSecond hbearer _

namespace Credentials

variable {mode field : String} {v w : Option String}

theorem requireCredential_alike (h : SecretTexts v w) (mode field : String) :
    Alike (fun _ _ => True) (requireCredential mode field v) (requireCredential mode field w) := by
  rcases h with rfl | ⟨s, t, rfl, rfl, hs, ht⟩
  · cases requireCredential mode field v with
    | error e => exact rfl
    | ok text => exact trivial
  · simp [requireCredential, Text.nonBlank?, hs, ht, Alike]

theorem apply_basic (username password : Option String) (r : Request) :
    (basic username password).apply r = do
      let user ← requireCredential "basic" "username" username
      let secret ← requireCredential "basic" "password" password
      return r.setHeader headerName ⟨basicHeaderText user secret, true⟩ := by
  cases huser : requireCredential "basic" "username" username with
  | error e => simp [apply, headerText, huser, bind, Except.bind]
  | ok user =>
      cases hsecret : requireCredential "basic" "password" password with
      | error e => simp [apply, headerText, huser, hsecret, bind, Except.bind]
      | ok secret =>
          simp only [apply, headerText, huser, hsecret, bind, Except.bind, pure, Except.pure]
          exact if_pos (isHeaderText_basicHeaderText user secret)

theorem apply_bearer (token : Option String) (r : Request) :
    (bearer token).apply r = (do
      let token ← requireCredential "bearer" "token" token
      if isHeaderText ("Bearer " ++ token) then
        return r.setHeader headerName ⟨"Bearer " ++ token, true⟩
      else throw refusedToken) := by
  cases htoken : requireCredential "bearer" "token" token with
  | error e => simp [apply, headerText, htoken, bind, Except.bind]
  | ok token => simp [apply, headerText, htoken, bind, Except.bind, pure, Except.pure, refusedToken]

variable {credentials other : Credentials}

/-- The description of credentials shows no secret. -/
theorem DifferInSecrets.describe_eq (h : credentials.DifferInSecrets other) :
    credentials.describe = other.describe := by
  have hsecret : ∀ {v w : Option String}, SecretTexts v w → describeSecret v = describeSecret w := by
    rintro v w (rfl | ⟨s, t, rfl, rfl, -, -⟩)
    · rfl
    · simp only [describeSecret, Option.map_some]
  cases h with
  | none => rfl
  | basic username h =>
      exact congrArg (fun text => "Basic \x7b username: " ++ describeOption username ++
        ", password: " ++ text ++ " \x7d") (hsecret h)
  | bearer h => exact congrArg (fun text => "Bearer \x7b token: " ++ text ++ " \x7d") (hsecret h)

theorem DifferInSecrets.apply (h : credentials.DifferInSecrets other) (r : Request) :
    FormedAlike (credentials.method = .bearer) (credentials.apply r) (other.apply r) := by
  cases h with
  | none => exact .formed ⟨rfl, fun _ _ => rfl, rfl⟩
  | @basic username password password' h =>
      rw [apply_basic, apply_basic]
      cases requireCredential "basic" "username" username with
      | error e => exact .failed e
      | ok user =>
          have hsecret := requireCredential_alike h "basic" "password"
          revert hsecret
          cases requireCredential "basic" "password" password with
          | error e =>
              cases requireCredential "basic" "password" password' with
              | error e' =>
                  rintro rfl
                  exact .failed e
              | ok _ => exact False.elim
          | ok secret =>
              cases requireCredential "basic" "password" password' with
              | error _ => exact False.elim
              | ok secret' => exact fun _ => .formed (r.differ_insert _ _)
  | @bearer token token' h =>
      rw [apply_bearer, apply_bearer]
      have hsecret := requireCredential_alike h "bearer" "token"
      revert hsecret
      cases requireCredential "bearer" "token" token with
      | error e =>
          cases requireCredential "bearer" "token" token' with
          | error e' =>
              rintro rfl
              exact .failed e
          | ok _ => exact False.elim
      | ok token =>
          cases requireCredential "bearer" "token" token' with
          | error _ => exact False.elim
          | ok token' =>
              intro _
              by_cases htoken : isHeaderText ("Bearer " ++ token) = true
              · by_cases htoken' : isHeaderText ("Bearer " ++ token') = true
                · simp only [bind, Except.bind, htoken, htoken', if_true]
                  exact .formed (r.differ_insert _ _)
                · simp only [bind, Except.bind, htoken, htoken', if_true]
                  exact .refusedSecond rfl _
              · by_cases htoken' : isHeaderText ("Bearer " ++ token') = true
                · simp only [bind, Except.bind, htoken, htoken', if_true]
                  exact .refusedFirst rfl _
                · simp only [bind, Except.bind, htoken, htoken']
                  exact .failed _

end Credentials

namespace Connector

variable {m n : Connector}

theorem DifferInSecrets.request (h : m.DifferInSecrets n) (vars : List (String × Json)) :
    FormedAlike (m.credentials.method = .bearer) (m.request vars) (n.request vars) := by
  obtain ⟨hcredentials, hrest⟩ := h
  rw [hrest]
  unfold Connector.request
  cases setHeaders Table.empty m.headers.toList with
  | error e => exact .failed e
  | ok headers =>
      exact (hcredentials.apply _).bind_insert (show "content-type" ≠ Credentials.headerName by decide) _

/-- The texts of the password and of the token show in the header that authenticates
only: not in the verdict on the configuration, not in a description of the
credentials, and neither in the rest of a request nor in an error. A token that may
not stand in a header is refused with an error that is the same for all of them. -/
theorem secrets_stay_in_authorization {c d : Configuration} (h : c.DifferInSecrets d) :
    Alike DifferInSecrets (ofConfiguration c) (ofConfiguration d) ∧
      ∀ m n, ofConfiguration c = .ok m → ofConfiguration d = .ok n →
        m.credentials.describe = n.credentials.describe ∧
          ∀ vars, FormedAlike (m.credentials.method = .bearer) (m.request vars) (n.request vars) := by
  have halike := ofConfiguration_alike h
  refine ⟨halike, fun m n hm hn => ?_⟩
  rw [hm, hn] at halike
  have hdiffer : m.DifferInSecrets n := halike
  exact ⟨hdiffer.credentials.describe_eq, hdiffer.request⟩

def Sample.bearing (token : String) : Configuration :=
  (Settings.Sample.configuration.setValue "authentication_method" (.string "bearer")).setValue
    "token" (.string token)

/-- One of two tokens has a line end inside, and only the request tells them apart. -/
theorem broken_token_is_refused :
    (Sample.bearing "s3cret").DifferInSecrets (Sample.bearing "s3\nret") ∧
      ∃ m n, ofConfiguration (Sample.bearing "s3cret") = .ok m ∧
        ofConfiguration (Sample.bearing "s3\nret") = .ok n ∧
        m.credentials.describe = n.credentials.describe ∧
        FormedAlike (m.credentials.method = .bearer) (m.request []) (n.request []) ∧
        n.request [] = .error refusedToken := by
  have hdiffer : (Sample.bearing "s3cret").DifferInSecrets (Sample.bearing "s3\nret") :=
    Configuration.setValue_differ _ (by decide) (by decide) (by decide)
  have hm : ofConfiguration (Sample.bearing "s3cret") =
      .ok { Sample.trimmed with credentials := .bearer (some "s3cret") } := by decide +kernel
  have hn : ofConfiguration (Sample.bearing "s3\nret") =
      .ok { Sample.trimmed with credentials := .bearer (some "s3\nret") } := by decide +kernel
  obtain ⟨hdescribe, hrequest⟩ := (secrets_stay_in_authorization hdiffer).2 _ _ hm hn
  exact ⟨hdiffer, _, _, hm, hn, hdescribe, hrequest [], by decide +kernel⟩

end Connector

end PageHarvest
