import Mathlib.Tactic.Common
import PageHarvest.Proofs.Connector
import PageHarvest.Proofs.Http.HeaderLines
import PageHarvest.Proofs.Http.Variables
import PageHarvest.Proofs.Text.ByteOrder

/-!
Which value a header has where several are given. The headers of the user come first,
in the order of their names, then the one that authenticates, then the content type;
names that differ in case only are one name, and the last value stays. A request that
cannot be formed is refused for the first header of the user that is none, and for its
credentials only if there is no such header.
-/

namespace PageHarvest

open Settings

def lowerName (name : String) : String := String.ofList (name.toList.map Char.toLower)

/-- A name and a value of which a header can be made. -/
def IsHeader (entry : String × String) : Prop :=
  headerName? entry.1 ≠ none ∧ isHeaderText entry.2 = true

/-- A name and a value of which no header can be made, and the error that says so. -/
inductive Refused : String × String → Error → Prop
  -- The value is looked at only if the name is one.
  | name {name value : String} (h : headerName? name = none) :
      Refused (name, value) (.invalidHeader name "invalid HTTP header name")
  | value {name value : String} (hname : headerName? name ≠ none)
      (h : isHeaderText value = false) :
      Refused (name, value) (.invalidHeader name "failed to parse header value")

/-- Of the entries that are no headers the first one is refused with this error. -/
def FirstRefused (entries : List (String × String)) (e : Error) : Prop :=
  ∃ before entry after, entries = before ++ entry :: after ∧ (∀ d ∈ before, IsHeader d) ∧
    Refused entry e

/-- The value of the last entry with a name, whatever the case of its letters. -/
def lastDeclared? (entries : List (String × String)) (name : String) : Option String :=
  (entries.filter fun entry => lowerName entry.1 = lowerName name).getLast?.map Prod.snd

/-- Headers of the user: their names are in lower case and their values in sight. -/
def Headers.Plain (headers : Headers) : Prop :=
  ∀ line ∈ headers.toList, lowerName line.1 = line.1 ∧ line.2.sensitive = false

theorem lowerName_lowerName (name : String) : lowerName (lowerName name) = lowerName name := by
  have hchar : ∀ c : Char, c.toLower.toLower = c.toLower := by
    intro c
    unfold Char.toLower
    split_ifs with hupper hagain
    · -- A capital that was moved lies behind all capitals.
      simp [UInt32.le_iff_toNat_le, UInt32.toNat_add] at hupper hagain
      omega
    · rfl
    · rfl
  rw [lowerName, lowerName, String.toList_ofList, List.map_map]
  congr 2
  exact funext hchar

theorem headerName?_eq_some {raw lower : String} (h : headerName? raw = some lower) :
    lower = lowerName raw := by
  unfold headerName? at h
  dsimp only at h
  split at h
  · cases h
    rfl
  · cases h

variable {headers next : Headers} {entry : String × String} {entries : List (String × String)}
  {e : Error} {connector : Connector} {vars : List (String × Json)} {request : Request}

theorem Headers.set_ok_iff : headers.set entry.1 entry.2 = .ok next ↔
    IsHeader entry ∧ next = headers.insert (lowerName entry.1) ⟨entry.2, false⟩ := by
  unfold set IsHeader
  cases hname : headerName? entry.1 with
  | none => simp
  | some lower =>
      obtain rfl := headerName?_eq_some hname
      cases isHeaderText entry.2 <;> simp [eq_comm]

theorem Headers.set_error_iff : headers.set entry.1 entry.2 = .error e ↔ Refused entry e := by
  obtain ⟨name, value⟩ := entry
  unfold set
  constructor
  · intro h
    split at h
    · rename_i hname
      cases h
      exact .name hname
    · rename_i lower hname
      split at h
      · cases h
      · rename_i hvalue
        cases h
        exact .value (by simp [hname]) (by simpa using hvalue)
  · rintro (hname | ⟨hname, hvalue⟩)
    · simp only [hname]
    · obtain ⟨lower, hlower⟩ := Option.ne_none_iff_exists'.mp hname
      simp only [hlower, hvalue]
      rfl

theorem Refused.not_isHeader (h : Refused entry e) : ¬ IsHeader entry := by
  rintro ⟨hname, hvalue⟩
  cases h with
  | name h => exact hname h
  | value _ h => simp [h] at hvalue

theorem firstRefused_cons : FirstRefused (entry :: entries) e ↔
    Refused entry e ∨ IsHeader entry ∧ FirstRefused entries e := by
  constructor
  · rintro ⟨before, refused, after, hsplit, hbefore, hrefused⟩
    cases before with
    | nil =>
        cases hsplit
        exact .inl hrefused
    | cons first before =>
        cases hsplit
        obtain ⟨hfirst, hbefore⟩ := List.forall_mem_cons.mp hbefore
        exact .inr ⟨hfirst, before, refused, after, rfl, hbefore, hrefused⟩
  · rintro (hrefused | ⟨hentry, before, refused, after, rfl, hbefore, hrefused⟩)
    · exact ⟨[], entry, entries, rfl, List.forall_mem_nil _, hrefused⟩
    · exact ⟨entry :: before, refused, after, rfl,
        List.forall_mem_cons.mpr ⟨hentry, hbefore⟩, hrefused⟩

theorem lastDeclared?_cons (entry : String × String) (entries : List (String × String))
    (name : String) :
    lastDeclared? (entry :: entries) name = (lastDeclared? entries name).or
      (if lowerName entry.1 = lowerName name then some entry.2 else none) := by
  unfold lastDeclared?
  by_cases hsame : lowerName entry.1 = lowerName name
  · rw [List.filter_cons_of_pos (by simpa using hsame), List.getLast?_cons, if_pos hsame]
    cases (entries.filter fun entry => lowerName entry.1 = lowerName name).getLast? <;> rfl
  · rw [List.filter_cons_of_neg (by simpa using hsame), if_neg hsame, Option.or_none]

theorem Headers.plain_empty : Headers.Plain Table.empty :=
  List.forall_mem_nil _

theorem Headers.Plain.insert (h : headers.Plain) (name value : String) :
    Plain (Table.insert headers (lowerName name) ⟨value, false⟩) := by
  intro line hline
  rcases Entries.mem_insert hline with rfl | hbefore
  · exact ⟨lowerName_lowerName name, rfl⟩
  · exact h line hbefore

namespace Connector

theorem setHeaders_error_iff : setHeaders headers entries = .error e ↔ FirstRefused entries e := by
  induction entries generalizing headers with
  | nil =>
      constructor
      · intro h
        cases h
      · rintro ⟨before, entry, after, hsplit, -⟩
        simp at hsplit
  | cons entry rest ih =>
      rw [firstRefused_cons]
      constructor
      · intro h
        rcases error_of_bind h with hset | ⟨next, hset, hrest⟩
        · exact .inl (Headers.set_error_iff.mp hset)
        · exact .inr ⟨(Headers.set_ok_iff.mp hset).1, ih.mp hrest⟩
      · rintro (hrefused | ⟨hentry, hrest⟩)
        · rw [setHeaders, Headers.set_error_iff.mpr hrefused]
          rfl
        · rw [setHeaders, Headers.set_ok_iff.mpr ⟨hentry, rfl⟩]
          exact ih.mpr hrest

/-- What comes of setting entries in turn: all of them are headers, and each name has the
value that was given last, or else the one that it had. -/
theorem setHeaders_ok (hplain : headers.Plain) (h : setHeaders headers entries = .ok next) :
    (∀ entry ∈ entries, IsHeader entry) ∧ next.Plain ∧
      ∀ name, next.get? (lowerName name) =
        ((lastDeclared? entries name).map fun text => ⟨text, false⟩).or
          (headers.get? (lowerName name)) := by
  induction entries generalizing headers with
  | nil =>
      cases h
      exact ⟨List.forall_mem_nil _, hplain, fun name => rfl⟩
  | cons entry rest ih =>
      obtain ⟨between, hset, hrest⟩ := ok_of_bind h
      obtain ⟨hentry, rfl⟩ := Headers.set_ok_iff.mp hset
      obtain ⟨hheaders, hnext, hget⟩ := ih (hplain.insert entry.1 entry.2) hrest
      refine ⟨List.forall_mem_cons.mpr ⟨hentry, hheaders⟩, hnext, fun name => ?_⟩
      -- What the rest declares is asked for first, then the entry, then the headers before.
      rw [hget, lastDeclared?_cons, Option.map_or, Option.or_assoc]
      congr 1
      by_cases hsame : lowerName entry.1 = lowerName name
      · rw [if_pos hsame, hsame, Table.get?_insert_self]
        rfl
      · rw [if_neg hsame, Table.get?_insert_of_ne _ hsame]
        rfl

/-- The text of a header as it is declared: a string as it is, and numbers and truth
values as JSON. -/
inductive DeclaresText : Json → String → Prop
  | string (text : String) : DeclaresText (.string text) text
  | number (n : Json.Number) : DeclaresText (.number n) (Json.number n).compact
  | bool (value : Bool) : DeclaresText (.bool value) (Json.bool value).compact

/-- The headers are those of the object in effect, if there is one. Of members with one
name the last counts. -/
def DeclaredBy (headers : Table String String) (c : Configuration) : Prop :=
  match c.inEffect? "headers" with
  | none => headers = .empty
  | some value => ∃ members entries, value.HoldsObject members ∧
      List.Forall₂ (fun member entry => member.1 = entry.1 ∧ DeclaresText member.2 entry.2)
        members entries ∧
      headers = Table.ofList entries

theorem headerValues_ok {field : String} {members : List (String × Json)}
    (h : headerValues field members = .ok entries) :
    List.Forall₂ (fun member entry => member.1 = entry.1 ∧ DeclaresText member.2 entry.2)
      members entries := by
  induction members generalizing entries with
  | nil =>
      cases h
      exact .nil
  | cons member rest ih =>
      obtain ⟨name, value⟩ := member
      have hrest : ∀ text,
          (do return (name, text) :: (← headerValues field rest)) = Except.ok entries →
            ∃ texts, headerValues field rest = .ok texts ∧ entries = (name, text) :: texts := by
        intro text h
        obtain ⟨texts, htexts, h⟩ := ok_of_bind h
        cases h
        exact ⟨texts, htexts, rfl⟩
      cases value with
      | string text =>
          obtain ⟨texts, htexts, rfl⟩ := hrest _ h
          exact .cons ⟨rfl, .string text⟩ (ih htexts)
      | number n =>
          obtain ⟨texts, htexts, rfl⟩ := hrest _ h
          exact .cons ⟨rfl, .number n⟩ (ih htexts)
      | bool value =>
          obtain ⟨texts, htexts, rfl⟩ := hrest _ h
          exact .cons ⟨rfl, .bool value⟩ (ih htexts)
      | _ => cases h

theorem declaredBy_configuration {c : Configuration} (h : ofConfiguration c = .ok connector) :
    DeclaredBy connector.headers c := by
  obtain ⟨active, hactive, hread⟩ := ofConfiguration_ok h
  obtain ⟨members, entries, hmembers, hentries, htable⟩ := hread.headers
  have hvalue : active.get? "headers" = c.inEffect? "headers" :=
    (c.activeValues_passed hactive).get?_of_counts rfl (by simp [Configuration.Counts])
  unfold DeclaredBy
  rw [optionalObject, hvalue] at hmembers
  cases hobject : c.inEffect? "headers" with
  | none =>
      rw [hobject] at hmembers
      cases hmembers
      cases hentries
      exact htable
  | some value =>
      rw [hobject] at hmembers
      exact ⟨members, entries, holdsObject_of_objectSetting hmembers, headerValues_ok hentries,
        htable⟩

structure GivesHeaders (connector : Connector) (request : Request) : Prop where
  lower : ∀ line ∈ request.headerLines, lowerName line.1 = line.1
  distinct : (request.headerLines.map Prod.fst).Nodup
  contentType : request.valuesOf "content-type" = [⟨"application/json", false⟩]
  authenticated : connector.credentials ≠ .none →
    ∃ text, connector.credentials.headerText = .ok (some text) ∧
      request.valuesOf "authorization" = [⟨text, true⟩]
  sensitive : ∀ line ∈ request.headerLines, line.2.sensitive = true →
    connector.credentials ≠ .none ∧ line.1 = "authorization"
  /-- What is left to the user is as the user declares it. -/
  declared : ∀ name, lowerName name ≠ "content-type" →
    (lowerName name = "authorization" → connector.credentials = .none) →
    request.valuesOf (lowerName name) =
      ((lastDeclared? connector.headers.toList name).map fun text => ⟨text, false⟩).toList

structure SignedHeaders (connector : Connector) (signed : Request) : Prop where
  further : signed.further = []
  lower : ∀ line ∈ signed.headerLines, lowerName line.1 = line.1
  authenticated : connector.credentials ≠ .none →
    ∃ text, connector.credentials.headerText = .ok (some text) ∧
      signed.valuesOf "authorization" = [⟨text, true⟩]
  sensitive : ∀ line ∈ signed.headerLines, line.2.sensitive = true →
    connector.credentials ≠ .none ∧ line.1 = "authorization"
  declared : ∀ name, (lowerName name = "authorization" → connector.credentials = .none) →
    signed.valuesOf (lowerName name) =
      ((lastDeclared? connector.headers.toList name).map fun text => ⟨text, false⟩).toList

end Connector

theorem Credentials.eq_none_of_headerText {credentials : Credentials}
    (h : credentials.headerText = .ok Option.none) : credentials = none := by
  cases credentials with
  | none => rfl
  | basic username password =>
      obtain ⟨user, -, h⟩ := ok_of_bind h
      obtain ⟨secret, -, h⟩ := ok_of_bind h
      cases h
  | bearer token =>
      obtain ⟨secret, -, h⟩ := ok_of_bind h
      cases h

namespace Connector

theorem signedHeaders {before signed : Request} (hfurther : before.further = [])
    (hheaders : setHeaders Table.empty connector.headers.toList = .ok before.headers)
    (hsigned : connector.credentials.apply before = .ok signed) :
    connector.SignedHeaders signed := by
  obtain ⟨-, hplain, hget⟩ := setHeaders_ok Headers.plain_empty hheaders
  have hlines : ∀ line ∈ before.headerLines,
      lowerName line.1 = line.1 ∧ line.2.sensitive = false := by
    rw [Request.headerLines, hfurther, List.append_nil]
    exact hplain
  have hvalues : ∀ name, before.valuesOf (lowerName name) =
      ((lastDeclared? connector.headers.toList name).map fun text => ⟨text, false⟩).toList := by
    intro name
    rw [Request.valuesOf_eq, hget, hfurther, Table.get?_empty, Option.or_none]
    exact List.append_nil _
  have hsight : ∀ line ∈ before.headerLines, line.2.sensitive ≠ true := by
    intro line hline
    rw [(hlines line hline).2]
    exact Bool.false_ne_true
  rcases Credentials.apply_ok hsigned with ⟨htext, rfl⟩ | ⟨text, htext, rfl⟩
  · have hnone := Credentials.eq_none_of_headerText htext
    exact {
      further := hfurther
      lower := fun line hline => (hlines line hline).1
      authenticated := fun hmethod => absurd hnone hmethod
      sensitive := fun line hline hsensitive => absurd hsensitive (hsight line hline)
      declared := fun name _ => hvalues name }
  · -- The header that authenticates is set, so there are credentials.
    have hmethod : connector.credentials ≠ .none := by
      intro hnone
      rw [hnone] at htext
      cases htext
    have hlower : lowerName Credentials.headerName = Credentials.headerName := by decide
    refine {
      further := Request.further_setHeader hfurther _ _
      lower := fun line hline => ?_
      authenticated := fun _ => ⟨text, htext, Request.valuesOf_setHeader_self _ _ _⟩
      sensitive := fun line hline hsensitive => ?_
      declared := fun name hfree => ?_ }
    · rcases Request.mem_headerLines_setHeader hline with rfl | ⟨hbefore, -⟩
      · exact hlower
      · exact (hlines line hbefore).1
    · rcases Request.mem_headerLines_setHeader hline with rfl | ⟨hbefore, -⟩
      · exact ⟨hmethod, rfl⟩
      · exact absurd hsensitive (hsight line hbefore)
    · have hother : lowerName name ≠ Credentials.headerName := fun heq => hmethod (hfree heq)
      rw [Request.valuesOf_setHeader_of_ne _ hother, hvalues]

theorem givesHeaders (h : connector.request vars = .ok request) :
    connector.GivesHeaders request := by
  obtain ⟨headers, hheaders, h⟩ := ok_of_bind h
  obtain ⟨signed, hsigned, h⟩ := ok_of_bind h
  cases h
  have hstage : connector.SignedHeaders signed := signedHeaders rfl hheaders hsigned
  constructor
  case lower =>
    intro line hline
    rcases Request.mem_headerLines_setHeader hline with rfl | ⟨hline, -⟩
    · decide
    · exact hstage.lower line hline
  case distinct => exact Request.nodup_of_further (Request.further_setHeader hstage.further _ _)
  case contentType => exact Request.valuesOf_setHeader_self _ _ _
  case authenticated =>
    rw [Request.valuesOf_setHeader_of_ne _ (by decide)]
    exact hstage.authenticated
  case sensitive =>
    intro line hline hsensitive
    rcases Request.mem_headerLines_setHeader hline with rfl | ⟨hline, -⟩
    · cases hsensitive
    · exact hstage.sensitive line hline hsensitive
  case declared =>
    intro name hname hfree
    rw [Request.valuesOf_setHeader_of_ne _ hname]
    exact hstage.declared name hfree

end Connector

theorem exists_refused (h : ¬ IsHeader entry) : ∃ e, Refused entry e := by
  obtain ⟨name, value⟩ := entry
  by_cases hname : headerName? name = none
  · exact ⟨_, .name hname⟩
  · have hvalue : isHeaderText value = false := by
      by_contra hfits
      exact h ⟨hname, by simpa using hfits⟩
    exact ⟨_, .value hname hvalue⟩

theorem exists_firstRefused_iff :
    (∃ e, FirstRefused entries e) ↔ ∃ entry ∈ entries, ¬ IsHeader entry := by
  constructor
  · rintro ⟨e, before, entry, after, rfl, -, hrefused⟩
    exact ⟨entry, by simp, hrefused.not_isHeader⟩
  · rintro ⟨entry, hentry, hinvalid⟩
    induction entries with
    | nil => cases hentry
    | cons first rest ih =>
        by_cases hfirst : IsHeader first
        · have hrest : entry ∈ rest := by
            rcases List.mem_cons.mp hentry with rfl | hrest
            · exact absurd hfirst hinvalid
            · exact hrest
          obtain ⟨e, hrefused⟩ := ih hrest
          exact ⟨e, firstRefused_cons.mpr (.inr ⟨hfirst, hrefused⟩)⟩
        · obtain ⟨e, hrefused⟩ := exists_refused hfirst
          exact ⟨e, firstRefused_cons.mpr (.inl hrefused)⟩

/-- Whether a request can be authenticated is up to the credentials alone. -/
theorem Credentials.apply_error_of_apply_error {credentials : Credentials} {r s : Request}
    (h : credentials.apply r = .error e) : credentials.apply s = .error e := by
  unfold apply at h ⊢
  cases htext : credentials.headerText with
  | error other =>
      rw [htext] at h
      exact h
  | ok text =>
      rw [htext] at h
      cases text with
      | none => cases h
      | some text =>
          change (if isHeaderText text then _ else _) = _ at h ⊢
          split at h
          · cases h
          · rename_i hvalue
            rw [if_neg hvalue]
            exact h

namespace Connector

theorem request_error_iff : connector.request vars = .error e ↔
    FirstRefused connector.headers.toList e ∨
      (∀ entry ∈ connector.headers.toList, IsHeader entry) ∧
        ∀ before, connector.credentials.apply before = .error e := by
  constructor
  · intro h
    rcases error_of_bind h with hheaders | ⟨headers, hheaders, h⟩
    · exact .inl (setHeaders_error_iff.mp hheaders)
    rcases error_of_bind h with hsigned | ⟨signed, -, h⟩
    · refine .inr ⟨(setHeaders_ok Headers.plain_empty hheaders).1, fun before => ?_⟩
      exact Credentials.apply_error_of_apply_error hsigned
    · cases h
  · rintro (hrefused | ⟨hvalid, happly⟩)
    · rw [request, setHeaders_error_iff.mpr hrefused]
      rfl
    · unfold request
      cases hheaders : setHeaders Table.empty connector.headers.toList with
      | error other =>
          obtain ⟨entry, hentry, hinvalid⟩ :=
            exists_firstRefused_iff.mp ⟨other, setHeaders_error_iff.mp hheaders⟩
          exact absurd (hvalid entry hentry) hinvalid
      | ok headers =>
          change (connector.credentials.apply _ >>= _) = _
          rw [happly]
          rfl

/-- Where the headers of requests come from, and why requests are refused. -/
structure Precedence (connector : Connector) (vars : List (String × Json)) : Prop where
  /-- The headers of the user are gone through in the order of the bytes of their names. -/
  ordered : connector.headers.toList.Pairwise fun d e => Text.bytes d.1 < Text.bytes e.1
  declared : ∀ c, ofConfiguration c = .ok connector → DeclaredBy connector.headers c
  formed : ∀ request, connector.request vars = .ok request → connector.GivesHeaders request
  refused : ∀ e, connector.request vars = .error e ↔
    FirstRefused connector.headers.toList e ∨
      (∀ entry ∈ connector.headers.toList, IsHeader entry) ∧
        ∀ before, connector.credentials.apply before = .error e
  refuses : (∃ e, connector.request vars = .error e) ↔
    (∃ entry ∈ connector.headers.toList, ¬ IsHeader entry) ∨
      ∃ e, ∀ before, connector.credentials.apply before = .error e

/-- The header that authenticates takes the place of one of the user, and the content
type that of any other; of names that differ in case the user has the last one. A header
that cannot be sent is reported before the credentials. -/
theorem header_precedence (connector : Connector) (vars : List (String × Json)) :
    connector.Precedence vars where
  ordered := connector.headers.pairwise_bytes_lt
  declared _ := declaredBy_configuration
  formed _ := givesHeaders
  refused _ := request_error_iff
  refuses := by
    constructor
    · rintro ⟨e, h⟩
      rcases request_error_iff.mp h with hfirst | ⟨-, happly⟩
      · exact .inl (exists_firstRefused_iff.mp ⟨e, hfirst⟩)
      · exact .inr ⟨e, happly⟩
    · intro h
      by_cases hinvalid : ∃ entry ∈ connector.headers.toList, ¬ IsHeader entry
      · obtain ⟨e, hfirst⟩ := exists_firstRefused_iff.mpr hinvalid
        exact ⟨e, request_error_iff.mpr (.inl hfirst)⟩
      · obtain ⟨e, happly⟩ := h.resolve_left hinvalid
        push Not at hinvalid
        exact ⟨e, request_error_iff.mpr (.inr ⟨hinvalid, happly⟩)⟩

namespace Sample

def declaring : Configuration :=
  ((Settings.Sample.configuration.setValue "authentication_method" (.string "bearer")).setValue
    "token" (.string "s3cret")).setValue "headers" (.object [("Authorization", .string "mine"),
      ("Content-Type", .string "text/plain"), ("X-Team", .string "a"), ("x-team", .string " b")])

def declared : Connector := {
  trimmed with
  credentials := .bearer (some "s3cret")
  headers := Table.ofList [("Authorization", "mine"), ("Content-Type", "text/plain"),
    ("X-Team", "a"), ("x-team", " b")] }

end Sample

/-- Of the headers of the user one stays, with the later of its two values. -/
theorem later_value_is_sent :
    ofConfiguration Sample.declaring = .ok Sample.declared ∧
      DeclaredBy Sample.declared.headers Sample.declaring ∧
      ∃ request, Sample.declared.request [] = .ok request ∧
        request.valuesOf "x-team" = [⟨" b", false⟩] ∧
        request.valuesOf "content-type" = [⟨"application/json", false⟩] ∧
        request.valuesOf "authorization" = [⟨"Bearer s3cret", true⟩] := by
  have hconnector : ofConfiguration Sample.declaring = .ok Sample.declared := by decide +kernel
  have hprecedence := header_precedence Sample.declared []
  cases hrequest : Sample.declared.request [] with
  | error e =>
      have hok : (Sample.declared.request []).toOption.isSome = true := by decide +kernel
      rw [hrequest] at hok
      cases hok
  | ok request =>
      have hheaders := hprecedence.formed request hrequest
      obtain ⟨text, htext, hvalue⟩ := hheaders.authenticated nofun
      cases htext
      have hteam := hheaders.declared "X-TEAM" (by decide) (by decide)
      have hname : lowerName "X-TEAM" = "x-team" := by decide
      have hlast : lastDeclared? Sample.declared.headers.toList "X-TEAM" = some " b" := by
        decide +kernel
      rw [hname, hlast] at hteam
      exact ⟨hconnector, hprecedence.declared _ hconnector, request, rfl, hteam,
        hheaders.contentType, hvalue⟩

end Connector

end PageHarvest
