import ObjectVolume.Proofs.Client
import ObjectVolume.Proofs.Text.Quoted
import ObjectVolume.Proofs.Url.Login
/-!
# Logins in endpoints

What is made of an endpoint does not depend on the user name and the password in it: it is accepted or
refused for the same reason with any others, and the masked endpoint is the same. But what is shown of a
secret, and the messages of two refusals, quote the endpoint as it was given, login and all
(`login_quoted`).
-/
namespace ObjectVolume

/-! ## Quoted endpoints -/

namespace ConfigProblem

/-- The endpoint stands in the message. -/
def quotesEndpoint : ConfigProblem → Bool
  | invalidEndpoint _ _ | noHostname _ => true
  | _ => false

/-- The same problem with another endpoint. -/
def quoting (endpoint : String) : ConfigProblem → ConfigProblem
  | invalidEndpoint _ why => invalidEndpoint endpoint why
  | noHostname _ => noHostname endpoint
  | p => p

theorem quoting_of_not_quotes {p : ConfigProblem} (h : p.quotesEndpoint = false) (endpoint : String) :
    p.quoting endpoint = p := by
  cases p <;> first | rfl | cases h

/-- Messages that quote the endpoint are the same only for the same endpoint. -/
theorem message_quoting_eq_iff (p : ConfigProblem) (e e' : String) :
    (p.quoting e').message = (p.quoting e).message ↔ p.quotesEndpoint = false ∨ e' = e := by
  cases h : p.quotesEndpoint with
  | false => simp [quoting_of_not_quotes h]
  | true =>
    rw [or_iff_right (by decide)]
    match p, h with
    | invalidEndpoint _ _, _ =>
      unfold quoting message
      rw [String.append_left_inj, String.append_left_inj, String.append_right_inj]
    | noHostname _, _ =>
      unfold quoting message
      rw [String.append_left_inj, String.append_right_inj]

end ConfigProblem

/-! ## What is shown of a secret -/

/-- The endpoint can be read off. -/
theorem Secret.labelled_endpoint_eq_iff (s : Secret) (e e' : String) :
    ({ s with endpoint := e }.labelled.compact = { s with endpoint := e' }.labelled.compact ↔ e = e') ∧
    ({ s with endpoint := e }.labelled.indented = { s with endpoint := e' }.labelled.indented ↔
      e = e') := by
  constructor
  · simp [labelled, Text.Labelled.compact, Text.Labelled.field, Text.quote_inj]
  · simp [labelled, Text.Labelled.indented, Text.Labelled.field, Text.quote_inj]

/-! ## Addresses -/

/-- The address that a URL leads to. -/
def Url.address (u : Url) : Address :=
  ⟨u.scheme == "https", (u.hostText?.getD "") ++ u.portText⟩

/-- Refuses addresses that no connection can be opened to. -/
def Address.check (a : Address) : Except ConfigProblem Unit :=
  match a.checkCharacters >>= fun _ => a.checkCloudHost with
  | .ok _ => .ok ()
  | .error why => .error (.invalidAddress why)

/-- No address is quoted as an endpoint. -/
theorem Address.mapError_check (a : Address) (endpoint : String) :
    a.check.mapError (·.quoting endpoint) = a.check := by
  unfold check
  split <;> rfl

/-! ## Two endpoints alike -/

theorem mapError_bind {ε α β : Type} (g : ε → ε) (x : Except ε α) (f : α → Except ε β) :
    (x >>= f).mapError g = x.mapError g >>= fun a => (f a).mapError g := by
  cases x <;> rfl

theorem Url.map_bare_eq_cases {a a' : Except Problem Url} (h : a.map bare = a'.map bare) :
    (∃ why, a = .error why ∧ a' = .error why) ∨ ∃ u u', a = .ok u ∧ a' = .ok u' ∧ u.bare = u'.bare := by
  cases a with
  | error why =>
    cases a' with
    | error why' => exact .inl ⟨why, rfl, by simpa [Except.map, eq_comm] using h⟩
    | ok u' => cases h
  | ok u =>
    cases a' with
    | error why' => cases h
    | ok u' => exact .inr ⟨u, u', rfl, rfl, by simpa [Except.map] using h⟩

namespace Config

/-- The configuration with another endpoint. -/
def withEndpoint (c : Config) (endpoint : String) : Config :=
  { c with endpoint }

theorem validate_eq_bare (c : Config) : c.validate = c.url.map Url.bare >>= fun _ => c.checkRest := by
  rw [validate_eq]
  cases c.url <;> rfl

/-- User name and password have no part in the address. -/
theorem checkAddress_eq_bare (c : Config) :
    c.checkAddress = c.url.map Url.bare >>= fun u => u.address.check := by
  unfold checkAddress address isSecure host
  cases c.url <;> rfl

theorem mapError_checkRest (c : Config) (endpoint : String) :
    c.checkRest.mapError (·.quoting endpoint) = c.checkRest := by
  unfold checkRest
  split_ifs <;> rfl

section Alike

variable {e e' : String} (h : (Url.parse e).map Url.bare = (Url.parse e').map Url.bare) (c : Config)
include h

/-- Endpoints that are read alike but for user name and password are refused for the same reason. -/
theorem map_bare_url :
    (c.withEndpoint e').url.map Url.bare =
      ((c.withEndpoint e).url.map Url.bare).mapError (·.quoting e') := by
  unfold url withEndpoint
  dsimp only
  rcases Url.map_bare_eq_cases h with ⟨why, hread, hread'⟩ | ⟨u, u', hread, hread', hbare⟩
  · rw [hread, hread']
    rfl
  · -- The host is none of what `bare` takes away.
    have hhost : u.hostText? = u'.hostText? :=
      show u.bare.hostText? = u'.bare.hostText? from congrArg Url.hostText? hbare
    rw [hread, hread']
    dsimp only
    rw [hhost]
    split
    · simp only [Except.map, Except.mapError, hbare]
    · rfl

/-- They are also masked alike. -/
theorem maskedEndpoint_withEndpoint :
    (c.withEndpoint e').maskedEndpoint = (c.withEndpoint e).maskedEndpoint := by
  rcases Url.map_bare_eq_cases h with ⟨why, hread, hread'⟩ | ⟨u, u', hread, hread', hbare⟩
  · simp only [maskedEndpoint, withEndpoint, hread, hread']
  · rw [maskedEndpoint_of_parse (c := c.withEndpoint e') hread',
      maskedEndpoint_of_parse (c := c.withEndpoint e) hread, hbare]

theorem validate_withEndpoint :
    (c.withEndpoint e').validate = (c.withEndpoint e).validate.mapError (·.quoting e') := by
  have hrest : (c.withEndpoint e').checkRest = (c.withEndpoint e).checkRest := rfl
  simp only [validate_eq_bare, map_bare_url h, mapError_bind, mapError_checkRest, hrest]

theorem checkAddress_withEndpoint :
    (c.withEndpoint e').checkAddress = (c.withEndpoint e).checkAddress.mapError (·.quoting e') := by
  simp only [checkAddress_eq_bare, map_bare_url h, mapError_bind, Address.mapError_check]

end Alike

end Config

/-! ## Refusals -/

/-- Why an answer is none. -/
def refusal? {α : Type} : Except ConfigProblem α → Option ConfigProblem
  | .ok _ => none
  | .error p => some p

theorem refusal?_mapError {α : Type} (g : ConfigProblem → ConfigProblem) (a : Except ConfigProblem α) :
    refusal? (a.mapError g) = (refusal? a).map g := by
  cases a <;> rfl

/-- What a configuration is needed for: the URL of its endpoint, its validation, a client, and a client
for the store at the endpoint. -/
inductive Purpose where
  | url
  | validation
  | client
  | connection

/-- Why a configuration is refused. -/
def Purpose.refusal? : Purpose → Config → Option ConfigProblem
  | .url, c => ObjectVolume.refusal? c.url
  | .validation, c => ObjectVolume.refusal? c.validate
  | .client, c => ObjectVolume.refusal? (Client.ofConfig c)
  | .connection, c => ObjectVolume.refusal? (Client.connect c)

/-- Endpoints that are read alike but for user name and password are accepted alike and refused alike, but
for the endpoint that is quoted. -/
theorem Purpose.refusal?_withEndpoint (purpose : Purpose) (c : Config) {e e' : String}
    (h : (Url.parse e).map Url.bare = (Url.parse e').map Url.bare) :
    purpose.refusal? (c.withEndpoint e') = (purpose.refusal? (c.withEndpoint e)).map (·.quoting e') := by
  have of_bare (a : Except ConfigProblem Url) :
      ObjectVolume.refusal? a = ObjectVolume.refusal? (a.map Url.bare) := by
    cases a <;> rfl
  cases purpose with
  | url => simp only [refusal?, of_bare (Config.url _), Config.map_bare_url h, refusal?_mapError]
  | validation => simp only [refusal?, Config.validate_withEndpoint h, refusal?_mapError]
  | client =>
    have hclient (c : Config) :
        ObjectVolume.refusal? (Client.ofConfig c) = ObjectVolume.refusal? c.validate := by
      unfold Client.ofConfig
      cases c.validate <;> rfl
    simp only [refusal?, hclient, Config.validate_withEndpoint h, refusal?_mapError]
  | connection =>
    have hconnect (c : Config) : ObjectVolume.refusal? (Client.connect c) =
        ObjectVolume.refusal? (c.validate >>= fun _ => c.checkAddress) := by
      rw [Client.connect_eq]
      cases c.validate <;> cases c.checkAddress <;> rfl
    simp only [refusal?, hconnect, Config.validate_withEndpoint h, Config.checkAddress_withEndpoint h]
    rw [← mapError_bind, refusal?_mapError]

/-! ## Logins -/

namespace Url.Login

theorem urlText_inj {l l' : Login} {scheme rest : String} :
    l.urlText scheme rest = l'.urlText scheme rest ↔ l.text = l'.text := by
  unfold urlText
  rw [String.append_left_inj, String.append_left_inj, String.append_right_inj]

/-- **Of two logins**, nothing shows which one is in an endpoint but the endpoint itself, and that is quoted.
The masked endpoint is the same, and for whatever a configuration is needed, it is accepted with both
logins or refused with both; then the messages are the same unless they quote the endpoint. But what is
shown of a secret always tells the logins apart. -/
theorem login_quoted (scheme rest : String) (hcolon : ':' ∉ scheme.toList) (l l' : Login) :
    (∀ c : Config,
      (c.withEndpoint (l'.urlText scheme rest)).maskedEndpoint =
        (c.withEndpoint (l.urlText scheme rest)).maskedEndpoint ∧
      ∀ purpose : Purpose,
        purpose.refusal? (c.withEndpoint (l'.urlText scheme rest)) =
          (purpose.refusal? (c.withEndpoint (l.urlText scheme rest))).map
            (·.quoting (l'.urlText scheme rest)) ∧
        ∀ p, purpose.refusal? (c.withEndpoint (l.urlText scheme rest)) = some p →
          ((Error.config (p.quoting (l'.urlText scheme rest))).message = (Error.config p).message ↔
            p.quotesEndpoint = false ∨ l'.text = l.text)) ∧
    ∀ s : Secret,
      ({ s with endpoint := l'.urlText scheme rest }.labelled.compact =
          { s with endpoint := l.urlText scheme rest }.labelled.compact ↔ l'.text = l.text) ∧
      ({ s with endpoint := l'.urlText scheme rest }.labelled.indented =
          { s with endpoint := l.urlText scheme rest }.labelled.indented ↔ l'.text = l.text) := by
  obtain ⟨answer, hanswer⟩ := parse_login_alike scheme rest hcolon
  have halike (l l' : Login) : (parse (l.urlText scheme rest)).map bare =
      (parse (l'.urlText scheme rest)).map bare := (hanswer l).trans (hanswer l').symm
  refine ⟨fun c => ⟨Config.maskedEndpoint_withEndpoint (halike l l') c, fun purpose =>
    ⟨purpose.refusal?_withEndpoint c (halike l l'), fun p hp => ?_⟩⟩, fun s => ?_⟩
  · -- A refusal quotes no other endpoint than the given one.
    have hown : p.quoting (l.urlText scheme rest) = p := by
      have hrefusal := purpose.refusal?_withEndpoint c (halike l l)
      rw [hp] at hrefusal
      exact (Option.some.inj hrefusal).symm
    unfold Error.message
    rw [String.append_right_inj, ← urlText_inj, ← ConfigProblem.message_quoting_eq_iff p, hown]
  · simp only [Secret.labelled_endpoint_eq_iff, urlText_inj, and_self]

def ann : Login := ⟨"ann", "pw", by decide, by decide⟩

def bob : Login := ⟨"bob", "", by decide, by decide⟩

def keyless : Config :=
  { Client.login with credentials := ⟨"", "secret", none⟩ }

/-- With no host the endpoint is quoted, with no access key it is not. -/
theorem login_quoted_ann :
    (Purpose.connection.refusal? (Client.login.withEndpoint (bob.urlText "http" "")) =
        some (.invalidEndpoint "http://bob:@" .emptyHost) ∧
      (Error.config (.invalidEndpoint "http://bob:@" .emptyHost)).message ≠
        (Error.config (.invalidEndpoint "http://ann:pw@" .emptyHost)).message) ∧
    (keyless.withEndpoint (bob.urlText "http" "[::1]")).maskedEndpoint =
      (keyless.withEndpoint (ann.urlText "http" "[::1]")).maskedEndpoint ∧
    Purpose.validation.refusal? (keyless.withEndpoint (bob.urlText "http" "[::1]")) =
      some .emptyAccessKey := by
  have hempty : Purpose.connection.refusal? (Client.login.withEndpoint (ann.urlText "http" "")) =
      some (.invalidEndpoint "http://ann:pw@" .emptyHost) := by decide +kernel
  have hkey : Purpose.validation.refusal? (keyless.withEndpoint (ann.urlText "http" "[::1]")) =
      some .emptyAccessKey := by decide +kernel
  have hbob : bob.urlText "http" "" = "http://bob:@" := by decide
  obtain ⟨hnohost, -⟩ := login_quoted "http" "" (by decide) ann bob
  obtain ⟨hlocal, -⟩ := login_quoted "http" "[::1]" (by decide) ann bob
  obtain ⟨hrefused, hmessage⟩ := (hnohost Client.login).2 .connection
  obtain ⟨hmasked, hothers⟩ := hlocal keyless
  obtain ⟨hrefused', -⟩ := hothers .validation
  rw [hempty] at hrefused
  rw [hkey] at hrefused'
  refine ⟨⟨hrefused.trans (by rw [hbob]; rfl), ?_⟩, hmasked, hrefused'⟩
  have hdiffer := hmessage _ hempty
  rw [hbob] at hdiffer
  exact fun h => absurd (hdiffer.1 h) (by decide)

/-- Whatever the endpoint is quoted in shows user name and password. -/
theorem login_shown :
    ((⟨"", "", "", ann.urlText "http" "minio:9000", none⟩ : Secret).labelled.compact =
      "SecretBundle \x7b region: \"\", endpoint: \"http://ann:pw@minio:9000\", iam_role_arn: None, .. \x7d" ∧
    (⟨"", "", "", bob.urlText "http" "minio:9000", none⟩ : Secret).labelled.compact ≠
      (⟨"", "", "", ann.urlText "http" "minio:9000", none⟩ : Secret).labelled.compact) ∧
    ((Client.connect (Client.login.withEndpoint (ann.urlText "http" ""))).mapError
        fun p => (Error.config p).message) =
      .error "Configuration error: Invalid endpoint URL 'http://ann:pw@': empty host" ∧
    ((Client.connect (Client.login.withEndpoint (bob.urlText "http" ""))).mapError
        fun p => (Error.config p).message) =
      .error "Configuration error: Invalid endpoint URL 'http://bob:@': empty host" := by
  have hann : Text.quote (ann.urlText "http" "minio:9000") = "\"http://ann:pw@minio:9000\"" :=
    Text.quote_of_isPlain (by decide)
  refine ⟨⟨?_, fun h => ?_⟩, by decide +kernel, by decide +kernel⟩
  · simp only [Secret.labelled, hann]
    decide +kernel
  · have hendpoint := (Secret.labelled_endpoint_eq_iff ⟨"", "", "", "", none⟩ _ _).1.1 h
    exact absurd (urlText_inj.1 hendpoint) (by decide)

end Url.Login

end ObjectVolume
