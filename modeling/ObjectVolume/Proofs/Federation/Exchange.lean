import ObjectVolume.Federation.TokenService
/-!
# Exchanges of tokens

The library tells refusals apart by codes, and the exceptions that it reports are turned into
conditions with codes of their own. Both tables agree, so that an error has the code of the reply and is
a named condition exactly for the codes that are named (`Tells`). However many tokens are exchanged,
each exchange is one request and its answer is what its own reply means (`exchangeAll_outcome`).
-/
namespace ObjectVolume.Federation

/-- A library does what its documentation says: it reports the exception of a code, and code and
message as they are. -/
structure Library.Documented (lib : Library) : Prop where
  issued : ∀ keys, lib.read (.issued keys) = .ok (some keys)
  withoutKeys : lib.read .withoutKeys = .ok none
  modeled : ∀ exception message, lib.read (.refused (some (Exception.code exception)) message) =
    .error (.modeled exception message)
  unhandled : ∀ code message, (∀ exception, code ≠ some (Exception.code exception)) →
    ∃ text, lib.read (.refused code message) = .error (.unhandled code text)
  unreadable : ∃ text, lib.read .unreadable = .error (.unhandled none text) ∨
    lib.read .unreadable = .error (.unanswered text)
  unreachable : ∃ text, lib.read .unreachable = .error (.unanswered text)

/-- The codes of the named conditions. -/
def namedCodes : List String := Condition.all.map Condition.code

/-- The error tells code and message of a refusal. -/
structure Tells (code : String) (message : Option String) (e : Error) : Prop where
  coded : e.code = code
  named_iff : (∃ condition text, e = .named condition text) ↔ code ∈ namedCodes
  detail : code ∈ namedCodes → e.detail = message.getD ""
  other : code ∉ namedCodes → ∃ text, e = .other (some code) text

/-- There are neither keys nor a code in the reply. -/
def Reply.IsMute : Reply → Prop
  | refused none _ | withoutKeys | unreadable | unreachable => True
  | _ => False

variable {lib : Library} {e : Error}

/-! ## Codes -/

/-- **The tables agree.** An exception has the code of the condition that it is turned into. -/
theorem Exception.code_condition (exception : Exception) :
    exception.condition.code = exception.code := by
  cases exception <;> rfl

theorem Condition.mem_all (c : Condition) : c ∈ Condition.all := by
  cases c <;> decide

/-- The library has exceptions for the named codes, and for no others. -/
theorem mem_namedCodes_iff {code : String} :
    code ∈ namedCodes ↔ ∃ exception : Exception, exception.code = code := by
  constructor
  · intro h
    obtain ⟨condition, -, rfl⟩ := List.mem_map.1 h
    cases condition
    case malformedPolicyDocument => exact ⟨.malformedPolicyDocument, rfl⟩
    case packedPolicyTooLarge => exact ⟨.packedPolicyTooLarge, rfl⟩
    case rejectedClaim => exact ⟨.idpRejectedClaim, rfl⟩
    case providerUnreachable => exact ⟨.idpCommunicationError, rfl⟩
    case invalidToken => exact ⟨.invalidIdentityToken, rfl⟩
    case expiredToken => exact ⟨.expiredToken, rfl⟩
    case regionDisabled => exact ⟨.regionDisabled, rfl⟩
  · rintro ⟨exception, rfl⟩
    rw [← exception.code_condition]
    exact List.mem_map_of_mem exception.condition.mem_all

theorem Error.isRetryable_iff : e.isRetryable = true ↔
    (∃ text, e = .named .providerUnreachable text) ∨ ∃ code text, e = .other code text := by
  cases e with
  | named condition text => simp [isRetryable]
  | other code text => simp [isRetryable]

/-! ## Replies -/

namespace Library.Documented

variable (h : lib.Documented)
include h

theorem outcome_issued (keys : IssuedKeys) : lib.outcome (.issued keys) = .ok keys := by
  simp only [outcome, h.issued]

theorem outcome_modeled (exception : Exception) (message : Option String) :
    lib.outcome (.refused (some exception.code) message) =
      .error (.named exception.condition (message.getD "")) := by
  simp only [outcome, h.modeled, Fault.error]

theorem outcome_unhandled {code : Option String} (message : Option String)
    (hcode : ∀ exception : Exception, code ≠ some exception.code) :
    ∃ text, lib.outcome (.refused code message) = .error (.other code text) := by
  obtain ⟨text, hread⟩ := h.unhandled code message hcode
  exact ⟨text, by simp only [outcome, hread, Fault.error]⟩

/-- Without a code there is no telling what went wrong. -/
theorem outcome_mute {reply : Reply} (hmute : reply.IsMute) :
    ∃ text, lib.outcome reply = .error (.other none text) := by
  cases reply with
  | issued keys => exact hmute.elim
  | withoutKeys =>
    refine ⟨"Token service returned no credentials", ?_⟩
    simp only [outcome, h.withoutKeys]
  | refused code message =>
    cases code with
    | none => exact h.outcome_unhandled message (by simp)
    | some code => exact hmute.elim
  | unreadable =>
    obtain ⟨text, hread | hread⟩ := h.unreadable
    · exact ⟨text, by simp only [outcome, hread, Fault.error]⟩
    · exact ⟨text, by simp only [outcome, hread, Fault.error]⟩
  | unreachable =>
    obtain ⟨text, hread⟩ := h.unreachable
    exact ⟨text, by simp only [outcome, hread, Fault.error]⟩

/-- **Refusals.** The error of a refusal tells its code and message. -/
theorem tells (code : String) (message : Option String) :
    ∃ e, lib.outcome (.refused (some code) message) = .error e ∧ Tells code message e := by
  by_cases hcode : code ∈ namedCodes
  · obtain ⟨exception, rfl⟩ := mem_namedCodes_iff.1 hcode
    refine ⟨_, h.outcome_modeled exception message, ?_⟩
    exact
      { coded := exception.code_condition
        named_iff := iff_of_true ⟨_, _, rfl⟩ hcode
        detail := fun _ => rfl
        other := fun hother => absurd hcode hother }
  · have hnone : ∀ exception : Exception, some code ≠ some exception.code := by
      intro exception heq
      exact hcode (mem_namedCodes_iff.2 ⟨exception, (Option.some.inj heq).symm⟩)
    obtain ⟨text, houtcome⟩ := h.outcome_unhandled message hnone
    refine ⟨_, houtcome, ?_⟩
    exact
      { coded := rfl
        named_iff := iff_of_false (by rintro ⟨condition, text, heq⟩; cases heq) hcode
        detail := fun hnamed => absurd hnamed hcode
        other := fun _ => ⟨text, rfl⟩ }

/-- Different codes are different conditions. -/
theorem code_eq_of_named {code code' text text' : String} {message message' : Option String}
    {condition : Condition}
    (houtcome : lib.outcome (.refused (some code) message) = .error (.named condition text))
    (houtcome' : lib.outcome (.refused (some code') message') = .error (.named condition text')) :
    code = code' := by
  obtain ⟨e, he, htells⟩ := h.tells code message
  obtain ⟨e', he', htells'⟩ := h.tells code' message'
  rw [houtcome] at he
  rw [houtcome'] at he'
  cases he
  cases he'
  exact htells.coded.symm.trans htells'.coded

end Library.Documented

/-- The plain library does what is documented. -/
theorem documented_plain : Library.plain.Documented where
  issued _ := rfl
  withoutKeys := rfl
  modeled exception message := by
    cases exception <;> rfl
  unhandled code message hcode := by
    have hnone : Exception.all.find? (code = some ·.code) = none := by
      rw [List.find?_eq_none]
      intro exception _
      simpa using hcode exception
    refine ⟨message.getD "", ?_⟩
    simp only [Library.plain, hnone]
  unreadable := ⟨_, .inr rfl⟩
  unreachable := ⟨_, rfl⟩

/-! ## Exchanges one after the other -/

variable {σ : Type} (line : Line σ)

/-- **One exchange** is one request over the connection, and its answer is what its reply means. The
connection is kept. -/
theorem exchange_outcome (lib : Library) (request : Request) (x : Exchanging σ) :
    ∃ reply, (exchange lib line request x).1 = lib.outcome reply ∧
      (exchange lib line request x).2.sent =
        x.sent ++ [⟨x.exchanger.connect line x.line, request, reply⟩] ∧
      (exchange lib line request x).2.exchanger.connection = some (x.exchanger.connect line x.line) :=
  ⟨_, rfl, rfl, rfl⟩

/-- Exchanges share the connection of the first one. -/
theorem exchangeAll_sent (lib : Library) (requests : List Request) (x : Exchanging σ) :
    ∃ replies, replies.length = requests.length ∧
      (exchangeAll lib line requests x).1 = replies.map lib.outcome ∧
      (exchangeAll lib line requests x).2.sent = x.sent ++
        (requests.zip replies).map fun (request, reply) =>
          ⟨x.exchanger.connect line x.line, request, reply⟩ := by
  induction requests generalizing x with
  | nil => exact ⟨[], rfl, rfl, (List.append_nil _).symm⟩
  | cons request rest ih =>
    obtain ⟨reply, hanswer, hsent, hkept⟩ := exchange_outcome line lib request x
    obtain ⟨replies, hlength, hanswers, hrest⟩ := ih (exchange lib line request x).2
    have hconnection : (exchange lib line request x).2.exchanger.connect line
        (exchange lib line request x).2.line = x.exchanger.connect line x.line := by
      rw [Exchanger.connect, hkept]
      rfl
    refine ⟨reply :: replies, by rw [List.length_cons, hlength, List.length_cons], ?_, ?_⟩
    · rw [List.map_cons, ← hanswer, ← hanswers]
      rfl
    · rw [hconnection, hsent, List.append_assoc] at hrest
      exact hrest

/-- **Exchanges.** Each of any number of exchanges sends one request, which is its own, and its answer
is what its own reply means. Keys are handed on. The error of a refusal with a code tells code and
message; without a code, or if the answer cannot be read, the code is said to be unknown. Different
named codes are different conditions. It may help to repeat an exchange exactly if the
provider could not be reached, or if the error has no name. -/
theorem exchangeAll_outcome (documented : lib.Documented) (requests : List Request)
    (x : Exchanging σ) :
    (∃ connection replies, replies.length = requests.length ∧
      (exchangeAll lib line requests x).1 = replies.map lib.outcome ∧
      (exchangeAll lib line requests x).2.sent = x.sent ++
        (requests.zip replies).map fun (request, reply) => ⟨connection, request, reply⟩) ∧
    (∀ keys, lib.outcome (.issued keys) = .ok keys) ∧
    (∀ code message, ∃ e, lib.outcome (.refused (some code) message) = .error e ∧
      Tells code message e) ∧
    (∀ reply : Reply, reply.IsMute →
      ∃ e text, lib.outcome reply = .error e ∧ e = .other none text ∧ e.code = "Unknown") ∧
    (∀ code message code' message' condition text text',
      lib.outcome (.refused (some code) message) = .error (.named condition text) →
      lib.outcome (.refused (some code') message') = .error (.named condition text') →
      code = code') ∧
    ∀ e : Error, e.isRetryable = true ↔
      (∃ text, e = .named .providerUnreachable text) ∨ ∃ code text, e = .other code text := by
  refine ⟨⟨_, exchangeAll_sent line lib requests x⟩, documented.outcome_issued, documented.tells, ?_,
    fun _ _ _ _ _ _ _ => documented.code_eq_of_named, fun _ => Error.isRetryable_iff⟩
  intro reply hmute
  obtain ⟨text, houtcome⟩ := documented.outcome_mute hmute
  exact ⟨_, text, houtcome, rfl, rfl⟩

/-- A line over which the replies of a script come back, one for each request. -/
def scriptedLine : Line (List Reply) where
  region _ := some "eu-west-1"
  carry _ _ replies := (replies.headD .unreachable, replies.tail)

/-- A token is late, and then there are too many requests. -/
def twoRefusals : Exchanging (List Reply) where
  exchanger := { pinned := some "us-east-1" }
  line := [.refused (some "ExpiredTokenException") (some "late"), .refused (some "Throttling") none]

theorem exchangeAll_outcome_refusals :
    Library.plain.Documented ∧
      (exchangeAll .plain scriptedLine [⟨"a", "bucketvol", "x"⟩, ⟨"b", "bucketvol", "y"⟩]
        twoRefusals).2.sent =
          [⟨⟨some "us-east-1"⟩, ⟨"a", "bucketvol", "x"⟩,
              .refused (some "ExpiredTokenException") (some "late")⟩,
            ⟨⟨some "us-east-1"⟩, ⟨"b", "bucketvol", "y"⟩, .refused (some "Throttling") none⟩] ∧
      (∃ e, Library.plain.outcome (.refused (some "ExpiredTokenException") (some "late")) = .error e ∧
        Tells "ExpiredTokenException" (some "late") e) ∧
      ∃ e, Library.plain.outcome (.refused (some "Throttling") none) = .error e ∧
        Tells "Throttling" none e := by
  obtain ⟨-, -, htells, -⟩ := exchangeAll_outcome scriptedLine documented_plain
    [⟨"a", "bucketvol", "x"⟩, ⟨"b", "bucketvol", "y"⟩] twoRefusals
  exact ⟨documented_plain, rfl, htells _ _, htells _ _⟩

end ObjectVolume.Federation
