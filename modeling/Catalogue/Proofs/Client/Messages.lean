import Mathlib
import Catalogue.Proofs.Client.Unreadable

/-!
The message of an error. A body of JSON is told apart from other bodies, and an object with a
message or a detail from other values. Something is always said, if need be by the status alone, and
it is a text unless the body names something else in its place.
-/

namespace Catalogue

namespace Reply

def IsRejection (reply : Reply) : Prop := 400 ≤ reply.status ∧ reply.status < 600

def statusLine (reply : Reply) : Text :=
  Text.ofInt reply.status ++
    Text.ofString (if reply.status < 500 then " Client Error: " else " Server Error: ") ++
    reply.reason.getD "None" ++ Text.ofString " for url: " ++ reply.address

def Denotes (reply : Reply) (value : Json.Value) : Prop :=
  Json.Grammar.Document .lenient reply.source value

variable {reply : Reply}

theorem value_eq_ok_iff (shallow : reply.source.nesting < Json.depthLimit) {value : Json.Value} :
    reply.value = .ok value ↔ reply.Denotes value :=
  Json.readUnmarked_iff_document shallow

theorem Denotes.unique (shallow : reply.source.nesting < Json.depthLimit) {value other : Json.Value}
    (denotes : reply.Denotes value) (denotesOther : reply.Denotes other) : value = other := by
  have same := (value_eq_ok_iff shallow).mpr denotes
  rw [(value_eq_ok_iff shallow).mpr denotesOther] at same
  exact (Except.ok.inj same).symm

theorem not_denotes (shallow : reply.source.nesting < Json.depthLimit) {failure : Json.Failure}
    (failed : reply.value = .error failure) (value : Json.Value) : ¬ reply.Denotes value := by
  intro denotes
  rw [(value_eq_ok_iff shallow).mpr denotes] at failed
  cases failed

theorem value_ne_tooDeep (shallow : reply.source.nesting < Json.depthLimit) :
    reply.value ≠ .error (.refusal .tooDeep) := by
  intro deep
  have nested := Json.depthLimit_le_nesting (Json.readUnmarked_eq_error_refusal_iff.mp deep)
  omega

theorem isRejection_of_not_isFine (bad : ¬ reply.IsFine) : reply.IsRejection := by
  rw [IsFine] at bad
  rw [IsRejection]
  omega

theorem IsRejection.complaint? (rejected : reply.IsRejection) :
    reply.complaint? = some reply.statusLine := by
  obtain ⟨client, server⟩ := rejected
  rw [Reply.complaint?, statusLine]
  by_cases below : reply.status < 500
  · rw [if_pos ⟨client, below⟩, if_pos below]
    rfl
  · rw [if_neg (by omega), if_pos ⟨by omega, server⟩, if_neg below]
    rfl

theorem statusLine_ne_nil : reply.statusLine ≠ [] := by
  simp [statusLine, Text.ofString]

end Reply

/-! What an object says -/

namespace Json

def Members.report? (members : Members) : Option Value :=
  [Value.get members "message", Value.get members "detail"].find? Value.isGiven

theorem Members.isGiven_of_report? {members : Members} {value : Value}
    (found : members.report? = some value) : value.isGiven = true :=
  List.find?_some found

theorem Value.inspect_object_ne_nil (members : Members) : (Value.object members).inspect ≠ [] := by
  cases members <;> simp [Value.inspect, inspectValue]

end Json

namespace Client

open Json (Value)

theorem isGiven_string {text : Text} : (Value.string text).isGiven = true ↔ text ≠ [] :=
  decide_eq_true_iff

theorem orElse_string (text line : Text) : orElse (.string text) (.string line) =
    .string (if text = [] then line else text) := by
  by_cases empty : text = [] <;> simp [orElse, Value.isGiven, empty]

theorem messageIn_object (members : Json.Members) : messageIn (.object members) =
    members.report?.getD (.string (Value.object members).inspect) := by
  rw [messageIn, orElse, orElse, Json.Members.report?]
  cases message : (Value.get members "message").isGiven <;>
    cases detail : (Value.get members "detail").isGiven <;>
    simp [message, detail]

theorem isGiven_messageIn_object (members : Json.Members) :
    (messageIn (.object members)).isGiven = true := by
  rw [messageIn_object]
  cases found : members.report? with
  | none => exact isGiven_string.mpr (Value.inspect_object_ne_nil members)
  | some value => exact Json.Members.isGiven_of_report? found

theorem messageIn_of_not_object {value : Value} (other : ∀ members, value ≠ .object members) :
    messageIn value = .string value.display := by
  cases value with
  | object members => exact absurd rfl (other members)
  | _ => rfl

/-- What the message of a rejection is, by what its body is: what an object reports, or else the
object itself; another value, or the text of a body that is no value, unless nothing is in them. -/
structure Explains (reply : Reply) (line : Text) (message : Value) : Prop where
  given : message.isGiven = true
  ofReport : ∀ (members : Json.Members) value, reply.Denotes (.object members) →
    members.report? = some value → message = value
  ofObject : ∀ members : Json.Members, reply.Denotes (.object members) → members.report? = none →
    message = .string (Value.object members).inspect
  ofValue : ∀ value, reply.Denotes value → (∀ members, value ≠ .object members) →
    message = .string (if value.display = [] then line else value.display)
  ofText : (∀ value, ¬ reply.Denotes value) →
    message = .string (if reply.text = [] then line else reply.text)
  isText_iff : (∃ text, message = .string text) ↔ ∀ (members : Json.Members) value,
    reply.Denotes (.object members) → members.report? = some value → ∃ text, value = .string text

variable {reply : Reply} {target : Text} {message : Value}

theorem orElse_statusLine_isGiven (text : Text) :
    (Value.string (if text = [] then reply.statusLine else text)).isGiven = true := by
  rw [isGiven_string]
  by_cases empty : text = []
  · rw [if_pos empty]
    exact Reply.statusLine_ne_nil
  · rwa [if_neg empty]

section

variable (shallow : reply.source.nesting < Json.depthLimit)

include shallow

theorem explains_object {members : Json.Members} (denotes : reply.Denotes (.object members)) :
    Explains reply reply.statusLine (messageIn (.object members)) := by
  have only {others : Json.Members} (again : reply.Denotes (.object others)) : others = members :=
    Value.object.inj (again.unique shallow denotes)
  constructor
  · exact isGiven_messageIn_object members
  · intro others value again found
    rw [messageIn_object, ← only again, found]
    rfl
  · intro others again none
    rw [messageIn_object, ← only again, none]
    rfl
  · intro value again other
    exact absurd (again.unique shallow denotes) (other members)
  · exact fun unread => absurd denotes (unread _)
  · rw [messageIn_object]
    constructor
    · intro isText others value again found
      rwa [← only again, found] at isText
    · intro each
      cases found : members.report? with
      | none => exact ⟨_, rfl⟩
      | some value => exact each members value denotes found

theorem explains_value {value : Value} (denotes : reply.Denotes value)
    (other : ∀ members, value ≠ .object members) :
    Explains reply reply.statusLine
      (.string (if value.display = [] then reply.statusLine else value.display)) := by
  have not_object {members : Json.Members} (again : reply.Denotes (.object members)) : False :=
    other members (denotes.unique shallow again)
  constructor
  · exact orElse_statusLine_isGiven _
  · exact fun members _ again => absurd again not_object
  · exact fun members again => absurd again not_object
  · intro again again _
    rw [again.unique shallow denotes]
  · exact fun unread => absurd denotes (unread _)
  · exact iff_of_true ⟨_, rfl⟩ fun members _ again => absurd again not_object

end

theorem explains_text (unread : ∀ value, ¬ reply.Denotes value) :
    Explains reply reply.statusLine
      (.string (if reply.text = [] then reply.statusLine else reply.text)) where
  given := orElse_statusLine_isGiven _
  ofReport _ _ denotes := absurd denotes (unread _)
  ofObject _ denotes := absurd denotes (unread _)
  ofValue _ denotes := absurd denotes (unread _)
  ofText _ := rfl
  isText_iff := iff_of_true ⟨_, rfl⟩ fun _ _ denotes => absurd denotes (unread _)

theorem errorMessage_unread {failure : Json.Failure} (unread : reply.value = .error failure)
    (shallow : failure ≠ .refusal .tooDeep) (line : Text) :
    errorMessage reply line = .ok (.string (if reply.text = [] then line else reply.text)) := by
  rw [errorMessage, unread, ← orElse_string]
  cases failure with
  | fault => rfl
  | refusal cause =>
      cases cause with
      | tooDeep => exact absurd rfl shallow
      | _ => rfl

theorem errorMessage_explains (shallow : reply.source.nesting < Json.depthLimit) :
    ∃ message, errorMessage reply reply.statusLine = .ok message ∧
      Explains reply reply.statusLine message := by
  cases result : reply.value with
  | ok value =>
      have denotes := (reply.value_eq_ok_iff shallow).mp result
      rw [errorMessage, result]
      refine ⟨_, rfl, ?_⟩
      by_cases isObject : ∃ members, value = .object members
      · obtain ⟨members, rfl⟩ := isObject
        rw [orElse, if_pos (isGiven_messageIn_object members)]
        exact explains_object shallow denotes
      · have other : ∀ members, value ≠ .object members := fun members same =>
          isObject ⟨members, same⟩
        rw [messageIn_of_not_object other, orElse_string]
        exact explains_value shallow denotes other
  | error failure =>
      have enough : failure ≠ .refusal .tooDeep := fun deep =>
        reply.value_ne_tooDeep shallow (deep ▸ result)
      exact ⟨_, errorMessage_unread result enough _, explains_text (reply.not_denotes shallow result)⟩

theorem interpretReply_rejection (rejected : reply.IsRejection)
    (found : errorMessage reply reply.statusLine = .ok message) :
    interpretReply target reply = failed (some reply.status) message := by
  rw [interpretReply, rejected.complaint?]
  dsimp only
  rw [found]

theorem interpretReply_rejection_tooDeep (rejected : reply.IsRejection)
    (deep : reply.value = .error (.refusal .tooDeep)) :
    interpretReply target reply = ([], .error .tooDeep) := by
  have escapes : errorMessage reply reply.statusLine = .error .tooDeep := by
    rw [errorMessage, deep]
  rw [interpretReply, rejected.complaint?]
  dsimp only
  rw [escapes]

theorem result_ask (base : Text) (exchange : Text → Exchange) (query : Query) :
    (ask base exchange query).result =
      (interpret (address base query) (exchange (address base query))).2 := rfl

/-- A rejection ends in an error with its status and with a message that says something, whatever
its body is, but one that nests too deep to be read ends the client. The message is a text unless
the body reports something else in its place. A failure of the transport has no status, and its own
text. -/
theorem ask_explains (base : Text) (exchange : Text → Exchange) (query : Query) :
    let outcome := ask base exchange query
    (∀ reply, exchange outcome.address = .reply reply → reply.IsRejection →
      reply.source.nesting ≤ Json.safeDepth →
      ∃ error, outcome.result = .ok (.error error) ∧
        error.toValue = .object [(Text.ofString "status_code", .integer reply.status),
          (Text.ofString "message", error.message)] ∧
        Explains reply reply.statusLine error.message) ∧
    (∀ reply, exchange outcome.address = .reply reply → reply.IsRejection →
      reply.value = .error (.refusal .tooDeep) → outcome.result = .error .tooDeep) ∧
    ∀ kind text, exchange outcome.address = .fault kind text → kind = .transport ∨ kind = .status →
      ∃ error, outcome.result = .ok (.error error) ∧
        error.toValue = .object [(Text.ofString "status_code", .null),
          (Text.ofString "message", .string text)] := by
  intro outcome
  have result : outcome.result = (interpret outcome.address (exchange outcome.address)).2 :=
    result_ask base exchange query
  refine ⟨fun reply given rejected shallow => ?_, fun reply given rejected deep => ?_, ?_⟩
  · obtain ⟨message, found, explains⟩ := errorMessage_explains (Json.lt_depthLimit shallow)
    refine ⟨⟨some reply.status, message⟩, ?_, rfl, explains⟩
    rw [result, given, interpret, interpretReply_rejection rejected found]
    rfl
  · rw [result, given, interpret, interpretReply_rejection_tooDeep rejected deep]
  · rintro kind text given (rfl | rfl)
    · refine ⟨⟨none, .string text⟩, ?_, rfl⟩
      rw [result, given]
      rfl
    · refine ⟨⟨none, .string text⟩, ?_, rfl⟩
      rw [result, given]
      rfl

theorem ask_explains_detail :
    let body : Text := "\x7b\"message\":\"\",\"detail\":\"later\"\x7d"
    let moved (body : Text) (_ : Text) : Exchange :=
      .reply ⟨503, none, "http://host/a%20b", body, body⟩
    (∃ error, (ask "http://host" (moved body) .all).result = .ok (.error error) ∧
      error.message = .string "later") ∧
    (∃ error, (ask "http://host" (moved []) .all).result = .ok (.error error) ∧
      error.message = .string "503 Server Error: None for url: http://host/a%20b") ∧
    ∃ error, (ask "http://host" (fun _ => .fault .transport "refused") .all).result =
        .ok (.error error) ∧
      error.toValue = .object [("status_code", .null), ("message", .string "refused")] := by
  intro body moved
  refine ⟨?_, ?_, ?_⟩
  · obtain ⟨error, result, _, explains⟩ := (ask_explains "http://host" (moved body) .all).1 _ rfl
      ⟨by decide, by decide⟩ (by decide)
    have read : Reply.value ⟨503, none, "http://host/a%20b", body, body⟩ =
        .ok (.object [("message", .string []), ("detail", .string "later")]) := by rfl
    exact ⟨error, result, explains.ofReport _ _
      ((Reply.value_eq_ok_iff (Json.lt_depthLimit (by decide))).mp read) rfl⟩
  · obtain ⟨error, result, _, explains⟩ := (ask_explains "http://host" (moved []) .all).1 _ rfl
      ⟨by decide, by decide⟩ (by decide)
    have unread : Reply.value ⟨503, none, "http://host/a%20b", [], []⟩ =
        .error (.fault .expectedValue ⟨0, 1, 1⟩) := by rfl
    exact ⟨error, result,
      explains.ofText (Reply.not_denotes (Json.lt_depthLimit (by decide)) unread)⟩
  · exact (ask_explains "http://host" (fun _ => .fault .transport "refused") .all).2.2 _ _ rfl
      (Or.inl rfl)

/-- A number under the key of the message is the message, and no text; brackets without end, which
are no value, end the client and are not reported at all. -/
theorem rejection_unexplained :
    let body : Text := "\x7b\"message\":5\x7d"
    let number : Reply := ⟨404, some "Not Found", "http://host/api/paintings", body, body⟩
    let brackets : Text :=
      List.replicate Json.depthLimit (CodePoint.ofChar '[') ++ [CodePoint.ofChar '[']
    let deep : Reply := ⟨404, some "Not Found", "http://host/api/paintings", brackets, brackets⟩
    number.IsRejection ∧ number.Denotes (.object [("message", .integer 5)]) ∧
      (∃ error, (ask "http://host" (fun _ => .reply number) .all).result = .ok (.error error) ∧
        ∀ text, error.message ≠ .string text) ∧
      deep.IsRejection ∧
      (ask "http://host" (fun _ => .reply deep) .all).result = .error .tooDeep := by
  intro body number brackets deep
  have rejected : number.IsRejection := ⟨by decide, by decide⟩
  have rejectedDeep : deep.IsRejection := ⟨by decide, by decide⟩
  have read : number.value = .ok (.object [("message", .integer 5)]) := by rfl
  have found (line : Text) : errorMessage number line = .ok (.integer 5) := by
    rw [errorMessage, read]
    rfl
  have begins : Json.Begins [CodePoint.ofChar '['] :=
    ⟨_, _, rfl, by decide, by decide, by decide⟩
  have refused := Json.read_tooDeep Json.Grammar.areBlanks_nil
    (@Json.opensWithin_brackets .lenient Json.depthLimit) begins
  have nested : deep.value = .error (.refusal .tooDeep) :=
    Json.readUnmarked_eq_error_refusal_iff.mpr refused
  refine ⟨rejected, Json.padded_of_readUnmarked read, ⟨⟨some 404, .integer 5⟩, ?_, ?_⟩,
    rejectedDeep, ?_⟩
  · rw [result_ask, interpret, interpretReply_rejection rejected (found _)]
    rfl
  · intro text same
    cases same
  · rw [result_ask, interpret, interpretReply_rejection_tooDeep rejectedDeep nested]

end Client

end Catalogue
