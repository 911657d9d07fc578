import Mathlib
import Catalogue.Client.Ask
import Catalogue.Proofs.Json.Budget
import Catalogue.Proofs.Json.Overlong

/-!
What a client reports when a body is not JSON. A whole number with too many digits is reported as
invalid JSON. Every fault is reported just as a failure of the transport is.
-/

namespace Catalogue

def Reply.IsFine (reply : Reply) : Prop := reply.status < 400 ∨ 600 ≤ reply.status

namespace Client

open Json.Grammar

def sent (address : Text) : Log.Entry :=
  ⟨Log.Level.debug, .client, Text.ofString "Sending GET request to " ++ address⟩

namespace Outcome

structure Reports (outcome : Outcome) (logged message : Text) : Prop where
  entries : outcome.entries = [sent outcome.address, complain logged]
  result : outcome.result = .ok (.error ⟨none, .string message⟩)

def ReportsBroken (outcome : Outcome) (message : Text) : Prop :=
  outcome.Reports (Text.ofString "API request failed: " ++ message) message

def ReportsInvalid (outcome : Outcome) (message : Text) : Prop :=
  outcome.Reports (Text.ofString "API returned invalid JSON from " ++ outcome.address ++
    Text.ofString ": " ++ message) (Text.ofString "Invalid JSON response: " ++ message)

end Outcome

variable {base target message : Text} {query : Query} {exchange : Text → Exchange}
  {reply : Reply}

theorem reports_iff {logged : Text} : (ask base exchange query).Reports logged message ↔
    interpret (address base query) (exchange (address base query)) =
      ([complain logged], .ok (.error ⟨none, .string message⟩)) := by
  constructor
  · rintro ⟨entries, result⟩
    exact Prod.ext (List.cons.inj entries).2 result
  · intro same
    refine ⟨?_, congrArg Prod.snd same⟩
    exact congrArg (fun meaning => sent (address base query) :: Prod.fst meaning) same

theorem reportsBroken_iff : (ask base exchange query).ReportsBroken message ↔
    interpret (address base query) (exchange (address base query)) = broken message :=
  reports_iff

theorem reportsInvalid_iff : (ask base exchange query).ReportsInvalid message ↔
    interpret (address base query) (exchange (address base query)) =
      unusable (address base query) message :=
  reports_iff

theorem complain_injective {first second : Text} (same : complain first = complain second) :
    first = second :=
  congrArg Log.Entry.message same

theorem broken_injective {other : Text} (same : broken message = broken other) :
    message = other := by
  obtain ⟨_, result⟩ := Prod.mk.inj same
  exact Json.Value.string.inj (congrArg Error.message (Except.error.inj (Except.ok.inj result)))

theorem unusable_injective {other : Text} (same : unusable target message = unusable target other) :
    message = other := by
  obtain ⟨_, result⟩ := Prod.mk.inj same
  exact List.append_cancel_left
    (Json.Value.string.inj (congrArg Error.message (Except.error.inj (Except.ok.inj result))))

theorem append_ne_append {first second : Text} {place : Nat} (inside : place < first.length)
    (insideToo : place < second.length) (differ : first[place]? ≠ second[place]?)
    (rest more : Text) : first ++ rest ≠ second ++ more := by
  intro same
  have letters := congrArg (fun text : Text => text[place]?) same
  rw [List.getElem?_append_left inside, List.getElem?_append_left insideToo] at letters
  exact differ letters

theorem broken_ne_unusable (other : Text) : broken message ≠ unusable target other := by
  intro same
  have logged := complain_injective (List.cons.inj (Prod.mk.inj same).1).1
  rw [List.append_assoc, List.append_assoc] at logged
  exact append_ne_append (show 6 < _ by decide) (by decide) (by decide) _ _ logged

theorem failed_ne_broken (status : Option Int) (found : Json.Value) :
    failed status found ≠ broken message := by
  intro same
  have logged := complain_injective (List.cons.inj (Prod.mk.inj same).1).1
  rw [List.append_assoc, List.append_assoc] at logged
  exact append_ne_append (show 18 < _ by decide) (by decide) (by decide) _ _ logged

theorem failed_ne_unusable (status : Option Int) (found : Json.Value) :
    failed status found ≠ unusable target message := by
  intro same
  have logged := complain_injective (List.cons.inj (Prod.mk.inj same).1).1
  rw [List.append_assoc, List.append_assoc, List.append_assoc, List.append_assoc] at logged
  exact append_ne_append (show 6 < _ by decide) (by decide) (by decide) _ _ logged

/-! What an exchange means -/

inductive Means (target : Text) : Exchange → List Log.Entry × Result → Prop
  | transport {message : Text} : Means target (.fault .transport message) (broken message)
  | fault {reply : Reply} {fault : Json.Fault} {position : Json.Position} : reply.IsFine →
      reply.value = .error (.fault fault position) →
      Means target (.reply reply) (broken (Json.Failure.fault fault position).message)
  | value {message : Text} : Means target (.fault .value message) (unusable target message)
  | digits {reply : Reply} {count : Nat} : reply.IsFine →
      Json.ReachesOverlong reply.source count →
      Means target (.reply reply) (unusable target (Json.tooManyDigitsMessage count))
  | failed {exchange : Exchange} {status : Option Int} {message : Json.Value} :
      Means target exchange (failed status message)
  | unlogged {exchange : Exchange} {result : Result} : Means target exchange ([], result)

theorem complaint?_eq_none_iff : reply.complaint? = none ↔ reply.IsFine := by
  rw [Reply.complaint?, Option.map_eq_none_iff, Reply.IsFine]
  split_ifs <;> simp <;> omega

def meaningOf (target : Text) : Json.Failure → List Log.Entry × Result
  | .fault fault position => broken (Json.Failure.fault fault position).message
  | .refusal .tooDeep => ([], .error .tooDeep)
  | .refusal cause => unusable target cause.message

theorem interpretReply_read {value : Json.Value} (fine : reply.IsFine)
    (read : reply.value = .ok value) : interpretReply target reply = ([], .ok (.ok value)) := by
  rw [interpretReply, complaint?_eq_none_iff.mpr fine]
  dsimp only
  rw [read]

theorem interpretReply_unread {failure : Json.Failure} (fine : reply.IsFine)
    (unread : reply.value = .error failure) :
    interpretReply target reply = meaningOf target failure := by
  rw [interpretReply, complaint?_eq_none_iff.mpr fine]
  dsimp only
  rw [unread]
  cases failure with
  | fault => rfl
  | refusal cause => cases cause <;> rfl

theorem of_value_error {failure : Json.Failure} (failed : reply.value = .error failure) :
    (∃ fault position, failure = .fault fault position ∧ position.IsIn reply.source) ∨
      (∃ count, failure = .refusal (.tooManyDigits count) ∧
        Json.ReachesOverlong reply.source count) ∨
      failure = .refusal .tooDeep ∧ Json.depthLimit ≤ reply.source.nesting := by
  cases failure with
  | fault fault position => exact Or.inl ⟨fault, position, rfl, Json.isIn_of_readUnmarked failed⟩
  | refusal cause =>
      have refuses := Json.readUnmarked_eq_error_refusal_iff.mp failed
      rcases Json.of_read_lenient refuses with rfl | ⟨count, rfl, reaches⟩
      · exact Or.inr (Or.inr ⟨rfl, Json.depthLimit_le_nesting refuses⟩)
      · exact Or.inr (Or.inl ⟨count, rfl, reaches⟩)

theorem means_interpret (target : Text) (given : Exchange) :
    Means target given (interpret target given) := by
  cases given with
  | fault kind message =>
      cases kind with
      | transport => exact Means.transport
      | status => exact Means.failed
      | value => exact Means.value
      | system | unexpected => exact Means.unlogged
  | reply reply =>
      rw [interpret]
      by_cases fine : reply.IsFine
      · cases result : reply.value with
        | ok value =>
            rw [interpretReply_read fine result]
            exact Means.unlogged
        | error failure =>
            rw [interpretReply_unread fine result]
            rcases of_value_error result with ⟨fault, position, rfl, _⟩ | ⟨count, rfl, reaches⟩ |
              ⟨rfl, _⟩
            · exact Means.fault fine result
            · exact Means.digits fine reaches
            · exact Means.unlogged
      · rw [interpretReply]
        split
        · split
          · exact Means.failed
          · exact Means.unlogged
        · rename_i uncomplaining
          exact absurd (complaint?_eq_none_iff.mp uncomplaining) fine

theorem interpret_eq_broken_iff {given : Exchange} : interpret target given = broken message ↔
    given = .fault .transport message ∨ ∃ reply fault position, given = .reply reply ∧
      reply.IsFine ∧ reply.value = .error (.fault fault position) ∧
        message = (Json.Failure.fault fault position).message := by
  constructor
  · intro same
    have means := means_interpret target given
    generalize interpret target given = meaning at same means
    cases means with
    | transport =>
        rw [broken_injective same]
        exact Or.inl rfl
    | fault fine unread =>
        exact Or.inr ⟨_, _, _, rfl, fine, unread, (broken_injective same).symm⟩
    | value => exact absurd same.symm (broken_ne_unusable _)
    | digits => exact absurd same.symm (broken_ne_unusable _)
    | failed => exact absurd same (failed_ne_broken _ _)
    | unlogged => exact absurd (congrArg Prod.fst same) nofun
  · rintro (rfl | ⟨reply, fault, position, rfl, fine, unread, rfl⟩)
    · rfl
    · exact interpretReply_unread fine unread

theorem interpret_eq_unusable_iff {given : Exchange} :
    interpret target given = unusable target message ↔
      given = .fault .value message ∨ ∃ reply count, given = .reply reply ∧ reply.IsFine ∧
        Json.ReachesOverlong reply.source count ∧ message = Json.tooManyDigitsMessage count := by
  constructor
  · intro same
    have means := means_interpret target given
    generalize interpret target given = meaning at same means
    cases means with
    | transport => exact absurd same (broken_ne_unusable _)
    | fault => exact absurd same (broken_ne_unusable _)
    | value =>
        rw [unusable_injective same]
        exact Or.inl rfl
    | digits fine reaches =>
        exact Or.inr ⟨_, _, rfl, fine, reaches, (unusable_injective same).symm⟩
    | failed => exact absurd same (failed_ne_unusable _ _)
    | unlogged => exact absurd (congrArg Prod.fst same) nofun
  · rintro (rfl | ⟨reply, count, rfl, fine, reaches, rfl⟩)
    · rfl
    · have unread : reply.value = .error (.refusal (.tooManyDigits count)) :=
        Json.readUnmarked_eq_error_refusal_iff.mpr reaches.read
      exact interpretReply_unread fine unread

/-- A client reports invalid JSON just where it comes to a long whole number, or the exchange says
that a value is unusable. What it reports of a fault is what it reports of a broken transport. A
body that is not JSON ends in one of the two, but one that nests too deep to be read ends the client
and is not reported at all. -/
theorem ask_reports (base : Text) (exchange : Text → Exchange) (query : Query) :
    let outcome := ask base exchange query
    ((∀ reply, exchange outcome.address = .reply reply → reply.source.nesting ≤ Json.safeDepth) →
      (∀ message, outcome.ReportsBroken message ↔
        exchange outcome.address = .fault .transport message ∨
          ∃ reply fault position, exchange outcome.address = .reply reply ∧ reply.IsFine ∧
            reply.value = .error (.fault fault position) ∧
              message = (Json.Failure.fault fault position).message) ∧
      (∀ message, outcome.ReportsInvalid message ↔
        exchange outcome.address = .fault .value message ∨
          ∃ reply count, exchange outcome.address = .reply reply ∧ reply.IsFine ∧
            Json.ReachesOverlong reply.source count ∧ message = Json.tooManyDigitsMessage count) ∧
      ∀ reply, exchange outcome.address = .reply reply → reply.IsFine →
        (∀ value, ¬ Padded (Derives .lenient) reply.source value) →
        (∃ fault position, position.IsIn reply.source ∧
          outcome.ReportsBroken (Json.Failure.fault fault position).message) ∨
        ∃ count, outcome.ReportsInvalid (Json.tooManyDigitsMessage count)) ∧
    ∀ reply, exchange outcome.address = .reply reply → reply.IsFine →
      reply.value = .error (.refusal .tooDeep) →
      outcome.entries = [sent outcome.address] ∧ outcome.result = .error .tooDeep := by
  intro outcome
  have broken_iff (message : Text) := (@reportsBroken_iff base message query exchange).trans
    interpret_eq_broken_iff
  have invalid_iff (message : Text) := (@reportsInvalid_iff base message query exchange).trans
    interpret_eq_unusable_iff
  refine ⟨fun shallow => ⟨broken_iff, invalid_iff, fun reply given fine invalid => ?_⟩,
    fun reply given fine deep => ?_⟩
  · cases result : reply.value with
    | ok value => exact absurd (Json.padded_of_readUnmarked result) (invalid value)
    | error failure =>
        rcases of_value_error result with ⟨fault, position, rfl, isIn⟩ | ⟨count, rfl, reaches⟩ |
          ⟨_, deep⟩
        · exact Or.inl ⟨fault, position, isIn, (broken_iff _).mpr
            (Or.inr ⟨reply, fault, position, given, fine, result, rfl⟩)⟩
        · exact Or.inr ⟨count, (invalid_iff _).mpr
            (Or.inr ⟨reply, count, given, fine, reaches, rfl⟩)⟩
        · exact absurd deep (Nat.not_le.mpr (Json.lt_depthLimit (shallow reply given)))
  · have meaning : interpret (address base query) (exchange (address base query)) =
        ([], .error .tooDeep) := by
      change exchange (address base query) = _ at given
      rw [given]
      exact interpretReply_unread fine deep
    refine ⟨?_, congrArg Prod.snd meaning⟩
    exact congrArg (fun meaning => sent (address base query) :: Prod.fst meaning) meaning

theorem ask_reports_digits :
    let digits : Text := List.replicate 4301 (CodePoint.ofChar '1')
    let empty (_ : Text) : Exchange := .reply ⟨204, none, "http://host/api/paintings", [], []⟩
    let long (address : Text) : Exchange := .reply ⟨200, none, address, digits, digits⟩
    (ask "http://host" empty .all).ReportsBroken "Expecting value: line 1 column 1 (char 0)" ∧
      (ask "http://host" long .all).ReportsInvalid (Json.tooManyDigitsMessage 4301) := by
  intro digits empty long
  constructor
  · have shallow (reply : Reply)
        (given : empty (ask "http://host" empty .all).address = .reply reply) :
        reply.source.nesting ≤ Json.safeDepth := by
      obtain rfl := Exchange.reply.inj given
      decide
    exact (((ask_reports "http://host" empty .all).1 shallow).1 _).mpr
      (Or.inr ⟨_, .expectedValue, ⟨0, 1, 1⟩, rfl, Or.inl (by decide), rfl, by decide +kernel⟩)
  · have only : ∀ code ∈ digits, code = '1' := fun code => List.eq_of_mem_replicate
    have are : Text.AreDigits (digits.drop 1) := fun code member => by
      rw [only code (List.mem_of_mem_drop member)]
      decide
    have length : digits.length = 4301 := List.length_replicate
    have isWhole : Whole digits := @Whole.digits '1' (digits.drop 1) (by decide) (by decide) are
    have overlong : Json.Overlong digits digits.length := by
      have overlong := Json.Overlong.of_whole isWhole (by rw [length]; decide) Json.stops_nil
      rwa [List.append_nil] at overlong
    have reaches : Json.ReachesOverlong digits digits.length :=
      Json.ReachesOverlong.after Json.Grammar.areBlanks_nil OpensWithin.value overlong
    have shallow (reply : Reply)
        (given : long (ask "http://host" long .all).address = .reply reply) :
        reply.source.nesting ≤ Json.safeDepth := by
      obtain rfl := Exchange.reply.inj given
      have flat : digits.nesting = 0 := Json.nesting_eq_zero fun code member => by
        rw [only code member]
        decide
      exact flat.trans_le (Nat.zero_le _)
    rw [← length]
    exact (((ask_reports "http://host" long .all).1 shallow).2.1 _).mpr
      (Or.inr ⟨_, _, rfl, Or.inl (by decide), reaches, rfl⟩)

/-- A bracket alone is no JSON, and it is not reported so. -/
theorem bracket_not_reported_invalid :
    let reply : Reply := ⟨200, some "OK", "http://host/api/paintings", "[", "["⟩
    let outcome := ask "http://host" (fun _ => .reply reply) .all
    reply.IsFine ∧ (∀ value, ¬ Padded (Derives .lenient) reply.source value) ∧
      (∀ message, ¬ outcome.ReportsInvalid message) ∧
      outcome.ReportsBroken "Expecting value: line 1 column 2 (char 1)" := by
  intro reply outcome
  have fine : reply.IsFine := Or.inl (by decide)
  have read : Json.read .lenient (Text.ofString "[") =
      .error (.fault .expectedValue ⟨1, 1, 2⟩) := by rfl
  have unread : reply.value = .error (.fault .expectedValue ⟨1, 1, 2⟩) := by rfl
  have broken : outcome.ReportsBroken "Expecting value: line 1 column 2 (char 1)" :=
    reportsBroken_iff.mpr (interpret_eq_broken_iff.mpr
      (Or.inr ⟨reply, _, _, rfl, fine, unread, by decide +kernel⟩))
  refine ⟨fine, Json.not_padded_of_read read (by decide), fun message reports => ?_, broken⟩
  have meaning := (reportsBroken_iff.mp broken).symm.trans (reportsInvalid_iff.mp reports)
  exact broken_ne_unusable message meaning

end Client

end Catalogue
