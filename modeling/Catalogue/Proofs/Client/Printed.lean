import Mathlib
import Catalogue.Client.CommandLine
import Catalogue.Proofs.Client.Messages
import Catalogue.Proofs.Json.Surrogates
import Catalogue.Proofs.Json.Writing

/-!
What the command line prints. A command asks once, for the path of its operands as they are, and a
value that the server sent is printed as a text that denotes it again. For anything else nothing is
printed.
-/

namespace Catalogue

namespace Json

variable {policy : Policy} {text : Text} {value : Value}

theorem read_append (reads : Json.read policy text = .ok value) {blanks : Text}
    (are : Grammar.AreBlanks blanks) : Json.read policy (text ++ blanks) = .ok value :=
  read_iff.mpr ((read_iff.mp reads).after are)

theorem read_write_of_read {style : Style} (reads : Json.read policy text = .ok value)
    (apart : style.asciiOnly = true → value.HasNoSurrogatePairs) :
    Json.read policy (value.write style) = .ok value := by
  rw [read_iff] at reads
  cases reads with
  | padded _ within _ => exact read_of_writes (within.writes apart)

end Json

def Exchange.Gives (exchange : Exchange) (value : Json.Value) : Prop :=
  ∃ reply, exchange = .reply reply ∧ reply.IsFine ∧ reply.Denotes value

/-- A body that does not nest deep, in whose values no surrogate stands, or an exchange that fails
with one of the errors that the client is there to report. -/
def Exchange.IsOrdinary : Exchange → Prop
  | .reply given =>
    given.source.nesting ≤ 100 ∧ ∀ value, given.Denotes value → value.HasNoSurrogates
  | .fault kind _ => kind = .transport ∨ kind = .status ∨ kind = .value

namespace Client

inductive Asks : List Text → Text → Prop
  | all : Asks ["all"] "/api/paintings"
  | painting {identifier : Text} :
      Asks ["id", identifier] (Text.ofString "/api/paintings/" ++ identifier)
  | gallery {identifier : Text} :
      Asks ["gallery", identifier] (Text.ofString "/api/paintings/gallery/" ++ identifier)
  | artist {identifier : Text} :
      Asks ["artist", identifier] (Text.ofString "/api/paintings/artist/" ++ identifier)
  | years {least greatest : Text} : Asks ["year", least, greatest]
      (Text.ofString "/api/paintings/year/" ++ least ++ Text.ofString "/" ++ greatest)

def IsWord (text : Text) : Prop := text.head? ≠ some '-'

variable {text : Text} {texts : List Text} {command : Command} {query : Query}

theorem IsWord.startsWith_dash (word : IsWord text) : text.startsWith dash = false := by
  cases text with
  | nil => rfl
  | cons code text =>
      have other : code ≠ '-' := fun same => word (congrArg some same)
      exact congrArg Option.isSome (if_neg other)

theorem IsWord.ne_doubleDash (word : IsWord text) : text ≠ doubleDash := by
  rintro rfl
  exact word rfl

def Argument.operand (text : Text) : Argument := ⟨text, .operand⟩

theorem ofTexts_words (spellings : Spellings) (words : ∀ text ∈ texts, IsWord text) :
    Argument.ofTexts spellings texts = .ok (texts.map Argument.operand) := by
  induction texts with
  | nil => rfl
  | cons text texts ih =>
      obtain ⟨word, others⟩ := List.forall_mem_cons.mp words
      rw [Argument.ofTexts, if_neg word.ne_doubleDash, roleOf, word.startsWith_dash, ih others]
      rfl

theorem followOperands_words {wanted : Nat} (justTaken : Bool) (operands : Operands)
    (words : ∀ text ∈ texts, IsWord text) (enough : texts.length ≤ wanted) :
    followOperands wanted justTaken operands (texts.map Argument.operand) =
      .ok (some ⟨operands.values ++ texts.map .word, operands.unrecognized⟩) := by
  induction texts generalizing wanted justTaken operands with
  | nil => simp [followOperands]
  | cons text texts ih =>
      obtain ⟨word, others⟩ := List.forall_mem_cons.mp words
      cases wanted with
      | zero => simp at enough
      | succ wanted =>
          rw [List.map_cons, Argument.operand, followOperands,
            ih true _ others (Nat.le_of_succ_le_succ enough)]
          simp [Operands.take, Given.ofArgument, word.ne_doubleDash]

theorem followCommand_words (words : ∀ text ∈ texts, IsWord text)
    (enough : texts.length = command.operands.length) :
    followCommand command texts = .ok (some ⟨texts.map .word, []⟩) := by
  have followed := followOperands_words false Operands.none words (le_of_eq enough)
  rw [followCommand, ofTexts_words _ words]
  simp only [bind, Except.bind, followed]
  simp [Operands.none, enough]

theorem Command.length_of_query? (found : command.query? texts = some query) :
    texts.length = command.operands.length := by
  unfold Command.query? at found
  split at found <;> first | rfl | exact absurd found nofun

theorem Command.isWord_name (command : Command) : IsWord command.name := by
  rw [IsWord]
  cases command <;> decide

theorem Command.ofName?_name (command : Command) : ofName? command.name = some command := by
  cases command <;> decide

theorem invocationOf_words (base : Option Given) (words : ∀ text ∈ texts, IsWord text)
    (found : command.query? texts = some query) :
    invocationOf base [] command texts = .ok (.query base query) := by
  rw [invocationOf, followCommand_words words (Command.length_of_query? found)]
  simp [Function.comp_def, Given.display, found]

theorem ofTexts_command (words : ∀ text ∈ texts, IsWord text)
    (found : command.query? texts = some query) :
    Invocation.ofTexts (command.name :: texts) = .ok (.query none query) := by
  have all : ∀ text ∈ command.name :: texts, IsWord text :=
    List.forall_mem_cons.mpr ⟨command.isWord_name, words⟩
  rw [Invocation.ofTexts, ofTexts_words _ all]
  simp [Argument.operand, Function.comp_def, follow, command.ofName?_name,
    invocationOf_words none words found]

theorem Asks.exists_query {arguments : List Text} {path : Text} (asks : Asks arguments path) :
    ∃ (command : Command) (operands : List Text) (query : Query),
      arguments = command.name :: operands ∧ command.query? operands = some query ∧
        query.toPath = path := by
  cases asks with
  | all => exact ⟨.all, [], _, rfl, rfl, rfl⟩
  | painting => exact ⟨.painting, [_], _, rfl, rfl, rfl⟩
  | gallery => exact ⟨.gallery, [_], _, rfl, rfl, rfl⟩
  | artist => exact ⟨.artist, [_], _, rfl, rfl, rfl⟩
  | years => exact ⟨.years, [_, _], _, rfl, rfl, rfl⟩

theorem run_asks (base : Text) {arguments : List Text} {path : Text} (asks : Asks arguments path)
    (words : ∀ text ∈ arguments, IsWord text) : ∃ query : Query, query.toPath = path ∧
      ∀ exchange, run base exchange arguments = .asked (ask base (exchange base) query) := by
  obtain ⟨command, operands, query, rfl, found, toPath⟩ := asks.exists_query
  have follows := ofTexts_command (List.forall_mem_cons.mp words).2 found
  refine ⟨query, toPath, fun exchange => ?_⟩
  rw [run, follows]
  rfl

variable {base target : Text} {exchange : Text → Exchange} {given : Exchange}

theorem Means.level_eq {meaning : List Log.Entry × Result} (means : Means target given meaning) :
    ∀ entry ∈ meaning.1, entry.level = Log.Level.error := by
  cases means with
  | unlogged => simp
  | _ => simp [broken, unusable, Client.failed, complain]

theorem filter_entries_ask : (ask base exchange query).entries.filter
    (·.level = Log.Level.debug) = [sent (address base query)] := by
  have errors := (means_interpret (address base query) (exchange (address base query))).level_eq
  have entries : (ask base exchange query).entries = sent (address base query) ::
      (interpret (address base query) (exchange (address base query))).1 := rfl
  rw [entries, List.filter_cons_of_pos rfl, List.filter_eq_nil_iff.mpr fun entry member => ?_]
  rw [errors entry member]
  decide

theorem meaningOf_reports {failure : Json.Failure} (enough : failure ≠ .refusal .tooDeep) :
    ∃ error, (meaningOf target failure).2 = .ok (.error error) := by
  cases failure with
  | fault => exact ⟨_, rfl⟩
  | refusal cause =>
      cases cause with
      | tooDeep => exact absurd rfl enough
      | _ => exact ⟨_, rfl⟩

theorem interpretReply_ordinary {reply : Reply} (shallow : reply.source.nesting < Json.depthLimit) :
    ∃ result, (interpretReply target reply).2 = .ok result ∧
      ∀ value, result = .ok value ↔ reply.IsFine ∧ reply.Denotes value := by
  by_cases fine : reply.IsFine
  · cases read : reply.value with
    | ok value =>
        refine ⟨.ok value, by rw [interpretReply_read fine read], fun other => ?_⟩
        rw [← Reply.value_eq_ok_iff shallow, read]
        simp [fine]
    | error failure =>
        have unread := reply.not_denotes shallow read
        have enough : failure ≠ .refusal .tooDeep := fun deep =>
          reply.value_ne_tooDeep shallow (deep ▸ read)
        obtain ⟨error, reports⟩ := @meaningOf_reports target failure enough
        rw [interpretReply_unread fine read]
        exact ⟨_, reports, fun value => iff_of_false nofun fun both => unread value both.2⟩
  · obtain ⟨message, found, _⟩ := errorMessage_explains shallow
    rw [interpretReply_rejection (Reply.isRejection_of_not_isFine fine) found]
    exact ⟨_, rfl, fun value => iff_of_false nofun fun both => fine both.1⟩

theorem interpret_ordinary (target : Text) (ordinary : given.IsOrdinary) :
    ∃ result, (interpret target given).2 = .ok result ∧
      ∀ value, result = .ok value ↔ given.Gives value := by
  cases given with
  | reply reply =>
      have shallow : reply.source.nesting < Json.depthLimit :=
        ordinary.1.trans_lt (by decide)
      obtain ⟨result, interprets, each⟩ := @interpretReply_ordinary target reply shallow
      exact ⟨result, interprets, fun value => by simp [each, Exchange.Gives]⟩
  | fault kind message =>
      have none (value : Json.Value) : ¬ (Exchange.fault kind message).Gives value := by
        rintro ⟨reply, same, _⟩
        cases same
      rcases ordinary with rfl | rfl | rfl <;>
        exact ⟨_, rfl, fun value => iff_of_false nofun (none value)⟩

/-! What is printed -/

/-- A value is printed as one text and a line feed. The text denotes the value, for a reader as
lenient as that of the body, and can be encoded. -/
structure Report.Prints (report : Report) (value : Json.Value) : Prop where
  exitStatus : report.exitStatus = 0
  output : report.output = value.write Json.Style.indented ++ [CodePoint.lineFeed]
  readText : Json.readUnmarked .lenient (value.write Json.Style.indented) = .ok value
  readOutput : Json.readUnmarked .lenient report.output = .ok value
  plain : report.output.HasNoSurrogates
  complaint : report.complaint = []

theorem prints_of_gives {value : Json.Value} (gives : given.Gives value)
    (ordinary : given.IsOrdinary) : (Report.ofValue value).Prints value := by
  obtain ⟨reply, rfl, _, denotes⟩ := gives
  have shallow : reply.source.nesting < Json.depthLimit := ordinary.1.trans_lt (by decide)
  have plain := ordinary.2 value denotes
  have reads : Json.read .lenient (value.write Json.Style.indented) = .ok value :=
    Json.read_write_of_read ((Json.read_iff_document shallow).mpr denotes) nofun
  have feed : Json.Grammar.AreBlanks [CodePoint.lineFeed] :=
    List.forall_mem_singleton.mpr (by decide)
  constructor
  · rfl
  · rfl
  · exact Json.readUnmarked_of_read reads
  · exact Json.readUnmarked_of_read (Json.read_append reads feed)
  · exact Text.hasNoSurrogates_append.mpr ⟨plain.write, List.forall_mem_singleton.mpr rfl⟩
  · rfl

/-- A command asks once, for its path with its operands as they are, and nothing else that could be
asked counts. It succeeds just where the exchange gives a value, which is then printed; in every
other ordinary case it fails, with nothing printed. -/
theorem run_prints (base : Text) (exchange : Text → Text → Exchange) {arguments : List Text}
    {path : Text} (asks : Asks arguments path) (words : ∀ text ∈ arguments, IsWord text) :
    ∃ outcome, run base exchange arguments = .asked outcome ∧
      outcome.address = base.dropTrailing '/' ++ path ∧
      outcome.entries.filter (·.level = Log.Level.debug) = [sent outcome.address] ∧
      (∀ other : Text → Text → Exchange,
        other base outcome.address = exchange base outcome.address →
          run base other arguments = .asked outcome) ∧
      ((exchange base outcome.address).IsOrdinary → ∃ result, outcome.result = .ok result ∧
        let report := Report.ofResult result
        (report.exitStatus = 0 ↔ ∃ value, (exchange base outcome.address).Gives value) ∧
        (∀ value, (exchange base outcome.address).Gives value → report.Prints value) ∧
        ((∀ value, ¬ (exchange base outcome.address).Gives value) →
          report.exitStatus = 1 ∧ report.output = [])) := by
  obtain ⟨query, rfl, runs⟩ := run_asks base asks words
  refine ⟨_, runs exchange, rfl, filter_entries_ask, fun other same => ?_, fun ordinary => ?_⟩
  · change other base (address base query) = exchange base (address base query) at same
    rw [runs other, ask, ask, same]
  · obtain ⟨result, interprets, each⟩ := interpret_ordinary (address base query) ordinary
    refine ⟨result, interprets, ?_⟩
    cases result with
    | ok value =>
        have gives := (each value).mp rfl
        refine ⟨iff_of_true rfl ⟨value, gives⟩, fun other givesOther => ?_, fun none => ?_⟩
        · obtain rfl := Except.ok.inj ((each other).mpr givesOther)
          exact prints_of_gives givesOther ordinary
        · exact absurd gives (none value)
    | error error =>
        have none (value : Json.Value) (gives : (exchange base _).Gives value) : False :=
          absurd ((each value).mpr gives) nofun
        refine ⟨iff_of_false nofun fun ⟨value, gives⟩ => none value gives, fun value gives => ?_,
          fun _ => ⟨rfl, rfl⟩⟩
        exact (none value gives).elim

theorem run_prints_list :
    let body : Text := "[NaN,null]"
    let reply : Reply := ⟨204, none, "http://host/api/paintings/year/1600/", body, body⟩
    ∃ outcome result,
      run "http://host/" (fun _ _ => .reply reply) ["year", "1600", ""] = .asked outcome ∧
      outcome.address = "http://host/api/paintings/year/1600/" ∧ outcome.result = .ok result ∧
      (Report.ofResult result).exitStatus = 0 ∧
      (Report.ofResult result).output = "[\n  NaN,\n  null\n]\n" := by
  intro body reply
  have shallow : reply.source.nesting ≤ 100 := by decide
  have read : reply.value = .ok (.array [.double .nan, .null]) := by rfl
  have denotes : reply.Denotes (.array [.double .nan, .null]) :=
    Json.padded_of_readUnmarked read
  have ordinary : (Exchange.reply reply).IsOrdinary := by
    refine ⟨shallow, fun value again => ?_⟩
    rw [again.unique (shallow.trans_lt (by decide)) denotes]
    have plain : Text.HasNoSurrogates (Json.Value.write Json.Style.compact
        (.array [.double .nan, .null])) := Text.any_isSurrogate_iff.mp (by decide)
    exact (Json.Value.writesSurrogates rfl _ 0 plain).1
  obtain ⟨outcome, runs, address, _, _, reports⟩ := run_prints "http://host/"
    (fun _ _ => .reply reply) (@Asks.years "1600" "")
    (by simp only [IsWord]; decide)
  obtain ⟨result, given, _, prints, _⟩ := reports ordinary
  have printed := prints _ ⟨reply, rfl, Or.inl (by decide), denotes⟩
  exact ⟨outcome, result, runs, address, given, printed.exitStatus,
    printed.output.trans (by decide)⟩

end Client

end Catalogue
