import Mathlib
import Catalogue.Json.Reader
import Catalogue.Proofs.Json.Grammar

/-!
Reading strings. A string read is one that the grammar has between quotation marks, and a string
of the grammar is read to its end, with one round of the reader for each of its characters.
-/

namespace Catalogue.Json

open Grammar

theorem bind_eq_ok {ε α β : Type} {first : Except ε α} {next : α → Except ε β} {result : β}
    (done : (first >>= next) = .ok result) :
    ∃ value, first = .ok value ∧ next value = .ok result := by
  cases first with
  | error _ => exact absurd done nofun
  | ok value => exact ⟨value, rfl, done⟩

theorem bind_eq_error {ε α β : Type} {first : Except ε α} {next : α → Except ε β} {cause : ε}
    (failed : (first >>= next) = .error cause) :
    first = .error cause ∨ ∃ value, first = .ok value ∧ next value = .error cause := by
  cases first with
  | error _ => exact Or.inl (congrArg Except.error (Except.error.inj failed))
  | ok value => exact Or.inr ⟨value, rfl, failed⟩

@[simp] theorem bind_ok {ε α β : Type} (value : α) (next : α → Except ε β) :
    ((.ok value : Except ε α) >>= next) = next value := rfl

theorem hexDigit?_eq_some {code : CodePoint} {value : Nat} :
    code.hexDigit? = some value ↔ HexDigit code value := by
  unfold CodePoint.hexDigit?
  constructor
  · intro reads
    split_ifs at reads with digit capital small <;> injection reads with same <;> subst same
    · exact HexDigit.digit digit.1 digit.2
    · exact HexDigit.capital capital.1 capital.2
    · exact HexDigit.small small.1 small.2
  · intro spelled
    cases spelled with
    | digit lower upper => rw [if_pos ⟨lower, upper⟩]
    | capital lower upper => rw [if_neg (by omega), if_pos ⟨lower, upper⟩]
    | small lower upper => rw [if_neg (by omega), if_neg (by omega), if_pos ⟨lower, upper⟩]

theorem readUnit?_of_unitEscape {escape rest : Text} {unit : CodePoint}
    (spelled : UnitEscape escape unit) (more : rest ≠ []) :
    ∃ digits, escape = CodePoint.reverseSolidus :: CodePoint.ofChar 'u' :: digits ∧
      digits.length = 4 ∧ readUnit? (digits ++ rest) = some (unit, rest) := by
  cases spelled with
  | @digits first second third fourth unit a b c d one two three four value =>
      obtain ⟨next, rest, rfl⟩ := List.exists_cons_of_ne_nil more
      refine ⟨[first, second, third, fourth], rfl, rfl, ?_⟩
      have small := unit.isValid
      rw [value] at small
      have found : CodePoint.ofNat? (((a * 16 + b) * 16 + c) * 16 + d) = some unit := by
        rw [CodePoint.ofNat?, dif_pos small, Option.some.injEq]
        exact CodePoint.ext value.symm
      rw [← hexDigit?_eq_some] at one two three four
      simp [readUnit?, one, two, three, four, found]

theorem of_readUnit? {text rest : Text} {unit : CodePoint}
    (taken : readUnit? text = some (unit, rest)) :
    ∃ digits, text = digits ++ rest ∧ rest ≠ [] ∧
      UnitEscape (CodePoint.reverseSolidus :: CodePoint.ofChar 'u' :: digits) unit := by
  match text with
  | [] | [_] | [_, _] | [_, _, _] | [_, _, _, _] => exact absurd taken nofun
  | first :: second :: third :: fourth :: next :: others =>
      simp only [readUnit?, Option.bind_eq_bind, Option.bind_eq_some_iff] at taken
      obtain ⟨a, one, b, two, c, three, d, four, found, isUnit, pair⟩ := taken
      obtain ⟨rfl, rfl⟩ := Prod.mk.inj (Option.some.inj pair)
      refine ⟨[first, second, third, fourth], rfl, by simp, ?_⟩
      rw [hexDigit?_eq_some] at one two three four
      refine UnitEscape.digits one two three four ?_
      unfold CodePoint.ofNat? at isUnit
      split_ifs at isUnit
      injection isUnit with isUnit
      rw [← isUnit]

theorem readPair_pair {high low : CodePoint} {escape rest : Text} (isHigh : high.isHighSurrogate)
    (spelled : UnitEscape escape low) (isLow : low.isLowSurrogate) (more : rest ≠ []) :
    readPair high (escape ++ rest) = .ok (high.joinSurrogates low, rest) := by
  obtain ⟨digits, rfl, length, reads⟩ := readUnit?_of_unitEscape spelled more
  have unread : (digits ++ rest).drop 4 ≠ [] := by rwa [List.drop_left' length]
  rw [List.cons_append, List.cons_append, readPair, if_pos ⟨isHigh, rfl, rfl, unread⟩, reads]
  exact if_pos isLow

def LacksUnit (text : Text) : Prop :=
  text ≠ [] ∧ ∀ digits, text ≠ CodePoint.reverseSolidus :: CodePoint.ofChar 'u' :: digits

theorem lacksUnit_cons {code : CodePoint} (different : code ≠ CodePoint.reverseSolidus)
    (text : Text) : LacksUnit (code :: text) :=
  ⟨List.cons_ne_nil code text, fun _ same => different (List.cons.inj same).1⟩

theorem lacksUnit_escape {letter : CodePoint} (different : letter ≠ 'u') (text : Text) :
    LacksUnit (CodePoint.reverseSolidus :: letter :: text) :=
  ⟨List.cons_ne_nil _ _, fun _ same => different (List.cons.inj (List.cons.inj same).2).1⟩

theorem readPair_lacksUnit {text : Text} (lacks : LacksUnit text) (unit : CodePoint) :
    readPair unit text = .ok (unit, text) := by
  unfold readPair
  split
  · rename_i digits
    refine if_neg fun pairing => lacks.2 digits ?_
    rw [pairing.2.1, pairing.2.2.1]
  · rfl

theorem readPair_alone {unit : CodePoint} {characters string tail : Text}
    (spelled : Characters characters string)
    (alone : ¬ (unit.isHighSurrogate = true ∧ BeginsWithLowSurrogate characters))
    (lacks : LacksUnit tail) :
    readPair unit (characters ++ tail) = .ok (unit, characters ++ tail) := by
  have byUnit {escape inner : Text} {next : CodePoint} (begins : UnitEscape escape next)
      (shape : characters = escape ++ inner) :
      readPair unit (characters ++ tail) = .ok (unit, characters ++ tail) := by
    subst shape
    rw [List.append_assoc]
    have more : inner ++ tail ≠ [] := List.append_ne_nil_of_right_ne_nil inner lacks.1
    obtain ⟨digits, rfl, _, reads⟩ := readUnit?_of_unitEscape begins more
    rw [List.cons_append, List.cons_append, readPair]
    split_ifs with pairing
    · rw [reads]
      refine if_neg fun isLow => alone ⟨pairing.1, _, inner, next, rfl, begins, isLow⟩
    · rfl
  cases spelled with
  | unit begins _ _ => exact byUnit begins rfl
  | pair begins _ _ _ _ _ => exact byUnit begins (List.append_assoc _ _ _)
  | done => exact readPair_lacksUnit lacks unit
  | plain _ _ notSolidus _ => exact readPair_lacksUnit (lacksUnit_cons notSolidus _) unit
  | @short letter code others string escape _ =>
      have different : letter ≠ CodePoint.ofChar 'u' := by
        rintro rfl
        cases escape
      exact readPair_lacksUnit (lacksUnit_escape different _) unit

theorem of_readPair {unit code : CodePoint} {text rest : Text}
    (taken : readPair unit text = .ok (code, rest)) :
    code = unit ∧ rest = text ∨
      ∃ escape low, text = escape ++ rest ∧ UnitEscape escape low ∧
        unit.isHighSurrogate = true ∧ low.isLowSurrogate = true ∧
          code = unit.joinSurrogates low := by
  have kept {same : Text} (result : (Except.ok (unit, same) : Except Halt _) = .ok (code, rest)) :
      code = unit ∧ rest = same := by
    obtain ⟨rfl, rfl⟩ := Prod.mk.inj (Except.ok.inj result)
    exact ⟨rfl, rfl⟩
  unfold readPair at taken
  split at taken
  · split_ifs at taken with pairing
    · obtain ⟨isHigh, rfl, rfl, _⟩ := pairing
      split at taken
      · exact absurd taken nofun
      · rename_i low others reads
        obtain ⟨digits, rfl, _, spelled⟩ := of_readUnit? reads
        split_ifs at taken with isLow
        · obtain ⟨rfl, rfl⟩ := Prod.mk.inj (Except.ok.inj taken)
          exact Or.inr ⟨_, low, rfl, spelled, isHigh, isLow, rfl⟩
        · exact Or.inl (kept taken)
    · exact Or.inl (kept taken)
  · exact Or.inl (kept taken)

theorem joinSurrogates_val {high low : CodePoint} (isHigh : high.isHighSurrogate = true)
    (isLow : low.isLowSurrogate = true) :
    (high.joinSurrogates low).val =
      0x10000 + (high.val - 0xD800) * 0x400 + (low.val - 0xDC00) := by
  simp only [CodePoint.isHighSurrogate, CodePoint.isLowSurrogate, Bool.and_eq_true,
    decide_eq_true_eq] at isHigh isLow
  simp only [CodePoint.joinSurrogates]
  omega

theorem find?_of_shortEscape {letter code : CodePoint} (escape : ShortEscape letter code) :
    letter ≠ 'u' ∧ shortEscapes.find? (·.1 = letter) = some (letter, code) := by
  cases escape with
  | quotationMark | reverseSolidus | solidus => exact ⟨by decide, by decide⟩
  | backspace value => exact ⟨by decide, (CodePoint.ext value : code = ⟨0x8, by decide⟩) ▸ rfl⟩
  | formFeed value => exact ⟨by decide, (CodePoint.ext value : code = ⟨0xC, by decide⟩) ▸ rfl⟩
  | lineFeed value => exact ⟨by decide, (CodePoint.ext value : code = ⟨0xA, by decide⟩) ▸ rfl⟩
  | carriageReturn value =>
      exact ⟨by decide, (CodePoint.ext value : code = ⟨0xD, by decide⟩) ▸ rfl⟩
  | tabulator value => exact ⟨by decide, (CodePoint.ext value : code = ⟨0x9, by decide⟩) ▸ rfl⟩

theorem shortEscape_of_find? {letter same code : CodePoint}
    (found : shortEscapes.find? (·.1 = letter) = some (same, code)) :
    ShortEscape letter code := by
  have matches_ := List.find?_some found
  have member := List.mem_of_find?_eq_some found
  rw [decide_eq_true_eq] at matches_
  subst matches_
  simp only [shortEscapes, List.mem_cons, List.not_mem_nil, or_false, Prod.mk.injEq] at member
  rcases member with ⟨rfl, rfl⟩ | ⟨rfl, rfl⟩ | ⟨rfl, rfl⟩ | ⟨rfl, rfl⟩ | ⟨rfl, rfl⟩ | ⟨rfl, rfl⟩ |
    ⟨rfl, rfl⟩ | ⟨rfl, rfl⟩
  · exact ShortEscape.quotationMark
  · exact ShortEscape.reverseSolidus
  · exact ShortEscape.solidus
  · exact ShortEscape.backspace rfl
  · exact ShortEscape.formFeed rfl
  · exact ShortEscape.lineFeed rfl
  · exact ShortEscape.carriageReturn rfl
  · exact ShortEscape.tabulator rfl

theorem readEscape_unit (opening : Text) {escape rest : Text} {unit : CodePoint}
    (spelled : UnitEscape escape unit) (more : rest ≠ []) :
    readEscape opening (escape ++ rest) = readPair unit rest := by
  obtain ⟨digits, rfl, _, reads⟩ := readUnit?_of_unitEscape spelled more
  rw [List.cons_append, List.cons_append, readEscape, if_pos rfl, reads]

theorem readEscape_short (opening rest : Text) {letter code : CodePoint}
    (escape : ShortEscape letter code) :
    readEscape opening (CodePoint.reverseSolidus :: letter :: rest) = .ok (code, rest) := by
  obtain ⟨different, found⟩ := find?_of_shortEscape escape
  rw [readEscape, if_neg different, found]

theorem of_readEscape {opening text rest : Text} {code : CodePoint}
    (taken : readEscape opening (CodePoint.reverseSolidus :: text) = .ok (code, rest)) :
    (∃ letter, text = letter :: rest ∧ ShortEscape letter code) ∨
      ∃ escape unit others, CodePoint.reverseSolidus :: text = escape ++ others ∧
        UnitEscape escape unit ∧ others ≠ [] ∧ readPair unit others = .ok (code, rest) := by
  cases text with
  | nil => exact absurd taken nofun
  | cons letter text =>
      rw [readEscape] at taken
      split_ifs at taken with isUnit
      · subst isUnit
        split at taken
        · exact absurd taken nofun
        · rename_i unit others reads
          obtain ⟨digits, rfl, more, spelled⟩ := of_readUnit? reads
          exact Or.inr ⟨_, unit, others, rfl, spelled, more, taken⟩
      · split at taken
        · rename_i same short found
          obtain ⟨rfl, rfl⟩ := Prod.mk.inj (Except.ok.inj taken)
          exact Or.inl ⟨letter, rfl, shortEscape_of_find? found⟩
        · exact absurd taken nofun

theorem UnitEscape.exists_cons {escape : Text} {unit : CodePoint}
    (spelled : UnitEscape escape unit) :
    ∃ digits, escape = CodePoint.reverseSolidus :: digits := by
  cases spelled with
  | digits => exact ⟨_, rfl⟩

/-! Strings -/

theorem readStringBody_of_readEscape {opening text rest : Text} {code : CodePoint} (limit : Nat)
    (read : Text)
    (taken : readEscape opening (CodePoint.reverseSolidus :: text) = .ok (code, rest)) :
    readStringBody opening (limit + 1) read (CodePoint.reverseSolidus :: text) =
      readStringBody opening limit (code :: read) rest := by
  rw [readStringBody, if_neg (by decide), if_pos rfl, taken]
  rfl

theorem reverse_append_cons (code : CodePoint) (read string : Text) :
    (code :: read).reverse ++ string = read.reverse ++ code :: string := by
  rw [List.reverse_cons, List.append_assoc, List.singleton_append]

/-- The reader comes past characters, with one round at most for each code point of them. -/
theorem readStringBody_characters (opening : Text) {characters string tail : Text}
    (spelled : Characters characters string) (lacks : LacksUnit tail) :
    ∀ {limit : Nat} (read : Text), characters.length < limit →
      ∃ less, limit ≤ characters.length + less ∧
        readStringBody opening limit read (characters ++ tail) =
          readStringBody opening less (string.reverse ++ read) tail := by
  have shift {read string : Text} (code : CodePoint) :
      (code :: string).reverse ++ read = string.reverse ++ code :: read := by
    rw [List.reverse_cons, List.append_assoc, List.singleton_append]
  induction spelled with
  | done => exact fun {limit} read _ => ⟨limit, Nat.le_add_left _ _, rfl⟩
  | @plain code others string printable notMark notSolidus _ ih =>
      intro limit read enough
      obtain ⟨limit, rfl⟩ := Nat.exists_eq_succ_of_ne_zero (Nat.ne_zero_of_lt enough)
      obtain ⟨less, bound, same⟩ := ih (code :: read) (Nat.lt_of_succ_lt_succ enough)
      refine ⟨less, by rw [List.length_cons]; omega, ?_⟩
      rw [List.cons_append, readStringBody, if_neg notMark, if_neg notSolidus,
        if_neg (Nat.not_lt.mpr printable), same, shift]
  | @short letter code others string escape _ ih =>
      intro limit read enough
      obtain ⟨limit, rfl⟩ := Nat.exists_eq_succ_of_ne_zero (Nat.ne_zero_of_lt enough)
      have taken := readEscape_short opening (others ++ tail) escape
      simp only [List.length_cons] at enough ⊢
      obtain ⟨less, bound, same⟩ := ih (code :: read) (show _ < limit by omega)
      refine ⟨less, by omega, ?_⟩
      rw [List.cons_append, List.cons_append, readStringBody_of_readEscape limit read taken,
        same, shift]
  | @unit escape others string unit begins alone spelled ih =>
      intro limit read enough
      obtain ⟨limit, rfl⟩ := Nat.exists_eq_succ_of_ne_zero (Nat.ne_zero_of_lt enough)
      have more : others ++ tail ≠ [] := List.append_ne_nil_of_right_ne_nil others lacks.1
      have taken := readEscape_unit opening begins more
      rw [readPair_alone spelled alone lacks] at taken
      obtain ⟨digits, rfl⟩ := UnitEscape.exists_cons begins
      simp only [List.cons_append, List.append_assoc, List.length_cons, List.length_append]
        at taken enough ⊢
      obtain ⟨less, bound, same⟩ := ih (unit :: read) (show _ < limit by omega)
      refine ⟨less, by omega, ?_⟩
      rw [readStringBody_of_readEscape limit read taken, same, shift]
  | @pair first second others string high low code isFirst isHigh isSecond isLow value _ ih =>
      intro limit read enough
      obtain ⟨limit, rfl⟩ := Nat.exists_eq_succ_of_ne_zero (Nat.ne_zero_of_lt enough)
      have more : others ++ tail ≠ [] := List.append_ne_nil_of_right_ne_nil others lacks.1
      have both : second ++ (others ++ tail) ≠ [] := List.append_ne_nil_of_right_ne_nil second more
      have taken := readEscape_unit opening isFirst both
      have joined : high.joinSurrogates low = code :=
        CodePoint.ext ((joinSurrogates_val isHigh isLow).trans value.symm)
      rw [readPair_pair isHigh isSecond isLow more, joined] at taken
      obtain ⟨digits, rfl⟩ := UnitEscape.exists_cons isFirst
      simp only [List.cons_append, List.append_assoc, List.length_cons, List.length_append]
        at taken enough ⊢
      obtain ⟨less, bound, same⟩ := ih (code :: read) (show _ < limit by omega)
      refine ⟨less, by omega, ?_⟩
      rw [readStringBody_of_readEscape limit read taken, same, shift]

theorem not_beginsWithLowSurrogate {unit code : CodePoint} {characters tail : Text}
    (present : tail ≠ []) (alone : readPair unit (characters ++ tail) =
      .ok (code, characters ++ tail)) :
    ¬ (unit.isHighSurrogate = true ∧ BeginsWithLowSurrogate characters) := by
  rintro ⟨isHigh, escape, others, low, rfl, spelled, isLow⟩
  have more : others ++ tail ≠ [] := List.append_ne_nil_of_right_ne_nil others present
  rw [List.append_assoc, readPair_pair isHigh spelled isLow more, Except.ok.injEq,
    Prod.mk.injEq] at alone
  obtain ⟨digits, rfl⟩ := UnitEscape.exists_cons spelled
  have lengths := congrArg List.length alone.2
  simp only [List.length_append, List.length_cons] at lengths
  omega

theorem of_readStringBody {opening : Text} : ∀ {limit : Nat} {read text string rest : Text},
    readStringBody opening limit read text = .ok (string, rest) →
      ∃ characters others, text = characters ++ CodePoint.quotationMark :: rest ∧
        Characters characters others ∧ string = read.reverse ++ others := by
  intro limit
  induction limit with
  | zero => exact fun taken => absurd taken nofun
  | succ limit ih =>
      intro read text string rest taken
      cases text with
      | nil => exact absurd taken nofun
      | cons code text =>
          rw [readStringBody] at taken
          split_ifs at taken with mark solidus control
          · obtain ⟨rfl, rfl⟩ := Prod.mk.inj (Except.ok.inj taken)
            exact ⟨[], [], by rw [mark, List.nil_append], Characters.done,
              (List.append_nil _).symm⟩
          · subst solidus
            obtain ⟨⟨escaped, unread⟩, escape, onward⟩ := bind_eq_ok taken
            obtain ⟨characters, others, rfl, spelled, rfl⟩ := ih onward
            rw [reverse_append_cons]
            rcases of_readEscape escape with ⟨letter, rfl, short⟩ |
              ⟨first, unit, after, shape, begins, more, pair⟩
            · exact ⟨_, _, rfl, Characters.short short spelled, rfl⟩
            · rcases of_readPair pair with ⟨rfl, rfl⟩ |
                ⟨second, low, rfl, isSecond, isHigh, isLow, rfl⟩
              · refine ⟨first ++ characters, _, ?_,
                  Characters.unit begins (not_beginsWithLowSurrogate (List.cons_ne_nil _ _) pair)
                    spelled, rfl⟩
                rw [shape, List.append_assoc]
              · refine ⟨first ++ second ++ characters, _, ?_, Characters.pair begins isHigh isSecond
                  isLow (joinSurrogates_val isHigh isLow) spelled, rfl⟩
                rw [shape, List.append_assoc, List.append_assoc]
          · exact absurd taken nofun
          · obtain ⟨characters, others, rfl, spelled, rfl⟩ := ih taken
            rw [reverse_append_cons]
            exact ⟨code :: characters, code :: others, rfl,
              Characters.plain (Nat.le_of_not_lt control) mark solidus spelled, rfl⟩

theorem readString_quoted {limit : Nat} {text string : Text} (spelled : Quoted text string)
    (enough : text.length < limit) (rest : Text) :
    readString limit (text ++ rest) = .ok (string, rest) := by
  cases spelled with
  | @quoted characters _ spelled =>
      have shape : CodePoint.quotationMark :: (characters ++ [CodePoint.quotationMark]) ++ rest =
          CodePoint.quotationMark :: (characters ++ CodePoint.quotationMark :: rest) := by simp
      simp only [List.length_cons, List.length_append] at enough
      have lacks := lacksUnit_cons (show CodePoint.quotationMark ≠ _ by decide) rest
      have short : characters.length < limit := by omega
      obtain ⟨less, bound, same⟩ := readStringBody_characters
        (CodePoint.quotationMark :: (characters ++ CodePoint.quotationMark :: rest)) spelled lacks
        [] short
      obtain ⟨less, rfl⟩ : ∃ fewer, less = fewer + 1 := ⟨less - 1, by omega⟩
      rw [readString, shape, List.drop_one, List.tail_cons, same, readStringBody, if_pos rfl,
        List.append_nil, List.reverse_reverse]

theorem of_readString {limit : Nat} {text string rest : Text}
    (taken : readString limit (CodePoint.quotationMark :: text) = .ok (string, rest)) :
    ∃ consumed, CodePoint.quotationMark :: text = consumed ++ rest ∧ Quoted consumed string := by
  obtain ⟨characters, others, shape, spelled, rfl⟩ := of_readStringBody taken
  rw [List.drop_one, List.tail_cons] at shape
  refine ⟨_, ?_, Quoted.quoted spelled⟩
  simp [shape]

end Catalogue.Json
