import Mathlib
import Catalogue.Proofs.Json.Reading

/-!
How deep a text nests. Brackets and braces count outside strings only, whether or not the text can
be read. The nesting of a text bounds the depth of its derivation, and the reader runs out of its
budget in no text that nests less deep than that.
-/

namespace Catalogue

inductive Place where
  | outside
  | inside
  | escaped
  deriving DecidableEq

structure Scan where
  place : Place
  level : Nat

namespace Scan

def step (scan : Scan) (code : CodePoint) : Scan :=
  match scan.place with
  | .outside =>
    if code = CodePoint.quotationMark then ⟨.inside, scan.level⟩
    else if code = '[' ∨ code = '{' then ⟨.outside, scan.level + 1⟩
    else if code = ']' ∨ code = '}' then ⟨.outside, scan.level - 1⟩
    else scan
  | .inside =>
    if code = CodePoint.quotationMark then ⟨.outside, scan.level⟩
    else if code = CodePoint.reverseSolidus then ⟨.escaped, scan.level⟩
    else scan
  | .escaped => ⟨.inside, scan.level⟩

def after (scan : Scan) (text : Text) : Scan := text.foldl step scan

def deepest (scan : Scan) : Text → Nat
  | [] => scan.level
  | code :: text => max scan.level ((scan.step code).deepest text)

end Scan

/-- The greatest number of arrays and objects that stand one in another in a text. -/
def Text.nesting (text : Text) : Nat := Scan.deepest ⟨.outside, 0⟩ text

namespace Scan

theorem level_le_deepest (scan : Scan) (text : Text) : scan.level ≤ scan.deepest text := by
  cases text with
  | nil => exact le_rfl
  | cons code text => exact le_max_left _ _

theorem after_append (scan : Scan) (left right : Text) :
    scan.after (left ++ right) = (scan.after left).after right := by
  rw [after, List.foldl_append]
  rfl

theorem deepest_append_left (scan : Scan) (left right : Text) :
    scan.deepest left ≤ scan.deepest (left ++ right) := by
  induction left generalizing scan with
  | nil => exact scan.level_le_deepest right
  | cons code left ih => exact max_le_max le_rfl (ih (scan.step code))

theorem deepest_append_right (scan : Scan) (left right : Text) :
    (scan.after left).deepest right ≤ scan.deepest (left ++ right) := by
  induction left generalizing scan with
  | nil => exact le_rfl
  | cons code left ih => exact (ih (scan.step code)).trans (le_max_right _ _)

end Scan

/-- A scan outside strings comes out of the text at the level at which it went in. -/
def Text.IsBalanced (text : Text) : Prop :=
  ∀ level, Scan.after ⟨.outside, level⟩ text = ⟨.outside, level⟩

namespace Text

theorem isBalanced_nil : IsBalanced [] := fun _ => rfl

theorem IsBalanced.append {left right : Text} (leftBalanced : left.IsBalanced)
    (rightBalanced : right.IsBalanced) : (left ++ right).IsBalanced := by
  intro level
  rw [Scan.after_append, leftBalanced level, rightBalanced level]

theorem IsBalanced.deepest_le {before : Text} (balanced : before.IsBalanced) (text after : Text)
    (level : Nat) :
    Scan.deepest ⟨.outside, level⟩ text ≤
      Scan.deepest ⟨.outside, level⟩ (before ++ text ++ after) :=
  calc Scan.deepest ⟨.outside, level⟩ text
      = (Scan.after ⟨.outside, level⟩ before).deepest text := by rw [balanced level]
    _ ≤ Scan.deepest ⟨.outside, level⟩ (before ++ text) := Scan.deepest_append_right _ _ _
    _ ≤ Scan.deepest ⟨.outside, level⟩ (before ++ text ++ after) := Scan.deepest_append_left _ _ _

end Text

namespace Json

open Grammar

theorem step_of_outside {code : CodePoint} (outside : code ∉ brackets) (level : Nat) :
    Scan.step ⟨.outside, level⟩ code = ⟨.outside, level⟩ := by
  simp only [brackets, List.mem_cons, List.not_mem_nil, or_false, not_or] at outside
  simp [Scan.step, outside]

theorem isBalanced_of_outside {text : Text} (outside : ∀ code ∈ text, code ∉ brackets) :
    text.IsBalanced := by
  intro level
  induction text with
  | nil => rfl
  | cons code text ih =>
      obtain ⟨first, rest⟩ := List.forall_mem_cons.mp outside
      rw [Scan.after, List.foldl_cons, step_of_outside first]
      exact ih rest

theorem nesting_eq_zero {text : Text} (outside : ∀ code ∈ text, code ∉ brackets) :
    text.nesting = 0 := by
  rw [Text.nesting]
  induction text with
  | nil => rfl
  | cons code text ih =>
      obtain ⟨first, rest⟩ := List.forall_mem_cons.mp outside
      rw [Scan.deepest, step_of_outside first, ih rest, Nat.max_self]

theorem Grammar.AreBlanks.isBalanced {blanks : Text} (are : AreBlanks blanks) :
    blanks.IsBalanced := by
  refine isBalanced_of_outside fun code member => ?_
  have blank := are code member
  simp only [brackets, List.mem_cons, List.not_mem_nil, or_false]
  rintro (rfl | rfl | rfl | rfl | rfl)
  all_goals exact absurd blank (by decide)

theorem IsNumeral.outside {code : CodePoint} (numeral : IsNumeral code) : code ∉ brackets := by
  rcases numeral with digit | rfl | rfl | rfl | rfl | rfl
  · exact (opensScalar_of_isDigit digit).2
  all_goals decide

theorem Grammar.Scalar.outside {policy : Policy} {text : Text} {value : Value}
    (spelled : Scalar policy text value) : ∀ code ∈ text, code ∉ brackets := by
  cases spelled with
  | null | true | false => decide
  | @integer negative whole isWhole _ =>
      intro code member
      have numeral := isNumeral_spelled negative isWhole Fraction.absent Power.absent code
      rw [List.append_nil, List.append_nil] at numeral
      exact (numeral member).outside
  | @double negative _ _ _ spelled _ _ =>
      cases spelled with
      | fractional isWhole isFraction isPower _ =>
          intro code member
          rw [← List.append_assoc, ← List.append_assoc] at member
          exact (isNumeral_spelled negative isWhole isFraction isPower code member).outside
  | constant _ member =>
      simp only [constants, List.mem_cons, List.not_mem_nil, or_false, Prod.mk.injEq] at member
      rcases member with ⟨rfl, _⟩ | ⟨rfl, _⟩ | ⟨rfl, _⟩ <;> decide

def StaysInside (text : Text) : Prop :=
  ∀ level, Scan.after ⟨.inside, level⟩ text = ⟨.inside, level⟩

theorem StaysInside.append {left right : Text} (leftStays : StaysInside left)
    (rightStays : StaysInside right) : StaysInside (left ++ right) := by
  intro level
  rw [Scan.after_append, leftStays level, rightStays level]

theorem staysInside_code {code : CodePoint} (notMark : code ≠ CodePoint.quotationMark)
    (notSolidus : code ≠ CodePoint.reverseSolidus) : StaysInside [code] := by
  intro level
  simp [Scan.after, Scan.step, notMark, notSolidus]

theorem staysInside_escape (letter : CodePoint) :
    StaysInside [CodePoint.reverseSolidus, letter] := by
  intro level
  have different : CodePoint.reverseSolidus ≠ CodePoint.quotationMark := by decide
  simp [Scan.after, Scan.step, different]

theorem staysInside_unitEscape {escape : Text} {unit : CodePoint}
    (spelled : UnitEscape escape unit) : StaysInside escape := by
  have digit {code : CodePoint} {value : Nat} (one : HexDigit code value) :
      StaysInside [code] := by
    apply staysInside_code
    · rintro rfl
      rcases one with lower | lower | lower <;> exact absurd lower (by decide)
    · rintro rfl
      rcases one with ⟨_, upper⟩ | ⟨_, upper⟩ | lower
      · exact absurd upper (by decide)
      · exact absurd upper (by decide)
      · exact absurd lower (by decide)
  cases spelled with
  | digits one two three four _ =>
      exact (staysInside_escape 'u').append
        (((digit one).append (digit two)).append ((digit three).append (digit four)))

theorem Grammar.Characters.staysInside {characters string : Text}
    (spelled : Characters characters string) : StaysInside characters := by
  induction spelled with
  | done => exact fun _ => rfl
  | plain _ notMark notSolidus _ ih =>
      exact (staysInside_code notMark notSolidus).append ih
  | @short letter _ _ _ _ _ ih => exact (staysInside_escape letter).append ih
  | unit escape _ _ ih => exact (staysInside_unitEscape escape).append ih
  | pair first _ second _ _ _ ih =>
      exact ((staysInside_unitEscape first).append (staysInside_unitEscape second)).append ih

theorem Grammar.Quoted.isBalanced {text string : Text} (spelled : Quoted text string) :
    text.IsBalanced := by
  cases spelled with
  | quoted inside =>
      intro level
      have opens : Scan.step ⟨.outside, level⟩ CodePoint.quotationMark = ⟨.inside, level⟩ := rfl
      rw [Scan.after, List.foldl_cons, opens, ← Scan.after, Scan.after_append,
        inside.staysInside level]
      rfl

/-! Derivations -/

theorem Grammar.Padded.isBalanced {α : Type} {denotes : Text → α → Prop} {text : Text} {item : α}
    (each : ∀ {text item}, denotes text item → text.IsBalanced)
    (spelled : Padded denotes text item) : text.IsBalanced := by
  cases spelled with
  | padded before one after => exact (before.isBalanced.append (each one)).append after.isBalanced

theorem balanced_cons (code : CodePoint) (outside : code ∉ brackets) {text : Text}
    (balanced : text.IsBalanced) : Text.IsBalanced (code :: text) :=
  (isBalanced_of_outside fun _ member => List.mem_singleton.mp member ▸ outside :
    Text.IsBalanced [code]).append balanced

theorem Grammar.Separated.isBalanced {α : Type} {denotes : Text → α → Prop} {text : Text}
    {items : List α} (each : ∀ {text item}, denotes text item → text.IsBalanced)
    (spelled : Separated denotes text items) : text.IsBalanced := by
  induction spelled with
  | last one => exact each one
  | more one _ ih => exact (each one).append (balanced_cons ',' (by decide) ih)

theorem Grammar.Member.isBalanced {denotes : Text → Value → Prop} {text : Text}
    {member : Text × Value} (each : ∀ {text value}, denotes text value → text.IsBalanced)
    (spelled : Member denotes text member) : text.IsBalanced := by
  cases spelled with
  | member key value =>
      exact (key.isBalanced fun one => one.isBalanced).append
        (balanced_cons ':' (by decide) (value.isBalanced each))

theorem isBalanced_bracketed {opening closing : CodePoint}
    (opens : ∀ level, Scan.step ⟨.outside, level⟩ opening = ⟨.outside, level + 1⟩)
    (closes : ∀ level, Scan.step ⟨.outside, level + 1⟩ closing = ⟨.outside, level⟩) {text : Text}
    (balanced : text.IsBalanced) : Text.IsBalanced (opening :: (text ++ [closing])) := by
  intro level
  rw [Scan.after, List.foldl_cons, opens, ← Scan.after, Scan.after_append, balanced]
  exact closes level

theorem isBalanced_array {text : Text} (balanced : text.IsBalanced) :
    Text.IsBalanced (CodePoint.ofChar '[' :: (text ++ [CodePoint.ofChar ']'])) :=
  isBalanced_bracketed (fun _ => rfl) (fun _ => rfl) balanced

theorem isBalanced_object {text : Text} (balanced : text.IsBalanced) :
    Text.IsBalanced (CodePoint.ofChar '{' :: (text ++ [CodePoint.ofChar '}'])) :=
  isBalanced_bracketed (fun _ => rfl) (fun _ => rfl) balanced

theorem Grammar.Rule.isBalanced {policy : Policy} {denotes : Text → Value → Prop} {text : Text}
    {value : Value} (each : ∀ {text value}, denotes text value → text.IsBalanced)
    (spelled : Rule policy denotes text value) : text.IsBalanced := by
  cases spelled with
  | scalar one => exact isBalanced_of_outside one.outside
  | string one => exact one.isBalanced
  | emptyArray are => exact isBalanced_array are.isBalanced
  | emptyObject are => exact isBalanced_object are.isBalanced
  | array items => exact isBalanced_array (items.isBalanced fun one => one.isBalanced each)
  | object members => exact isBalanced_object (members.isBalanced fun one => one.isBalanced each)

theorem Grammar.DerivesWithin.isBalanced {policy : Policy} {budget : Nat} {text : Text}
    {value : Value} (within : DerivesWithin policy budget text value) : text.IsBalanced := by
  induction budget generalizing text value with
  | zero => exact within.elim
  | succ budget ih => exact Rule.isBalanced ih within

theorem descends_deepest {denotes : Text → Value → Prop} (level bound : Nat)
    (each : ∀ {text value}, denotes text value → text.IsBalanced) :
    Descends denotes fun text => Scan.deepest ⟨.outside, level⟩ text ≤ bound := by
  have first {left right : Text} {code : CodePoint} (_ : left.IsBalanced) (within :
      Scan.deepest ⟨.outside, level⟩ (left ++ code :: right) ≤ bound) :
      Scan.deepest ⟨.outside, level⟩ left ≤ bound :=
    (Scan.deepest_append_left _ _ _).trans within
  have second {left right : Text} {code : CodePoint} (balanced : left.IsBalanced)
      (outside : code ∉ brackets) (within :
      Scan.deepest ⟨.outside, level⟩ (left ++ code :: right) ≤ bound) :
      Scan.deepest ⟨.outside, level⟩ right ≤ bound := by
    have before := balanced.append (balanced_cons code outside Text.isBalanced_nil)
    have inner := before.deepest_le right [] level
    rw [List.append_nil, List.append_assoc, List.singleton_append] at inner
    exact inner.trans within
  constructor
  · exact fun before _ within => (before.isBalanced.deepest_le _ _ level).trans within
  · exact fun key within => second (key.isBalanced fun one => one.isBalanced) (by decide) within
  · intro text rest value one within
    have balanced := one.isBalanced each
    exact ⟨first balanced within, second balanced (by decide) within⟩
  · intro text rest member one within
    have balanced := one.isBalanced each
    exact ⟨first balanced within, second balanced (by decide) within⟩

theorem deepest_inside {inside text : Text} (level : Nat)
    (opened : text = CodePoint.ofChar '[' :: (inside ++ [CodePoint.ofChar ']']) ∨
      text = CodePoint.ofChar '{' :: (inside ++ [CodePoint.ofChar '}'])) :
    Scan.deepest ⟨.outside, level + 1⟩ inside ≤ Scan.deepest ⟨.outside, level⟩ text := by
  rcases opened with rfl | rfl
  · exact (Scan.deepest_append_left _ _ _).trans (le_max_right _ _)
  · exact (Scan.deepest_append_left _ _ _).trans (le_max_right _ _)

theorem descends_false {denotes : Text → Value → Prop} : Descends denotes fun _ => False :=
  ⟨fun _ _ => id, fun _ => id, fun _ => False.elim, fun _ => False.elim⟩

theorem Grammar.DerivesWithin.of_deepest {policy : Policy} {budget : Nat} {text : Text}
    {value : Value} (within : DerivesWithin policy budget text value) {level depth : Nat}
    (bound : Scan.deepest ⟨.outside, level⟩ text ≤ level + depth) :
    DerivesWithin policy (depth + 1) text value := by
  induction budget generalizing text value level depth with
  | zero => exact within.elim
  | succ budget ih =>
      cases depth with
      | zero =>
          refine Rule.imp descends_false (fun none => none.elim) (fun inside opened => ?_) within
          have opens := Scan.level_le_deepest ⟨.outside, level + 1⟩ inside
          have inner := opens.trans ((deepest_inside level opened).trans bound)
          exact absurd inner (Nat.not_succ_le_self level)
      | succ depth =>
          refine Rule.imp (descends_deepest (level + 1) (level + 1 + depth)
            DerivesWithin.isBalanced) (fun inner part => ih part inner)
            (fun inside opened => ?_) within
          exact (deepest_inside level opened).trans (by omega)

theorem Grammar.Padded.within_nesting {policy : Policy} {text : Text} {value : Value} {depth : Nat}
    (shallow : text.nesting ≤ depth) (spelled : Padded (Derives policy) text value) :
    Padded (DerivesWithin policy (depth + 1)) text value := by
  cases spelled with
  | @padded before inside after _ areBefore derives areAfter =>
      obtain ⟨budget, within⟩ := derives_iff.mp derives
      have inner := areBefore.isBalanced.deepest_le inside after 0
      have bound : Scan.deepest ⟨.outside, 0⟩ inside ≤ 0 + depth := by
        rw [Text.nesting] at shallow
        omega
      exact Padded.padded areBefore (within.of_deepest bound) areAfter

end Json

end Catalogue
