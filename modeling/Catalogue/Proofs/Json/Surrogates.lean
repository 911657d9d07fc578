import Mathlib
import Catalogue.Json.Printer
import Catalogue.Proofs.Json.Parts
import Catalogue.Proofs.Text.Utf8

/-!
Values without surrogates. Escapes and numbers are written with ASCII characters only, so that what
is written for a value holds surrogates only where a key or a string of the value does, and in every
style but ASCII it does hold those.
-/

namespace Catalogue

namespace DoubleLayout

open Text

theorem hasNoSurrogates_zeros (count : Nat) : (zeros count).HasNoSurrogates := by
  intro code member
  rw [List.eq_of_mem_replicate member]
  exact CodePoint.isSurrogate_ofChar '0'

variable {digits : Text}

theorem hasNoSurrogates_positional (plain : digits.HasNoSurrogates) (place : Int) :
    (positional digits place).HasNoSurrogates := by
  have front := plain.of_subset (List.take_subset place.toNat digits)
  have back := plain.of_subset (List.drop_subset place.toNat digits)
  unfold positional
  split_ifs <;> simp [hasNoSurrogates_zeros, plain, front, back]

theorem hasNoSurrogates_scientific (layout : DoubleLayout) (plain : digits.HasNoSurrogates)
    (power : Int) : (layout.scientific digits power).HasNoSurrogates := by
  have front := plain.of_subset (List.take_subset 1 digits)
  have back := plain.of_subset (List.tail_subset digits)
  unfold scientific
  split_ifs <;> simp [hasNoSurrogates_zeros, front, back]

theorem hasNoSurrogates_magnitude (layout : DoubleLayout) (rank : Nat) :
    (layout.magnitude rank).HasNoSurrogates := by
  have digits : (shortestDecimal rank).digits.1.HasNoSurrogates := by
    apply (hasNoSurrogates_ofNat (shortestDecimal rank).coefficient).of_subset
    intro code member
    exact List.mem_reverse.mp ((List.dropWhile_suffix _).subset (List.mem_reverse.mp member))
  unfold magnitude
  dsimp only
  split_ifs
  · simp [hasNoSurrogates_positional hasNoSurrogates_nil, hasNoSurrogates_zeros]
  · exact hasNoSurrogates_positional digits _
  · exact hasNoSurrogates_scientific layout digits _

theorem hasNoSurrogates_write (layout : DoubleLayout) (number : Double) :
    (layout.write number).HasNoSurrogates := by
  have signed (negative : Bool) : (sign negative).HasNoSurrogates := by
    cases negative <;> simp [sign]
  cases number with
  | finite value => simp [write, signed, hasNoSurrogates_magnitude]
  | infinite negative => simp [write, signed]
  | nan => simp [write]

end DoubleLayout

theorem Text.hasNoSurrogates_ofInt (number : Int) : (ofInt number).HasNoSurrogates := by
  cases number <;> simp [ofInt, CodePoint.isSurrogate_ofChar]

theorem Text.hasNoSurrogates_hex (width number : Nat) : (hex width number).HasNoSurrogates := by
  induction width generalizing number with
  | zero => exact hasNoSurrogates_nil
  | succ width ih => simp [hex, ih, CodePoint.isSurrogate_ofChar]

namespace Json

open Text

variable {style : Style} {text after : Text}

theorem hasNoSurrogates_unicodeEscape (unit : Nat) : (unicodeEscape unit).HasNoSurrogates := by
  have solidus : CodePoint.reverseSolidus.isSurrogate = false := rfl
  simp [unicodeEscape, solidus, CodePoint.isSurrogate_ofChar, hasNoSurrogates_hex]

theorem hasNoSurrogates_writeCode {code : CodePoint} (plain : code.isSurrogate = false) :
    (writeCode style code).HasNoSurrogates := by
  have solidus : CodePoint.reverseSolidus.isSurrogate = false := rfl
  have units : HasNoSurrogates (code.units16.flatMap unicodeEscape) :=
    hasNoSurrogates_flatMap fun unit _ => hasNoSurrogates_unicodeEscape unit
  unfold writeCode
  split_ifs <;>
    simp [solidus, plain, units, CodePoint.isSurrogate_ofChar, hasNoSurrogates_unicodeEscape]

theorem hasNoSurrogates_writeString (plain : text.HasNoSurrogates)
    (rest : after.HasNoSurrogates) : (writeString style text after).HasNoSurrogates := by
  have mark : CodePoint.quotationMark.isSurrogate = false := rfl
  have inside : HasNoSurrogates (text.flatMap (writeCode style)) :=
    hasNoSurrogates_flatMap fun code member => hasNoSurrogates_writeCode (plain code member)
  simp [writeString, mark, inside, rest]

theorem hasNoSurrogates_writeBreak (level : Nat) (rest : after.HasNoSurrogates) :
    (writeBreak style level after).HasNoSurrogates := by
  unfold writeBreak
  split
  · exact rest
  · have spaces (count : Nat) : HasNoSurrogates (List.replicate count CodePoint.space) :=
      fun code member => (List.eq_of_mem_replicate member) ▸ rfl
    have feed : CodePoint.lineFeed.isSurrogate = false := rfl
    simp [feed, spaces, rest]

theorem hasNoSurrogates_writeColon (rest : after.HasNoSurrogates) :
    (writeColon style after).HasNoSurrogates := by
  unfold writeColon
  split <;> simp [CodePoint.isSurrogate_ofChar, rest]

def WritesPlainly (style : Style) (value : Value) : Prop :=
  ∀ level {after : Text}, after.HasNoSurrogates →
    (writeValue style level value after).HasNoSurrogates

theorem hasNoSurrogates_writeItems {items : List Value}
    (each : ∀ item ∈ items, WritesPlainly style item) (level : Nat)
    (rest : after.HasNoSurrogates) : (writeItems style level items after).HasNoSurrogates := by
  induction items with
  | nil =>
      rw [writeItems]
      exact hasNoSurrogates_writeBreak level
        (hasNoSurrogates_cons.mpr ⟨CodePoint.isSurrogate_ofChar ']', rest⟩)
  | cons item items ih =>
      obtain ⟨here, later⟩ := List.forall_mem_cons.mp each
      rw [writeItems]
      exact hasNoSurrogates_cons.mpr ⟨CodePoint.isSurrogate_ofChar ',',
        hasNoSurrogates_writeBreak _ (here _ (ih later))⟩

theorem hasNoSurrogates_writeMember {key : Text} {value : Value} (plain : key.HasNoSurrogates)
    (writes : WritesPlainly style value) (level : Nat) (rest : after.HasNoSurrogates) :
    (writeBreak style level (writeString style key (writeColon style
      (writeValue style level value after)))).HasNoSurrogates :=
  hasNoSurrogates_writeBreak level (hasNoSurrogates_writeString plain
    (hasNoSurrogates_writeColon (writes level rest)))

theorem hasNoSurrogates_writeMembers {members : Members}
    (keys : ∀ member ∈ members, member.1.HasNoSurrogates)
    (each : ∀ member ∈ members, WritesPlainly style member.2) (level : Nat)
    (rest : after.HasNoSurrogates) : (writeMembers style level members after).HasNoSurrogates := by
  induction members with
  | nil =>
      rw [writeMembers]
      exact hasNoSurrogates_writeBreak level
        (hasNoSurrogates_cons.mpr ⟨CodePoint.isSurrogate_ofChar '}', rest⟩)
  | cons member members ih =>
      obtain ⟨key, value⟩ := member
      obtain ⟨plain, others⟩ := List.forall_mem_cons.mp keys
      obtain ⟨here, later⟩ := List.forall_mem_cons.mp each
      rw [writeMembers]
      exact hasNoSurrogates_cons.mpr ⟨CodePoint.isSurrogate_ofChar ',',
        hasNoSurrogates_writeMember plain here _ (ih others later)⟩

def Value.HasNoSurrogates (value : Value) : Prop :=
  (∀ text, Part (.string text) value → text.HasNoSurrogates) ∧
    ∀ members, Part (.object members) value → ∀ member ∈ members, member.1.HasNoSurrogates

theorem Value.HasNoSurrogates.of_part {part value : Value} (within : Part part value)
    (plain : value.HasNoSurrogates) : part.HasNoSurrogates :=
  ⟨fun text inner => plain.1 text (inner.trans within),
    fun members inner => plain.2 members (inner.trans within)⟩

theorem Value.HasNoSurrogates.writesPlainly {value : Value} (plain : value.HasNoSurrogates) :
    WritesPlainly style value := by
  intro level after rest
  induction value using Value.induction generalizing level after with
  | null => simp [writeValue, rest]
  | boolean truth => cases truth <;> simp [writeValue, rest]
  | integer number => simp [writeValue, hasNoSurrogates_ofInt, rest]
  | double number => simp [writeValue, DoubleLayout.hasNoSurrogates_write, rest]
  | string text =>
      rw [writeValue]
      exact hasNoSurrogates_writeString (plain.1 text (Part.self _)) rest
  | array items ih =>
      have each (item : Value) (member : item ∈ items) : WritesPlainly style item :=
        fun _ _ => ih item member (plain.of_part (Part.item member (Part.self item))) _
      cases items with
      | nil => simp [writeValue, CodePoint.isSurrogate_ofChar, rest]
      | cons item items =>
          obtain ⟨here, later⟩ := List.forall_mem_cons.mp each
          rw [writeValue]
          exact hasNoSurrogates_cons.mpr ⟨CodePoint.isSurrogate_ofChar '[',
            hasNoSurrogates_writeBreak _ (here _ (hasNoSurrogates_writeItems later _ rest))⟩
  | object members ih =>
      have each (member : Text × Value) (within : member ∈ members) :
          WritesPlainly style member.2 :=
        fun _ _ => ih member within (plain.of_part (Part.member within (Part.self member.2))) _
      have keys := plain.2 members (Part.self _)
      cases members with
      | nil => simp [writeValue, CodePoint.isSurrogate_ofChar, rest]
      | cons member members =>
          obtain ⟨key, value⟩ := member
          obtain ⟨here, later⟩ := List.forall_mem_cons.mp each
          obtain ⟨first, others⟩ := List.forall_mem_cons.mp keys
          rw [writeValue]
          exact hasNoSurrogates_cons.mpr ⟨CodePoint.isSurrogate_ofChar '{',
            hasNoSurrogates_writeMember first here _
              (hasNoSurrogates_writeMembers others later _ rest)⟩

theorem Value.HasNoSurrogates.write {value : Value} (plain : value.HasNoSurrogates) :
    (value.write style).HasNoSurrogates :=
  plain.writesPlainly 0 hasNoSurrogates_nil

/-! Surrogates are written as they are -/

theorem writeCode_of_isSurrogate (unescaped : style.asciiOnly = false) {code : CodePoint}
    (surrogate : code.isSurrogate = true) : writeCode style code = [code] := by
  have high : 0xD800 ≤ code.val := by
    simp only [CodePoint.isSurrogate, Bool.and_eq_true, decide_eq_true_eq] at surrogate
    exact surrogate.1
  have notSpecial : ¬ (code = CodePoint.quotationMark ∨ code = CodePoint.reverseSolidus) := by
    rintro (rfl | rfl) <;> exact absurd surrogate (by decide)
  have notEscaped : ¬ (style.asciiOnly = true ∧ 0x7F ≤ code.val) := by
    simp [unescaped]
  rw [writeCode, if_neg notSpecial, if_neg (by omega), if_neg (by omega), if_neg (by omega),
    if_neg (by omega), if_neg (by omega), if_neg (by omega), if_neg notEscaped]

theorem hasNoSurrogates_of_writeString (unescaped : style.asciiOnly = false)
    (plain : (writeString style text after).HasNoSurrogates) :
    text.HasNoSurrogates ∧ after.HasNoSurrogates := by
  simp only [writeString, hasNoSurrogates_cons, hasNoSurrogates_append] at plain
  refine ⟨fun code member => Bool.eq_false_iff.mpr fun surrogate => ?_, plain.2.2.2⟩
  have written : code ∈ text.flatMap (writeCode style) := by
    refine List.mem_flatMap.mpr ⟨code, member, ?_⟩
    rw [writeCode_of_isSurrogate unescaped surrogate]
    exact List.mem_singleton_self code
  exact Bool.false_ne_true ((plain.2.1 code written).symm.trans surrogate)

theorem hasNoSurrogates_of_writeBreak {level : Nat}
    (plain : (writeBreak style level after).HasNoSurrogates) : after.HasNoSurrogates := by
  unfold writeBreak at plain
  split at plain
  · exact plain
  · simp only [hasNoSurrogates_cons, hasNoSurrogates_append] at plain
    exact plain.2.2

theorem hasNoSurrogates_of_writeColon (plain : (writeColon style after).HasNoSurrogates) :
    after.HasNoSurrogates := by
  unfold writeColon at plain
  split at plain <;> simp_all

def WritesSurrogates (style : Style) (value : Value) : Prop :=
  ∀ level {after : Text}, (writeValue style level value after).HasNoSurrogates →
    value.HasNoSurrogates ∧ after.HasNoSurrogates

theorem hasNoSurrogates_of_writeItems {items : List Value}
    (each : ∀ item ∈ items, WritesSurrogates style item) {level : Nat}
    (plain : (writeItems style level items after).HasNoSurrogates) :
    (∀ item ∈ items, item.HasNoSurrogates) ∧ after.HasNoSurrogates := by
  induction items with
  | nil =>
      rw [writeItems] at plain
      have ended := hasNoSurrogates_of_writeBreak plain
      exact ⟨List.forall_mem_nil _, (hasNoSurrogates_cons.mp ended).2⟩
  | cons item items ih =>
      obtain ⟨here, later⟩ := List.forall_mem_cons.mp each
      rw [writeItems] at plain
      obtain ⟨first, others⟩ :=
        here _ (hasNoSurrogates_of_writeBreak (hasNoSurrogates_cons.mp plain).2)
      obtain ⟨items, rest⟩ := ih later others
      exact ⟨List.forall_mem_cons.mpr ⟨first, items⟩, rest⟩

theorem hasNoSurrogates_of_writeMember (unescaped : style.asciiOnly = false) {key : Text}
    {value : Value} (writes : WritesSurrogates style value) {level : Nat}
    (plain : (writeBreak style level (writeString style key (writeColon style
      (writeValue style level value after)))).HasNoSurrogates) :
    (key.HasNoSurrogates ∧ value.HasNoSurrogates) ∧ after.HasNoSurrogates := by
  obtain ⟨name, rest⟩ := hasNoSurrogates_of_writeString unescaped
    (hasNoSurrogates_of_writeBreak plain)
  obtain ⟨written, rest⟩ := writes _ (hasNoSurrogates_of_writeColon rest)
  exact ⟨⟨name, written⟩, rest⟩

theorem hasNoSurrogates_of_writeMembers (unescaped : style.asciiOnly = false) {members : Members}
    (each : ∀ member ∈ members, WritesSurrogates style member.2) {level : Nat}
    (plain : (writeMembers style level members after).HasNoSurrogates) :
    (∀ member ∈ members, member.1.HasNoSurrogates ∧ member.2.HasNoSurrogates) ∧
      after.HasNoSurrogates := by
  induction members with
  | nil =>
      rw [writeMembers] at plain
      have ended := hasNoSurrogates_of_writeBreak plain
      exact ⟨List.forall_mem_nil _, (hasNoSurrogates_cons.mp ended).2⟩
  | cons member members ih =>
      obtain ⟨key, value⟩ := member
      obtain ⟨here, later⟩ := List.forall_mem_cons.mp each
      rw [writeMembers] at plain
      obtain ⟨first, others⟩ :=
        hasNoSurrogates_of_writeMember unescaped here (hasNoSurrogates_cons.mp plain).2
      obtain ⟨members, rest⟩ := ih later others
      exact ⟨List.forall_mem_cons.mpr ⟨first, members⟩, rest⟩

theorem Value.hasNoSurrogates_string (plain : text.HasNoSurrogates) :
    (Value.string text).HasNoSurrogates := by
  constructor
  · intro other within
    cases within
    exact plain
  · intro members within
    cases within

theorem Value.hasNoSurrogates_array {items : List Value}
    (each : ∀ item ∈ items, item.HasNoSurrogates) : (Value.array items).HasNoSurrogates := by
  constructor
  · intro text within
    cases within with
    | item member deeper => exact (each _ member).1 text deeper
  · intro members within
    cases within with
    | item member deeper => exact (each _ member).2 members deeper

theorem Value.hasNoSurrogates_object {members : Members}
    (each : ∀ member ∈ members, member.1.HasNoSurrogates ∧ member.2.HasNoSurrogates) :
    (Value.object members).HasNoSurrogates := by
  constructor
  · intro text within
    cases within with
    | member inside deeper => exact (each _ inside).2.1 text deeper
  · intro others within
    cases within with
    | self => exact fun member inside => (each member inside).1
    | member inside deeper => exact (each _ inside).2.2 others deeper

theorem Value.writesSurrogates (unescaped : style.asciiOnly = false) (value : Value) :
    WritesSurrogates style value := by
  intro level after plain
  induction value using Value.induction generalizing level after with
  | null | integer | double =>
      rw [writeValue, hasNoSurrogates_append] at plain
      refine ⟨⟨fun _ within => ?_, fun _ within => ?_⟩, plain.2⟩ <;> cases within
  | boolean truth =>
      cases truth <;> rw [writeValue, hasNoSurrogates_append] at plain <;>
        refine ⟨⟨fun _ within => ?_, fun _ within => ?_⟩, plain.2⟩ <;> cases within
  | string text =>
      rw [writeValue] at plain
      obtain ⟨inside, rest⟩ := hasNoSurrogates_of_writeString unescaped plain
      exact ⟨hasNoSurrogates_string inside, rest⟩
  | array items ih =>
      have each : ∀ item ∈ items, WritesSurrogates style item :=
        fun item member level _ => ih item member level
      cases items with
      | nil =>
          rw [writeValue] at plain
          simp only [hasNoSurrogates_cons] at plain
          exact ⟨hasNoSurrogates_array (List.forall_mem_nil _), plain.2.2⟩
      | cons item items =>
          obtain ⟨here, later⟩ := List.forall_mem_cons.mp each
          rw [writeValue] at plain
          obtain ⟨first, others⟩ :=
            here _ (hasNoSurrogates_of_writeBreak (hasNoSurrogates_cons.mp plain).2)
          obtain ⟨items, rest⟩ := hasNoSurrogates_of_writeItems later others
          exact ⟨hasNoSurrogates_array (List.forall_mem_cons.mpr ⟨first, items⟩), rest⟩
  | object members ih =>
      have each : ∀ member ∈ members, WritesSurrogates style member.2 :=
        fun member inside level _ => ih member inside level
      cases members with
      | nil =>
          rw [writeValue] at plain
          simp only [hasNoSurrogates_cons] at plain
          exact ⟨hasNoSurrogates_object (List.forall_mem_nil _), plain.2.2⟩
      | cons member members =>
          obtain ⟨key, value⟩ := member
          obtain ⟨here, later⟩ := List.forall_mem_cons.mp each
          rw [writeValue] at plain
          obtain ⟨first, others⟩ :=
            hasNoSurrogates_of_writeMember unescaped here (hasNoSurrogates_cons.mp plain).2
          obtain ⟨members, rest⟩ := hasNoSurrogates_of_writeMembers unescaped later others
          exact ⟨hasNoSurrogates_object (List.forall_mem_cons.mpr ⟨first, members⟩), rest⟩

end Json

end Catalogue
