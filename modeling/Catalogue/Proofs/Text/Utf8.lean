import Mathlib
import Catalogue.Text.Utf8

/-!
UTF-8 there and back. Between two code points the decoder waits for nothing, so that every code
point is decoded by itself, and a text without surrogates comes back from its bytes undamaged.
-/

namespace Catalogue

theorem CodePoint.isSurrogate_ofChar (character : Char) :
    (CodePoint.ofChar character).isSurrogate = false := by
  have valid : character.toNat < 0xD800 ∨ 0xDFFF < character.toNat ∧ character.toNat < 0x110000 :=
    character.valid
  rw [isSurrogate, ofChar]
  simp only [Bool.and_eq_false_iff, decide_eq_false_iff_not]
  omega

namespace Text

def HasNoSurrogates (text : Text) : Prop := ∀ code ∈ text, code.isSurrogate = false

theorem any_isSurrogate_iff {text : Text} :
    text.any CodePoint.isSurrogate = false ↔ text.HasNoSurrogates := by
  simp [HasNoSurrogates]

@[simp] theorem hasNoSurrogates_nil : HasNoSurrogates [] := nofun

@[simp] theorem hasNoSurrogates_cons {code : CodePoint} {text : Text} :
    HasNoSurrogates (code :: text) ↔ code.isSurrogate = false ∧ text.HasNoSurrogates :=
  List.forall_mem_cons

@[simp] theorem hasNoSurrogates_append {left right : Text} :
    HasNoSurrogates (left ++ right) ↔ left.HasNoSurrogates ∧ right.HasNoSurrogates :=
  List.forall_mem_append

@[simp] theorem hasNoSurrogates_map_ofChar (characters : List Char) :
    HasNoSurrogates (characters.map CodePoint.ofChar) := by
  intro code member
  obtain ⟨character, _, rfl⟩ := List.mem_map.mp member
  exact CodePoint.isSurrogate_ofChar character

@[simp] theorem hasNoSurrogates_ofString (string : String) : (ofString string).HasNoSurrogates :=
  hasNoSurrogates_map_ofChar _

@[simp] theorem hasNoSurrogates_ofNat (number : Nat) : (ofNat number).HasNoSurrogates :=
  hasNoSurrogates_map_ofChar _

theorem HasNoSurrogates.of_subset {part text : Text} (plain : text.HasNoSurrogates)
    (within : part ⊆ text) : part.HasNoSurrogates :=
  fun code member => plain code (within member)

theorem hasNoSurrogates_flatMap {α : Type} {items : List α} {write : α → Text}
    (each : ∀ item ∈ items, (write item).HasNoSurrogates) :
    HasNoSurrogates (items.flatMap write) := by
  intro code member
  obtain ⟨item, within, here⟩ := List.mem_flatMap.mp member
  exact each item within code here

end Text

end Catalogue

namespace Catalogue.Utf8

variable {surrogates : Bool} {read : List Piece}

theorem toNat_ofNat {number : Nat} (bound : number < 0x100) :
    (UInt8.ofNat number).toNat = number := by
  rw [UInt8.toNat_ofNat']
  exact Nat.mod_eq_of_lt bound

structure Continues (least greatest byte : UInt8) (bits : Nat) : Prop where
  value : byte.toNat = 0x80 + bits
  least_le : least.toNat ≤ 0x80 + bits
  le_greatest : 0x80 + bits ≤ greatest.toNat

section

variable {value bits : Nat} {bytes : Bytes} {least greatest byte : UInt8}

theorem Continues.inside (continues : Continues least greatest byte bits) :
    least ≤ byte ∧ byte ≤ greatest := by
  rw [UInt8.le_iff_toNat_le, UInt8.le_iff_toNat_le, continues.value]
  exact ⟨continues.least_le, continues.le_greatest⟩

theorem step_more (missing : Nat) (continues : Continues least greatest byte bits) :
    step surrogates ⟨read, some ⟨value, bytes, missing + 2, least, greatest⟩⟩ byte =
      ⟨read, some ⟨value * 0x40 + bits, byte :: bytes, missing + 1, 0x80, 0xBF⟩⟩ := by
  rw [step]
  dsimp only
  rw [if_pos continues.inside, if_neg (by omega), continues.value, Nat.add_sub_cancel_left]
  rfl

theorem step_last (code : CodePoint) (continues : Continues least greatest byte bits)
    (whole : value * 0x40 + bits = code.val) :
    step surrogates ⟨read, some ⟨value, bytes, 1, least, greatest⟩⟩ byte =
      ⟨.intact code :: read, none⟩ := by
  rw [step]
  dsimp only
  rw [if_pos continues.inside, if_pos le_rfl, continues.value, Nat.add_sub_cancel_left, whole,
    Piece.ofValue, CodePoint.ofNat?, dif_pos code.isValid]

end

theorem continues_ofNat {least greatest : UInt8} (number : Nat)
    (least_le : least.toNat ≤ 0x80 + number % 0x40)
    (le_greatest : 0x80 + number % 0x40 ≤ greatest.toNat) :
    Continues least greatest (.ofNat (0x80 + number % 0x40)) (number % 0x40) :=
  ⟨toNat_ofNat (by omega), least_le, le_greatest⟩

theorem continues_any (number : Nat) :
    Continues 0x80 0xBF (.ofNat (0x80 + number % 0x40)) (number % 0x40) :=
  continues_ofNat number (Nat.le_add_right _ _)
    (Nat.add_le_add_left (Nat.le_of_lt_succ (Nat.mod_lt _ (by decide))) 0x80)

section

variable {byte : UInt8} {bits : Nat}

theorem lead_one {code : CodePoint} (one : code.val < 0x80) (value : byte.toNat = code.val) :
    lead surrogates read byte = ⟨.intact code :: read, none⟩ := by
  simp only [lead, UInt8.lt_iff_toNat_lt, UInt8.reduceToNat, value, if_pos one]
  rw [Piece.ofValue, CodePoint.ofNat?, dif_pos code.isValid]

theorem lead_two (value : byte.toNat = 0xC0 + bits) (least : 2 ≤ bits) (bound : bits < 0x20) :
    lead surrogates read byte = ⟨read, some ⟨bits, [byte], 1, 0x80, 0xBF⟩⟩ := by
  simp only [lead, UInt8.lt_iff_toNat_lt, UInt8.reduceToNat, value]
  rw [if_neg (by omega), if_neg (by omega), if_pos (by omega), Nat.add_sub_cancel_left]

theorem lead_three (value : byte.toNat = 0xE0 + bits) (bound : bits < 0x10) :
    lead surrogates read byte =
      ⟨read, some ⟨bits, [byte], 2, if bits = 0 then 0xA0 else 0x80,
        if bits = 0xD ∧ surrogates = false then 0x9F else 0xBF⟩⟩ := by
  simp only [lead, UInt8.lt_iff_toNat_lt, ← UInt8.toNat_inj, UInt8.reduceToNat, value]
  rw [if_neg (by omega), if_neg (by omega), if_neg (by omega)]
  by_cases first : bits = 0
  · simp [first]
  · by_cases surrogate : bits = 0xD
    · cases surrogates <;> simp [surrogate]
    · rw [if_neg (by omega), if_neg (by omega), if_pos (by omega), if_neg first,
        if_neg (by omega), Nat.add_sub_cancel_left]

theorem lead_four (value : byte.toNat = 0xF0 + bits) (bound : bits < 5) :
    lead surrogates read byte =
      ⟨read, some ⟨bits, [byte], 3, if bits = 0 then 0x90 else 0x80,
        if bits = 4 then 0x8F else 0xBF⟩⟩ := by
  simp only [lead, UInt8.lt_iff_toNat_lt, ← UInt8.toNat_inj, UInt8.reduceToNat, value]
  rw [if_neg (by omega), if_neg (by omega), if_neg (by omega), if_neg (by omega),
    if_neg (by omega), if_neg (by omega)]
  interval_cases bits <;> simp

end

/-! Code points -/

theorem foldl_utf8 {code : CodePoint} (admitted : surrogates = true ∨ code.isSurrogate = false) :
    code.utf8.foldl (step surrogates) ⟨read, none⟩ = ⟨.intact code :: read, none⟩ := by
  have valid := code.isValid
  have first (byte : UInt8) : step surrogates ⟨read, none⟩ byte = lead surrogates read byte := rfl
  unfold CodePoint.utf8
  split_ifs with one two three
  · rw [List.foldl_cons, List.foldl_nil, first, lead_one one (toNat_ofNat (by omega))]
  · rw [List.foldl_cons, List.foldl_cons, List.foldl_nil, first,
      lead_two (toNat_ofNat (by omega)) (by omega) (by omega),
      step_last code (continues_any code.val) (by omega)]
  · have second : Continues (if code.val / 0x1000 = 0 then 0xA0 else 0x80)
        (if code.val / 0x1000 = 0xD ∧ surrogates = false then 0x9F else 0xBF)
        (.ofNat (0x80 + code.val / 0x40 % 0x40)) (code.val / 0x40 % 0x40) := by
      apply continues_ofNat
      · split_ifs <;> simp only [UInt8.reduceToNat] <;> omega
      · split_ifs with surrogate
        · have apart := admitted.resolve_left (by simp [surrogate.2])
          simp only [CodePoint.isSurrogate, Bool.and_eq_false_iff, decide_eq_false_iff_not] at apart
          simp only [UInt8.reduceToNat]
          omega
        · simp only [UInt8.reduceToNat]
          omega
    rw [List.foldl_cons, List.foldl_cons, List.foldl_cons, List.foldl_nil, first,
      lead_three (toNat_ofNat (by omega)) (by omega), step_more 0 second,
      step_last code (continues_any code.val) (by omega)]
  · have second : Continues (if code.val / 0x40000 = 0 then 0x90 else 0x80)
        (if code.val / 0x40000 = 4 then 0x8F else 0xBF)
        (.ofNat (0x80 + code.val / 0x1000 % 0x40)) (code.val / 0x1000 % 0x40) := by
      apply continues_ofNat
      · split_ifs <;> simp only [UInt8.reduceToNat] <;> omega
      · split_ifs <;> simp only [UInt8.reduceToNat] <;> omega
    rw [List.foldl_cons, List.foldl_cons, List.foldl_cons, List.foldl_cons, List.foldl_nil, first,
      lead_four (toNat_ofNat (by omega)) (by omega), step_more 1 second,
      step_more 0 (continues_any (code.val / 0x40)),
      step_last code (continues_any code.val) (by omega)]

theorem foldl_text {text : Text}
    (admitted : ∀ code ∈ text, surrogates = true ∨ code.isSurrogate = false) :
    text.utf8.foldl (step surrogates) ⟨read, none⟩ =
      ⟨(text.map Piece.intact).reverse ++ read, none⟩ := by
  induction text generalizing read with
  | nil => rfl
  | cons code text ih =>
      obtain ⟨here, later⟩ := List.forall_mem_cons.mp admitted
      rw [Text.utf8, List.flatMap_cons, List.foldl_append, foldl_utf8 here, ← Text.utf8, ih later,
        List.map_cons, List.reverse_cons, List.append_assoc, List.singleton_append]

theorem pieces_utf8 {text : Text}
    (admitted : ∀ code ∈ text, surrogates = true ∨ code.isSurrogate = false) :
    pieces surrogates text.utf8 = text.map Piece.intact := by
  rw [pieces, foldl_text admitted, List.append_nil, List.reverse_reverse]

end Catalogue.Utf8

namespace Catalogue.Text

theorem ofUtf8Replacing_utf8 {text : Text} (plain : text.HasNoSurrogates) :
    ofUtf8Replacing text.utf8 = text := by
  rw [ofUtf8Replacing, Utf8.pieces_utf8 fun code member => Or.inr (plain code member),
    List.map_map]
  exact List.map_id text

end Catalogue.Text
