import Mathlib
import Catalogue.Proofs.Json.WrittenString
import Catalogue.Proofs.Text.Utf8
import Catalogue.Text.Encoding

/-!
Encodings there and back. What an encoding makes of a text is decoded as the same text, as long as
no low surrogate stands right after a high one, which UTF-16 cannot tell from one code point. Marks
tell the encodings apart, and without a mark the zero bytes after a first ASCII character do.
-/

namespace Catalogue

theorem Text.hasSurrogatePair_cons {code : CodePoint} {text : Text} :
    HasSurrogatePair (code :: text) ↔
      code.isHighSurrogate = true ∧ (∃ low ∈ text.head?, low.isLowSurrogate = true) ∨
        text.HasSurrogatePair := by
  constructor
  · rintro ⟨before, high, low, after, shape, isHigh, isLow⟩
    cases before with
    | nil =>
        obtain ⟨rfl, rfl⟩ := List.cons.inj shape
        exact Or.inl ⟨isHigh, low, rfl, isLow⟩
    | cons first before =>
        obtain ⟨rfl, rfl⟩ := List.cons.inj shape
        exact Or.inr ⟨before, high, low, after, rfl, isHigh, isLow⟩
  · rintro (⟨isHigh, low, next, isLow⟩ | pair)
    · cases text with
      | nil => simp at next
      | cons second text =>
          obtain rfl : second = low := by simpa using next
          exact ⟨[], code, second, text, rfl, isHigh, isLow⟩
    · exact pair.cons code

instance Text.decidableHasSurrogatePair : (text : Text) → Decidable text.HasSurrogatePair
  | [] => isFalse fun ⟨before, _, _, _, shape, _⟩ => by cases before <;> exact absurd shape nofun
  | _ :: text =>
    have := decidableHasSurrogatePair text
    decidable_of_iff _ hasSurrogatePair_cons.symm

namespace ByteOrder

variable {order : ByteOrder}

theorem bytes16_eq (order : ByteOrder) {unit : Nat} (bound : unit < 0x10000) :
    ∃ first second, order.bytes16 unit = [first, second] ∧ order.unit16 first second = unit := by
  have high : (UInt8.ofNat (unit / 0x100)).toNat = unit / 0x100 := Utf8.toNat_ofNat (by omega)
  have low : (UInt8.ofNat (unit % 0x100)).toNat = unit % 0x100 := Utf8.toNat_ofNat (by omega)
  cases order with
  | little =>
      refine ⟨_, _, rfl, ?_⟩
      simp only [unit16, high, low]
      omega
  | big =>
      refine ⟨_, _, rfl, ?_⟩
      simp only [unit16, high, low]
      omega

theorem units16?_bytes16 {units : List Nat} (bounds : ∀ unit ∈ units, unit < 0x10000)
    (read : List Nat) :
    order.units16? read (units.flatMap order.bytes16) = some (read.reverse ++ units) := by
  induction units generalizing read with
  | nil => simp [units16?]
  | cons unit units ih =>
      obtain ⟨here, later⟩ := List.forall_mem_cons.mp bounds
      obtain ⟨first, second, bytes, value⟩ := order.bytes16_eq here
      rw [List.flatMap_cons, bytes]
      simp only [List.cons_append, List.nil_append]
      rw [units16?, value, ih later]
      simp

def halves (order : ByteOrder) (unit : Nat) : List Nat :=
  match order with
  | little => [unit % 0x10000, unit / 0x10000]
  | big => [unit / 0x10000, unit % 0x10000]

theorem bytes32_eq (order : ByteOrder) (unit : Nat) :
    order.bytes32 unit = (order.halves unit).flatMap order.bytes16 := by
  cases order <;> simp [bytes32, halves]

end ByteOrder

theorem CodePoint.ofNat?_val (code : CodePoint) : CodePoint.ofNat? code.val = some code :=
  dif_pos code.isValid

theorem CodePoint.units16_lt (code : CodePoint) : ∀ unit ∈ code.units16, unit < 0x10000 := by
  have valid := code.isValid
  intro unit member
  unfold units16 at member
  split_ifs at member with small
  · simp only [List.mem_singleton] at member
    omega
  · simp only [List.mem_cons, List.not_mem_nil, or_false] at member
    omega

theorem CodePoint.halves_lt (order : ByteOrder) (code : CodePoint) :
    ∀ unit ∈ order.halves code.val, unit < 0x10000 := by
  have valid := code.isValid
  intro unit member
  cases order <;>
    simp only [ByteOrder.halves, List.mem_cons, List.not_mem_nil, or_false] at member <;> omega

theorem joinUnits16_alone {read : Text} {code : CodePoint} (units : List Nat)
    (apart : ∀ high ∈ read.head?, high.isHighSurrogate = true → code.isLowSurrogate = false) :
    joinUnits16 read (code.val :: units) = joinUnits16 (code :: read) units := by
  rw [joinUnits16, code.ofNat?_val]
  cases read with
  | nil => rfl
  | cons high earlier =>
      have single : (high.isHighSurrogate && code.isLowSurrogate) = false := by
        cases isHigh : high.isHighSurrogate with
        | false => rfl
        | true => simp [apart high rfl isHigh]
      simp only [Option.bind_eq_bind, Option.bind_some, single, Bool.false_eq_true, if_false]

theorem joinUnits16_joined {read : Text} {high low : CodePoint} (units : List Nat)
    (isHigh : high.isHighSurrogate = true) (isLow : low.isLowSurrogate = true) :
    joinUnits16 (high :: read) (low.val :: units) =
      joinUnits16 (high.joinSurrogates low :: read) units := by
  rw [joinUnits16, low.ofNat?_val]
  simp [isHigh, isLow]

theorem joinUnits16_pair {read : Text} {code : CodePoint} (units : List Nat)
    (large : 0x10000 ≤ code.val) :
    joinUnits16 read (code.units16 ++ units) = joinUnits16 (code :: read) units := by
  have valid := code.isValid
  let high : CodePoint := ⟨0xD800 + (code.val - 0x10000) / 0x400, by omega⟩
  let low : CodePoint := ⟨0xDC00 + (code.val - 0x10000) % 0x400, by omega⟩
  have isHigh : high.isHighSurrogate = true := by
    simp only [CodePoint.isHighSurrogate, high, Bool.and_eq_true, decide_eq_true_eq]
    omega
  have notLow : high.isLowSurrogate = false := by
    simp only [CodePoint.isLowSurrogate, high, Bool.and_eq_false_iff, decide_eq_false_iff_not]
    omega
  have isLow : low.isLowSurrogate = true := by
    simp only [CodePoint.isLowSurrogate, low, Bool.and_eq_true, decide_eq_true_eq]
    omega
  have joined : high.joinSurrogates low = code := by
    rw [CodePoint.ext_iff]
    simp only [CodePoint.joinSurrogates, high, low]
    omega
  have units16 : code.units16 = [high.val, low.val] := if_neg (by omega)
  rw [units16]
  simp only [List.cons_append, List.nil_append]
  rw [joinUnits16_alone _ fun _ _ _ => notLow, joinUnits16_joined _ isHigh isLow, joined]

theorem joinUnits16_units16 {text read : Text}
    (apart : ¬ Text.HasSurrogatePair (read.reverse ++ text)) :
    joinUnits16 read (text.flatMap CodePoint.units16) = some (read.reverse ++ text) := by
  induction text generalizing read with
  | nil => simp [joinUnits16]
  | cons code text ih =>
      have rest : joinUnits16 (code :: read) (text.flatMap CodePoint.units16) =
          some (read.reverse ++ code :: text) := by
        have moved : (code :: read).reverse ++ text = read.reverse ++ code :: text := by simp
        rw [← moved] at apart ⊢
        exact ih apart
      rw [List.flatMap_cons]
      by_cases small : code.val < 0x10000
      · have units16 : code.units16 = [code.val] := if_pos small
        rw [units16, List.singleton_append, joinUnits16_alone, rest]
        intro high first isHigh
        by_contra isLow
        cases read with
        | nil => simp at first
        | cons last earlier =>
            obtain rfl : last = high := by simpa using first
            exact apart ⟨earlier.reverse, last, code, text, by simp, isHigh, by simpa using isLow⟩
      · rw [joinUnits16_pair _ (by omega), rest]

theorem joinUnits32_halves (order : ByteOrder) (text read : Text) :
    joinUnits32 order read (text.flatMap fun code => order.halves code.val) =
      some (read.reverse ++ text) := by
  induction text generalizing read with
  | nil => simp [joinUnits32]
  | cons code text ih =>
      have step : joinUnits32 order read (order.halves code.val ++
          text.flatMap fun code => order.halves code.val) =
            joinUnits32 order (code :: read) (text.flatMap fun code => order.halves code.val) := by
        cases order with
        | little =>
            have whole : code.val % 0x10000 + code.val / 0x10000 * 0x10000 = code.val := by omega
            simp [ByteOrder.halves, joinUnits32, whole, code.ofNat?_val]
        | big =>
            have whole : code.val / 0x10000 * 0x10000 + code.val % 0x10000 = code.val := by omega
            simp [ByteOrder.halves, joinUnits32, whole, code.ofNat?_val]
      rw [List.flatMap_cons, step, ih]
      simp

theorem Text.ofUtf8?_utf8 (text : Text) : ofUtf8? text.utf8 = some text := by
  have pieces : Utf8.pieces true text.utf8 = text.map Utf8.Piece.intact :=
    Utf8.pieces_utf8 fun _ _ => Or.inl rfl
  have codes : (text.map Utf8.Piece.intact).map Utf8.Piece.code? = text.map some := by
    rw [List.map_map]
    rfl
  rw [ofUtf8?, pieces, codes]
  simp

theorem Encoding.decode_encode (encoding : Encoding) {text : Text}
    (apart : ¬ text.HasSurrogatePair) : encoding.decode (encoding.encode text) = some text := by
  cases encoding with
  | utf8 => exact text.ofUtf8?_utf8
  | utf16 order =>
      have bounds : ∀ unit ∈ text.flatMap CodePoint.units16, unit < 0x10000 := by
        intro unit member
        obtain ⟨code, _, here⟩ := List.mem_flatMap.mp member
        exact code.units16_lt unit here
      rw [encode, decode, ByteOrder.units16?_bytes16 bounds]
      exact joinUnits16_units16 apart
  | utf32 order =>
      have bounds : ∀ unit ∈ text.flatMap (fun code => order.halves code.val), unit < 0x10000 := by
        intro unit member
        obtain ⟨code, _, here⟩ := List.mem_flatMap.mp member
        exact code.halves_lt order unit here
      have bytes : text.flatMap (fun code => order.bytes32 code.val) =
          (text.flatMap fun code => order.halves code.val).flatMap order.bytes16 := by
        simp only [ByteOrder.bytes32_eq, List.flatMap_assoc]
      rw [encode, decode, bytes, ByteOrder.units16?_bytes16 bounds]
      exact joinUnits32_halves order text []

/-! Detection -/

namespace Encoding

def file (encoding : Encoding) (hasMark : Bool) (text : Text) : Bytes :=
  (if hasMark then encoding.mark else []) ++ encoding.encode text

@[simp] theorem mark_utf8 : mark utf8 = [0xEF, 0xBB, 0xBF] := rfl

@[simp] theorem mark_utf16_little : mark (utf16 .little) = [0xFF, 0xFE] := rfl

@[simp] theorem mark_utf16_big : mark (utf16 .big) = [0xFE, 0xFF] := rfl

@[simp] theorem mark_utf32_little : mark (utf32 .little) = [0xFF, 0xFE, 0, 0] := rfl

@[simp] theorem mark_utf32_big : mark (utf32 .big) = [0, 0, 0xFE, 0xFF] := rfl

/-- Bytes that the mark of little-endian UTF-16 in front of them would be read with. -/
def BeginsWithZeros (bytes : Bytes) : Prop := ∃ rest, bytes = 0 :: 0 :: rest

theorem detect_mark (encoding : Encoding) {bytes : Bytes}
    (apart : encoding = utf16 .little → ¬ BeginsWithZeros bytes) :
    detect (encoding.mark ++ bytes) = (encoding, bytes) := by
  have found : marked? (encoding.mark ++ bytes) = some (encoding, bytes) := by
    cases encoding with
    | utf8 => simp [marked?, inMarkOrder, List.isPrefixOf?]
    | utf16 order =>
        cases order with
        | little =>
            have wide : List.isPrefixOf? [0, 0] bytes = none := by
              rw [Option.eq_none_iff_forall_ne_some]
              intro rest begins
              exact apart rfl ⟨rest, (List.append_eq_of_isPrefixOf?_eq_some begins).symm⟩
            simp [marked?, inMarkOrder, List.isPrefixOf?, wide]
        | big => simp [marked?, inMarkOrder, List.isPrefixOf?]
    | utf32 order => cases order <;> simp [marked?, inMarkOrder, List.isPrefixOf?]
  rw [detect, found]
  rfl

/-- A byte of an ASCII character other than U+0000. No mark begins with one, not even after
zeros. -/
structure IsAscii (byte : UInt8) : Prop where
  nonzero : byte ≠ 0
  low : byte < 0x80

theorem IsAscii.ne {byte mark : UInt8} (ascii : IsAscii byte) (high : ¬ mark < 0x80) :
    mark ≠ byte := by
  rintro rfl
  exact high ascii.low

section

variable {first : UInt8} {bytes : Bytes}

theorem marked?_ascii (ascii : IsAscii first) : marked? (first :: bytes) = none := by
  have one : (0xEF : UInt8) ≠ first := ascii.ne (by decide)
  have two : (0xFF : UInt8) ≠ first := ascii.ne (by decide)
  have three : (0xFE : UInt8) ≠ first := ascii.ne (by decide)
  have zero : (0 : UInt8) ≠ first := ascii.nonzero.symm
  simp [marked?, inMarkOrder, List.isPrefixOf?, one, two, three, zero]

theorem marked?_zero (ascii : IsAscii first) : marked? (0 :: first :: bytes) = none := by
  have zero : (0 : UInt8) ≠ first := ascii.nonzero.symm
  simp [marked?, inMarkOrder, List.isPrefixOf?, zero]

theorem marked?_zeros : marked? (0 :: 0 :: 0 :: bytes) = none := by
  simp [marked?, inMarkOrder, List.isPrefixOf?]

theorem unmarked_utf8 (ascii : IsAscii first) (second : ∀ byte ∈ bytes.head?, byte ≠ 0) :
    unmarked (first :: bytes) = utf8 := by
  have nonzero := ascii.nonzero
  rcases bytes with _ | ⟨byte, _ | ⟨third, _ | ⟨fourth, others⟩⟩⟩
  · rfl
  · simp [unmarked, nonzero, second byte rfl]
  · rfl
  · simp [unmarked, nonzero, second byte rfl]

def AreUnits (bytes : Bytes) : Prop :=
  bytes = [] ∨ ∃ first second rest, bytes = first :: second :: rest ∧ ¬ (first = 0 ∧ second = 0)

theorem AreUnits.not_beginsWithZeros (units : AreUnits bytes) : ¬ BeginsWithZeros bytes := by
  rintro ⟨rest, rfl⟩
  rcases units with nothing | ⟨first, second, others, shape, nonzero⟩
  · exact absurd nothing nofun
  · obtain ⟨rfl, rfl, _⟩ : 0 = first ∧ 0 = second ∧ rest = others := by simpa using shape
    exact nonzero ⟨rfl, rfl⟩

theorem unmarked_utf16_little (ascii : IsAscii first) (units : AreUnits bytes) :
    unmarked (first :: 0 :: bytes) = utf16 .little := by
  have nonzero := ascii.nonzero
  rcases units with rfl | ⟨third, fourth, others, rfl, apart⟩
  · simp [unmarked, nonzero]
  · simp [unmarked, nonzero, apart]

theorem unmarked_utf16_big (ascii : IsAscii first) (units : AreUnits bytes) :
    unmarked (0 :: first :: bytes) = utf16 .big := by
  have nonzero := ascii.nonzero
  rcases units with rfl | ⟨third, fourth, others, rfl, _⟩
  · simp [unmarked]
  · simp [unmarked, nonzero]

theorem unmarked_utf32_little (ascii : IsAscii first) :
    unmarked (first :: 0 :: 0 :: 0 :: bytes) = utf32 .little := by
  simp [unmarked, ascii.nonzero]

theorem unmarked_utf32_big : unmarked (0 :: 0 :: 0 :: first :: bytes) = utf32 .big := by
  simp [unmarked]

end

variable {first : CodePoint} {rest : Text}

theorem isAscii_ofNat (positive : 0 < first.val) (low : first.val < 0x80) :
    IsAscii (.ofNat first.val) := by
  have value : (UInt8.ofNat first.val).toNat = first.val := Utf8.toNat_ofNat (by omega)
  constructor
  · rw [ne_eq, ← UInt8.toNat_inj, value, UInt8.toNat_zero]
    omega
  · rw [UInt8.lt_iff_toNat_lt, value]
    exact low

theorem head_utf8_ne_zero (second : ∀ code ∈ rest.head?, code.val ≠ 0) :
    ∀ byte ∈ rest.utf8.head?, byte ≠ 0 := by
  cases rest with
  | nil => simp [Text.utf8]
  | cons code others =>
      have nonzero := second code rfl
      have valid := code.isValid
      have lead {number : Nat} (positive : 0 < number) (bound : number < 0x100) :
          UInt8.ofNat number ≠ 0 := by
        rw [ne_eq, ← UInt8.toNat_inj, Utf8.toNat_ofNat bound, UInt8.toNat_zero]
        omega
      intro byte head
      rw [Text.utf8, List.flatMap_cons] at head
      unfold CodePoint.utf8 at head
      split_ifs at head with one two three <;>
        simp only [List.cons_append, List.head?_cons, Option.mem_some_iff] at head <;>
        subst head <;> exact lead (by omega) (by omega)

theorem areUnits_utf16 (order : ByteOrder) (second : ∀ code ∈ rest.head?, code.val ≠ 0) :
    AreUnits (encode (utf16 order) rest) := by
  cases rest with
  | nil => exact Or.inl rfl
  | cons code others =>
      obtain ⟨unit, units, shape, nonzero⟩ :
          ∃ unit units, code.units16 = unit :: units ∧ unit ≠ 0 := by
        unfold CodePoint.units16
        split_ifs
        · exact ⟨_, _, rfl, second code rfl⟩
        · exact ⟨_, _, rfl, by omega⟩
      have bound := code.units16_lt unit (by simp [shape])
      obtain ⟨low, high, bytes, value⟩ := order.bytes16_eq bound
      have opens : encode (utf16 order) (code :: others) =
          low :: high :: (units ++ others.flatMap CodePoint.units16).flatMap order.bytes16 := by
        simp [encode, shape, bytes]
      refine Or.inr ⟨low, high, _, opens, ?_⟩
      rintro ⟨rfl, rfl⟩
      cases order <;> exact nonzero value.symm

theorem detect_of_unmarked {bytes : Bytes} {encoding : Encoding} (none : marked? bytes = none)
    (guessed : unmarked bytes = encoding) : detect bytes = (encoding, bytes) := by
  rw [detect, none, guessed]
  rfl

theorem detect_encode (encoding : Encoding) (positive : 0 < first.val) (low : first.val < 0x80)
    (second : ∀ code ∈ rest.head?, code.val ≠ 0) :
    detect (encoding.encode (first :: rest)) = (encoding, encoding.encode (first :: rest)) := by
  have ascii := isAscii_ofNat positive low
  have lowByte : first.val % 0x100 = first.val := by omega
  have highByte : first.val / 0x100 = 0 := by omega
  have zero : UInt8.ofNat 0 = 0 := rfl
  cases encoding with
  | utf8 =>
      have one : first.utf8 = [.ofNat first.val] := if_pos low
      have shape : encode utf8 (first :: rest) = .ofNat first.val :: rest.utf8 := by
        simp [encode, Text.utf8, one]
      rw [shape]
      exact detect_of_unmarked (marked?_ascii ascii)
        (unmarked_utf8 ascii (head_utf8_ne_zero second))
  | utf16 order =>
      have unit : first.units16 = [first.val] := if_pos (by omega)
      have units := areUnits_utf16 order second
      have shape : encode (utf16 order) (first :: rest) =
          order.bytes16 first.val ++ encode (utf16 order) rest := by
        simp [encode, unit]
      cases order with
      | little =>
          simp only [shape, ByteOrder.bytes16, lowByte, highByte, zero, List.cons_append,
            List.nil_append]
          exact detect_of_unmarked (marked?_ascii ascii) (unmarked_utf16_little ascii units)
      | big =>
          simp only [shape, ByteOrder.bytes16, lowByte, highByte, zero, List.cons_append,
            List.nil_append]
          exact detect_of_unmarked (marked?_zero ascii) (unmarked_utf16_big ascii units)
  | utf32 order =>
      have lowHalf : first.val % 0x10000 = first.val := by omega
      have highHalf : first.val / 0x10000 = 0 := by omega
      have shape : encode (utf32 order) (first :: rest) =
          order.bytes32 first.val ++ encode (utf32 order) rest := by
        simp [encode]
      cases order with
      | little =>
          simp only [shape, ByteOrder.bytes32, ByteOrder.bytes16, lowHalf, highHalf, lowByte,
            highByte, Nat.zero_mod, Nat.zero_div, zero, List.cons_append, List.nil_append]
          exact detect_of_unmarked (marked?_ascii ascii) (unmarked_utf32_little ascii)
      | big =>
          simp only [shape, ByteOrder.bytes32, ByteOrder.bytes16, lowHalf, highHalf, lowByte,
            highByte, Nat.zero_mod, Nat.zero_div, zero, List.cons_append, List.nil_append]
          exact detect_of_unmarked marked?_zeros unmarked_utf32_big

theorem not_beginsWithZeros_encode (positive : 0 < first.val) :
    ¬ BeginsWithZeros (encode (utf16 .little) (first :: rest)) := by
  have opens : ∀ code ∈ (first :: rest).head?, code.val ≠ 0 := by
    simp
    omega
  exact (areUnits_utf16 .little opens).not_beginsWithZeros

theorem detect_file (encoding : Encoding) (hasMark : Bool) (positive : 0 < first.val)
    (low : first.val < 0x80) (second : ∀ code ∈ rest.head?, code.val ≠ 0) :
    detect (encoding.file hasMark (first :: rest)) =
      (encoding, encoding.encode (first :: rest)) := by
  cases hasMark with
  | true => exact detect_mark encoding fun same => same ▸ not_beginsWithZeros_encode positive
  | false => exact detect_encode encoding positive low second

end Encoding

theorem Text.ofFile?_file (encoding : Encoding) (hasMark : Bool) {first : CodePoint} {rest : Text}
    (positive : 0 < first.val) (low : first.val < 0x80)
    (second : ∀ code ∈ rest.head?, code.val ≠ 0)
    (apart : ¬ HasSurrogatePair (first :: rest)) :
    ofFile? (encoding.file hasMark (first :: rest)) = some (first :: rest) := by
  rw [ofFile?, encoding.detect_file hasMark positive low second]
  exact encoding.decode_encode apart

end Catalogue
