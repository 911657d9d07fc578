import Mathlib
import Catalogue.Proofs.Json.Budget
import Catalogue.Proofs.Json.Writing
import Catalogue.Proofs.Text.Encoding
import Catalogue.Storage.Document

/-!
Reading documents. The bytes of a file are a document just when their text derives an array of
objects, and the document is what the text denotes. Whatever else is in them is corrupt, and the
encoding that the text is in makes no difference. A document that was read can be written in every
style, and what is written is read as the same document.
-/

namespace Catalogue.Document

theorem ofItems_iff {items : List Json.Value} {document : Document} :
    ∀ {index : Nat}, ofItems index items = .ok document ↔
      items = document.map Painting.toValue := by
  induction items generalizing document with
  | nil =>
      intro index
      rw [ofItems, Except.ok.injEq]
      cases document <;> simp
  | cons item items ih =>
      intro index
      cases item with
      | object members =>
          rw [ofItems]
          constructor
          · intro done
            obtain ⟨others, rest, same⟩ := Json.bind_eq_ok done
            obtain rfl := Except.ok.inj same
            rw [ih.mp rest]
            rfl
          · intro same
            cases document with
            | nil => exact absurd same nofun
            | cons painting others =>
                obtain ⟨first, rest⟩ := List.cons.inj same
                obtain rfl := Json.Value.object.inj first
                rw [ih.mpr rest]
                rfl
      | _ =>
          refine iff_of_false nofun fun same => ?_
          cases document with
          | nil => exact absurd same nofun
          | cons painting others => exact absurd (List.cons.inj same).1 nofun

theorem ofValue_iff {value : Json.Value} {document : Document} :
    ofValue value = .ok document ↔ value = document.toValue := by
  cases value with
  | array items => rw [ofValue, ofItems_iff, toValue, Json.Value.array.injEq]
  | _ => exact iff_of_false nofun nofun

theorem ofBytes_iff {bytes : Bytes} {document : Document} :
    ofBytes bytes = .ok document ↔ ∃ text, Text.ofFile? bytes = some text ∧
      Json.read .strict text = .ok document.toValue := by
  unfold ofBytes
  cases decoded : Text.ofFile? bytes with
  | none => exact iff_of_false nofun nofun
  | some text =>
      simp only [Option.some.injEq, exists_eq_left']
      cases result : Json.read .strict text with
      | error failure => cases failure with
        | fault => exact iff_of_false nofun nofun
        | refusal refusal => cases refusal <;> exact iff_of_false nofun nofun
      | ok value =>
          rw [Except.ok.injEq, ← ofValue_iff]
          dsimp only
          cases ofValue value with
          | error _ => exact iff_of_false nofun nofun
          | ok _ => rw [Except.mapError, Except.ok.injEq, Except.ok.injEq]

theorem ofBytes_error {bytes : Bytes} {failure : LoadFailure}
    (failed : ofBytes bytes = .error failure) :
    (∃ corruption, failure = .corrupt corruption) ∨
      ∃ text, Text.ofFile? bytes = some text ∧
        Json.read .strict text = .error (.refusal .tooDeep) := by
  unfold ofBytes at failed
  cases decoded : Text.ofFile? bytes with
  | none =>
      rw [decoded] at failed
      exact Or.inl ⟨_, (Except.error.inj failed).symm⟩
  | some text =>
      rw [decoded] at failed
      dsimp only at failed
      split at failed
      · rename_i deep
        exact Or.inr ⟨text, rfl, deep⟩
      · exact Or.inl ⟨_, (Except.error.inj failed).symm⟩
      · rename_i value _
        cases result : ofValue value with
        | error corruption =>
            rw [result] at failed
            exact Or.inl ⟨corruption, (Except.error.inj failed).symm⟩
        | ok document =>
            rw [result] at failed
            exact absurd failed nofun

theorem derives_of_ofBytes {bytes : Bytes} {document : Document}
    (done : ofBytes bytes = .ok document) :
    ∃ inner, Json.Grammar.DerivesWithin .strict Json.depthLimit inner document.toValue := by
  obtain ⟨text, _, reads⟩ := ofBytes_iff.mp done
  obtain ⟨_, within, _⟩ := Json.read_iff.mp reads
  exact ⟨_, within⟩

theorem derivesWithin_of_ofBytes {bytes : Bytes} {document : Document} {depth : Nat}
    (shallow : ∀ text, Text.ofFile? bytes = some text → text.nesting ≤ depth)
    (done : ofBytes bytes = .ok document) :
    ∃ inner, Json.Grammar.DerivesWithin .strict (depth + 1) inner document.toValue := by
  obtain ⟨text, decoded, reads⟩ := ofBytes_iff.mp done
  have derives := Json.Grammar.Padded.imp Json.Grammar.descends_true
    (fun _ => Json.Grammar.DerivesWithin.derives) trivial (Json.read_iff.mp reads)
  obtain ⟨_, within, _⟩ := derives.within_nesting (shallow text decoded)
  exact ⟨_, within⟩

/-- Bytes whose text nests at most a hundred deep are read as the document that the text denotes,
and are corrupt if it denotes none. No object of a document has a key twice. -/
theorem ofBytes_denotes (bytes : Bytes)
    (shallow : ∀ text, Text.ofFile? bytes = some text → text.nesting ≤ 100) :
    (∀ document, ofBytes bytes = .ok document ↔ ∃ text, Text.ofFile? bytes = some text ∧
      Json.Grammar.Document .strict text document.toValue) ∧
    ((¬ ∃ text document, Text.ofFile? bytes = some text ∧
        Json.Grammar.Document .strict text (Document.toValue document)) →
      ∃ corruption, ofBytes bytes = .error (.corrupt corruption)) ∧
    ∀ document, ofBytes bytes = .ok document → document.toValue.HasDistinctKeys := by
  have denotes (document : Document) : ofBytes bytes = .ok document ↔
      ∃ text, Text.ofFile? bytes = some text ∧
        Json.Grammar.Document .strict text document.toValue := by
    rw [ofBytes_iff]
    refine exists_congr fun text => and_congr_right fun decoded => ?_
    exact Json.read_iff_document ((shallow text decoded).trans_lt (by decide))
  refine ⟨denotes, fun none => ?_, fun document done => ?_⟩
  · cases result : ofBytes bytes with
    | ok document =>
        obtain ⟨text, decoded, derives⟩ := (denotes document).mp result
        exact absurd ⟨text, document, decoded, derives⟩ none
    | error failure =>
        rcases ofBytes_error result with ⟨corruption, rfl⟩ | ⟨text, decoded, deep⟩
        · exact ⟨corruption, rfl⟩
        · have nested := Json.depthLimit_le_nesting deep
          exact absurd (nested.trans (shallow text decoded)) (by decide)
  · obtain ⟨inner, within⟩ := derives_of_ofBytes done
    exact within.derives.hasDistinctKeys

theorem ofBytes_denotes_repeated_key :
    ∃ text, Text.ofFile? [0x5B, 0x7B, 0x22, 0x61, 0x22, 0x3A, 0x31, 0x2C, 0x22, 0x61, 0x22, 0x3A,
        0x32, 0x7D, 0x5D] = some text ∧
      Json.Grammar.Document .strict text (toValue [⟨[("a", .integer 2)]⟩]) := by
  have few : (Text.ofFile? [0x5B, 0x7B, 0x22, 0x61, 0x22, 0x3A, 0x31, 0x2C, 0x22, 0x61, 0x22, 0x3A,
      0x32, 0x7D, 0x5D]).all (·.nesting ≤ 100) = true := by decide +kernel
  refine ((ofBytes_denotes _ fun text decoded => ?_).1 _).mp ?_
  · rw [decoded] at few
    exact of_decide_eq_true few
  · rfl

/-- A text that opens with an ASCII character is one and the same file in every encoding, with a
mark or without one: the encoding is found, and the same document or the same corruption is read. -/
theorem ofBytes_file {first : CodePoint} {rest : Text} (positive : 0 < first.val)
    (low : first.val < 0x80) (second : ∀ code ∈ rest.head?, code.val ≠ 0)
    (apart : ¬ Text.HasSurrogatePair (first :: rest))
    (shallow : Text.nesting (first :: rest) ≤ 100) :
    (∀ (encoding : Encoding) (hasMark : Bool),
      Encoding.detect (encoding.file hasMark (first :: rest)) =
          (encoding, encoding.encode (first :: rest)) ∧
        encoding.decode (encoding.encode (first :: rest)) = some (first :: rest)) ∧
    ((∃ document, ∀ (encoding : Encoding) (hasMark : Bool),
      ofBytes (encoding.file hasMark (first :: rest)) = .ok document) ∨
    ∃ corruption, ∀ (encoding : Encoding) (hasMark : Bool),
      ofBytes (encoding.file hasMark (first :: rest)) = .error (.corrupt corruption)) := by
  refine ⟨fun encoding hasMark => ⟨encoding.detect_file hasMark positive low second,
    encoding.decode_encode apart⟩, ?_⟩
  have decoded (encoding : Encoding) (hasMark : Bool) :
      Text.ofFile? (encoding.file hasMark (first :: rest)) = some (first :: rest) :=
    Text.ofFile?_file encoding hasMark positive low second apart
  have same (encoding : Encoding) (hasMark : Bool) :
      ofBytes (encoding.file hasMark (first :: rest)) =
        ofBytes (Encoding.utf8.file false (first :: rest)) := by
    rw [ofBytes, decoded, ofBytes, decoded]
  cases result : ofBytes (Encoding.utf8.file false (first :: rest)) with
  | ok document => exact Or.inl ⟨document, fun encoding hasMark => (same _ _).trans result⟩
  | error failure =>
      rcases ofBytes_error result with ⟨corruption, rfl⟩ | ⟨text, read, deep⟩
      · exact Or.inr ⟨corruption, fun encoding hasMark => (same _ _).trans result⟩
      · obtain rfl : first :: rest = text := Option.some.inj ((decoded _ _).symm.trans read)
        exact absurd ((Json.depthLimit_le_nesting deep).trans shallow) (by decide)

theorem ofBytes_file_lone_surrogate :
    let rest : Text := Text.ofString "\x7b\"a\":\"" ++
      (⟨0xD800, by decide⟩ : CodePoint) :: Text.ofString "😀\"\x7d]"
    ∀ (encoding : Encoding) (hasMark : Bool), ofBytes (encoding.file hasMark ('[' :: rest)) =
      .ok [⟨[("a", .string [⟨0xD800, by decide⟩, ⟨0x1F600, by decide⟩])]⟩] := by
  intro rest encoding hasMark
  have read : ofBytes (Encoding.utf8.file false ('[' :: rest)) =
      .ok [⟨[("a", .string [⟨0xD800, by decide⟩, ⟨0x1F600, by decide⟩])]⟩] := by rfl
  have outcome := @ofBytes_file '[' rest (by decide) (by decide) (by decide) (by decide)
    (by decide +kernel)
  rcases outcome.2 with ⟨document, same⟩ | ⟨corruption, same⟩
  · rw [same, ← same .utf8 false]
    exact read
  · exact absurd ((same .utf8 false).symm.trans read) nofun

/-! What is written -/

/-- What is written for a document nests no deeper than what it was read from, and is read as the
same document. Only ASCII cannot tell two surrogates side by side from the code point that they
stand for. -/
theorem ofBytes_write {bytes : Bytes} {document : Document}
    (shallow : ∀ text, Text.ofFile? bytes = some text → text.nesting ≤ 100)
    (done : ofBytes bytes = .ok document) :
    document.toValue.HasFiniteDoubles ∧ document.toValue.HasFewDigits ∧
      ∀ style : Json.Style,
        (style.asciiOnly = true → document.toValue.HasNoSurrogatePairs) →
          Json.Grammar.DerivesWithin .strict 101 (document.toValue.write style)
              document.toValue ∧
            Json.read .strict (document.toValue.write style) = .ok document.toValue ∧
            ofValue document.toValue = .ok document := by
  obtain ⟨inner, within⟩ := derivesWithin_of_ofBytes shallow done
  have derives := within.derives
  refine ⟨derives.hasFiniteDoubles, derives.hasFewDigits, fun style apart => ?_⟩
  have written := (within.writes apart).write
  exact ⟨written, Json.read_iff.mpr (Json.Grammar.padded_self (written.mono (by decide))),
    ofValue_iff.mpr rfl⟩

theorem ofBytes_write_power :
    ∃ document, ofBytes [0x5B, 0x7B, 0x22, 0x61, 0x22, 0x3A, 0x31, 0x65, 0x31, 0x36, 0x7D, 0x5D] =
        .ok document ∧
      document.toValue.write Json.Style.compact = Text.ofString "[\x7b\"a\":1e+16\x7d]" ∧
      Json.read .strict (document.toValue.write Json.Style.compact) = .ok document.toValue := by
  have few : (Text.ofFile? [0x5B, 0x7B, 0x22, 0x61, 0x22, 0x3A, 0x31, 0x65, 0x31, 0x36, 0x7D,
      0x5D]).all (·.nesting ≤ 100) = true := by decide +kernel
  have printed : (ofBytes [0x5B, 0x7B, 0x22, 0x61, 0x22, 0x3A, 0x31, 0x65, 0x31, 0x36, 0x7D,
      0x5D]).toOption.map (·.toValue.write Json.Style.compact) =
        some (Text.ofString "[\x7b\"a\":1e+16\x7d]") := by decide +kernel
  cases done : ofBytes [0x5B, 0x7B, 0x22, 0x61, 0x22, 0x3A, 0x31, 0x65, 0x31, 0x36, 0x7D, 0x5D] with
  | error failure =>
      rw [done] at printed
      exact absurd printed nofun
  | ok document =>
      rw [done] at printed
      refine ⟨document, rfl, Option.some.inj printed, ?_⟩
      refine ((ofBytes_write (fun text decoded => ?_) done).2.2 Json.Style.compact nofun).2.1
      rw [decoded] at few
      exact of_decide_eq_true few

end Catalogue.Document
