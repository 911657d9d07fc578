import Mathlib
import Catalogue.Client.Transport
import Catalogue.Proofs.Json.Surrogates
import Catalogue.Proofs.Query

/-!
Bodies of responses. A value without surrogates is sent, and the client reads it back as it was; of
a value without hidden keys nothing is left out before that. What a query selects from a document
that was read nests no deeper than the document, and can be written.
-/

namespace Catalogue

open Json.Grammar

def Json.Value.HasNoHiddenKeys (value : Json.Value) : Prop :=
  ∀ members, Part (.object members) value → ∀ member ∈ members,
    member.1.startsWith hiddenBeginning = false

theorem Json.Value.HasNoHiddenKeys.of_part {part value : Json.Value} (within : Part part value)
    (shown : value.HasNoHiddenKeys) : part.HasNoHiddenKeys :=
  fun members inner => shown members (inner.trans within)

theorem visibleItems_eq_map (items : List Json.Value) :
    visibleItems items = items.map visibleValue := by
  induction items with
  | nil => simp [visibleItems]
  | cons item items ih => simp [visibleItems, ih]

theorem visibleMembers_eq_map (members : Json.Members) :
    visibleMembers members =
      (members.filter fun member => !member.1.startsWith hiddenBeginning).map
        fun member => (member.1, visibleValue member.2) := by
  induction members with
  | nil => simp [visibleMembers]
  | cons member members ih =>
      obtain ⟨key, value⟩ := member
      rw [visibleMembers]
      by_cases hidden : key.startsWith hiddenBeginning = true <;> simp [hidden, ih]

theorem visibleValue_eq {value : Json.Value} (shown : value.HasNoHiddenKeys) :
    visibleValue value = value := by
  induction value using Json.Value.induction with
  | null | boolean | integer | double | string => simp [visibleValue]
  | array items ih =>
      have each (item : Json.Value) (member : item ∈ items) : visibleValue item = id item :=
        ih item member (shown.of_part (Json.Value.Part.item member (Json.Value.Part.self item)))
      rw [visibleValue, visibleItems_eq_map, List.map_congr_left each, List.map_id]
  | object members ih =>
      have all : ∀ member ∈ members, (!member.1.startsWith hiddenBeginning) = true :=
        fun member within => by rw [shown members (Json.Value.Part.self _) member within]; rfl
      have each (member : Text × Json.Value) (within : member ∈ members) :
          (member.1, visibleValue member.2) = id member :=
        Prod.ext rfl (ih member within
          (shown.of_part (Json.Value.Part.member within (Json.Value.Part.self member.2))))
      rw [visibleValue, visibleMembers_eq_map, List.filter_eq_self.mpr all,
        List.map_congr_left each, List.map_id]

namespace Response

theorem ofValue_of_hasNoSurrogates {value : Json.Value} (plain : value.HasNoSurrogates)
    (status : Nat) :
    ofValue status value = ofText status .json (value.write Json.Style.compact) := by
  have sendable : (value.write Json.Style.compact).any CodePoint.isSurrogate = false :=
    Text.any_isSurrogate_iff.mpr plain.write
  rw [ofValue, if_neg (by simp [sendable])]

theorem toReply_status {value : Json.Value} (plain : value.HasNoSurrogates) (status : Nat)
    (address : Text) : ((ofValue status value).toReply address).status = status := by
  rw [ofValue_of_hasNoSurrogates plain]
  rfl

theorem toReply_ofText {body : Text} (plain : body.HasNoSurrogates) (status : Nat)
    (mediaType : MediaType) (address : Text) :
    (ofText status mediaType body).toReply address = ⟨status, none, address, body, body⟩ := by
  have decoded : Text.ofUtf8Replacing body.utf8 = body := Text.ofUtf8Replacing_utf8 plain
  rw [toReply, ofText, Reply.ofUtf8]
  dsimp only
  rw [decoded]

theorem toReply_value {value : Json.Value} (plain : value.HasNoSurrogates)
    (writes : Json.Writes Json.Style.compact (DerivesWithin .lenient Json.depthLimit) value)
    (status : Nat) (address : Text) :
    ((ofValue status value).toReply address).value = .ok value := by
  rw [ofValue_of_hasNoSurrogates plain, toReply_ofText plain.write]
  exact Json.readUnmarked_of_read (Json.read_of_writes writes)

end Response

/-! What can be written -/

theorem Json.Value.hasNoSurrogates_member {key text : Text} (name : key.HasNoSurrogates)
    (plain : text.HasNoSurrogates) :
    (Json.Value.object [(key, .string text)]).HasNoSurrogates :=
  hasNoSurrogates_object
    (List.forall_mem_singleton.mpr ⟨name, hasNoSurrogates_string plain⟩)

theorem writes_member {policy : Json.Policy} {style : Json.Style}
    (unescaped : style.asciiOnly = false) (budget : Nat) (key text : Text) :
    Json.Writes style (DerivesWithin policy (budget + 2)) (.object [(key, .string text)]) := by
  have unbound {statement : Prop} (ascii : style.asciiOnly = true) : statement := by
    rw [unescaped] at ascii
    exact absurd ascii nofun
  have distinct : ([(key, Json.Value.string text)].map Prod.fst).Nodup := List.nodup_singleton key
  apply Json.writeObject distinct unbound
  rw [List.forall_mem_singleton]
  intro level after
  obtain ⟨quoted, spelled, written⟩ : ∃ quoted, Quoted quoted text ∧
      ∀ after, Json.writeString style text after = quoted ++ after :=
    Json.writeString_quoted style unbound
  exact ⟨quoted, Rule.string spelled, by rw [Json.writeValue, written]⟩

theorem Selection.paintings_subset_of_filter {keep : Painting → Bool} {document : Document}
    {selection : Selection} (selected : ofDocument? (document.filter keep) = some selection) :
    selection.paintings ⊆ document := by
  unfold ofDocument? at selected
  split_ifs at selected
  obtain rfl := Option.some.inj selected
  exact List.filter_subset_self document

theorem Query.paintings_subset {query : Query} {document : Document} {selection : Selection}
    (selected : query.select document = some selection) : selection.paintings ⊆ document := by
  cases query with
  | all =>
      obtain rfl := Option.some.inj selected
      exact List.Subset.refl document
  | painting identifier =>
      obtain ⟨found, first, rfl⟩ := Option.map_eq_some_iff.mp selected
      rw [Selection.paintings, List.cons_subset]
      exact ⟨List.mem_of_find?_eq_some first, List.nil_subset document⟩
  | gallery | artist => exact Selection.paintings_subset_of_filter selected
  | years least greatest =>
      rw [select] at selected
      split at selected
      · exact Selection.paintings_subset_of_filter selected
      · cases selected

theorem Selection.writes {style : Json.Style} (unescaped : style.asciiOnly = false)
    {document : Document} {text : Text}
    (within : DerivesWithin .strict Json.depthLimit text document.toValue) {selection : Selection}
    (part : selection.paintings ⊆ document) :
    Json.Writes style (DerivesWithin .lenient Json.depthLimit) selection.toValue := by
  have writable : document.toValue.IsWritable style :=
    ⟨within.derives.hasFiniteDoubles, within.derives.hasFewDigits, within.derives.hasDistinctKeys,
      by simp [unescaped]⟩
  have each (painting : Painting) (member : painting ∈ selection.paintings) :
      Json.Writes style (DerivesWithin .lenient (Json.depthLimit - 1)) painting.toValue := by
    have item := List.mem_map_of_mem (f := Painting.toValue) (part member)
    obtain ⟨inner, derives⟩ := Rule.exists_of_item within item
    exact Json.writeValue_derives derives.lenient
      (writable.of_part (Json.Value.Part.item item (Json.Value.Part.self _)))
  cases selection with
  | one painting =>
      exact (each painting (List.mem_singleton_self _)).imp fun derives =>
        derives.mono (Nat.sub_le _ _)
  | many paintings =>
      exact Json.writeArray (List.forall_mem_map.mpr each)

end Catalogue
