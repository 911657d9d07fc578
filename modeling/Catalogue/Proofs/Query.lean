import Mathlib
import Catalogue.Proofs.Matching
import Catalogue.Proofs.Storage.Document

/-!
What queries reach. A painting is found by what its identifiers are shown as, if they are numbers
or texts, and by nothing else. No query over a document that was read has to show a whole number
with more digits than can be shown.
-/

namespace Catalogue

namespace Json.Value

/-- A number or a text as it is shown, which a whole number with too many digits cannot be. -/
def displayChecked (value : Value) : Except Refusal Text :=
  match value with
  | .integer number =>
    let digits := (Text.ofNat number.natAbs).length
    if digitLimit < digits then .error (.tooManyDigits digits) else .ok value.display
  | value => .ok value.display

def isNamedByChecked (value : Value) (parameter : Text) : Except Refusal Bool :=
  match value with
  | .null | .boolean _ | .array _ | .object _ => .ok false
  | value =>
    match value.number?, parameter.number? with
    | some left, some right => .ok (left.equals right)
    | _, _ => value.displayChecked.map fun shown => decide (shown = parameter)

end Json.Value

namespace Query

def selectChecked (document : Document) : Query → Except Json.Refusal (Option Selection)
  | painting identifier =>
    (document.findM? fun record : Painting =>
      record.identifier.isNamedByChecked identifier).map (·.map .one)
  | gallery identifier =>
    (document.filterM fun record : Painting =>
      record.gallery.isNamedByChecked identifier).map Selection.ofDocument?
  | artist identifier =>
    (document.filterM fun record : Painting =>
      record.artist.isNamedByChecked identifier).map Selection.ofDocument?
  | query => .ok (select document query)

end Query

theorem Json.Value.displayChecked_eq {value : Json.Value} (few : value.HasFewDigits) :
    value.displayChecked = .ok value.display := by
  unfold displayChecked
  split
  · rename_i number
    exact if_neg (Nat.not_lt.mpr (few number (Part.self _)))
  · rfl

theorem Json.Value.isNamedByChecked_eq {value : Json.Value} (few : value.HasFewDigits)
    (parameter : Text) : value.isNamedByChecked parameter = .ok (value.isNamedBy parameter) := by
  cases value with
  | null | boolean _ | array _ | object _ => rfl
  | integer _ | double _ | string _ =>
      rw [isNamedByChecked, isNamedBy, displayChecked_eq few]
      · cases Value.number? _ <;> cases parameter.number? <;> rfl
      all_goals simp

theorem findM?_eq_ok {check : Painting → Except Json.Refusal Bool} {keep : Painting → Bool}
    {document : Document} (each : ∀ record ∈ document, check record = .ok (keep record)) :
    document.findM? check = .ok (document.find? keep) := by
  induction document with
  | nil => rfl
  | cons record document ih =>
      obtain ⟨here, later⟩ := List.forall_mem_cons.mp each
      rw [List.findM?, here, List.find?]
      cases keep record with
      | true => rfl
      | false => exact ih later

theorem filterAuxM_eq_ok {check : Painting → Except Json.Refusal Bool} {keep : Painting → Bool}
    {document : Document} (each : ∀ record ∈ document, check record = .ok (keep record)) :
    ∀ kept : Document,
      document.filterAuxM check kept = .ok ((document.filter keep).reverse ++ kept) := by
  induction document with
  | nil => exact fun _ => rfl
  | cons record document ih =>
      intro kept
      obtain ⟨here, later⟩ := List.forall_mem_cons.mp each
      rw [List.filterAuxM, here, Json.bind_ok, ih later]
      cases found : keep record with
      | true => simp [found]
      | false => simp [found]

theorem filterM_eq_ok {check : Painting → Except Json.Refusal Bool} {keep : Painting → Bool}
    {document : Document} (each : ∀ record ∈ document, check record = .ok (keep record)) :
    document.filterM check = .ok (document.filter keep) := by
  rw [List.filterM, filterAuxM_eq_ok each, Json.bind_ok, List.append_nil, List.reverse_reverse]
  rfl

theorem Json.Members.mem_of_find? {key : Text} {members : Json.Members} {value : Json.Value}
    (found : members.find? key = some value) : (key, value) ∈ members := by
  induction members with
  | nil => exact absurd found nofun
  | cons member members ih =>
      obtain ⟨name, first⟩ := member
      rw [find?] at found
      split_ifs at found with same
      · obtain rfl := Option.some.inj found
        exact same ▸ List.mem_cons_self
      · exact List.mem_cons_of_mem _ (ih found)

theorem Json.Value.HasFewDigits.of_part {part value : Json.Value} (within : Part part value)
    (few : value.HasFewDigits) : part.HasFewDigits :=
  fun number inner => few number (inner.trans within)

theorem Json.Value.hasFewDigits_null : Value.null.HasFewDigits := by
  intro number within
  cases within

theorem Json.Value.HasFewDigits.get {members : Json.Members}
    (few : (Json.Value.object members).HasFewDigits) (key : Text) :
    (Json.Value.get members key).HasFewDigits := by
  unfold Json.Value.get
  cases found : members.find? key with
  | none => exact hasFewDigits_null
  | some value =>
      exact few.of_part (Part.member (Members.mem_of_find? found) (Part.self value))

theorem Painting.reference_hasFewDigits {record : Painting} (few : record.toValue.HasFewDigits)
    (key identifier : Text) : (record.reference key identifier).HasFewDigits := by
  have field : (record.field key).HasFewDigits := few.get key
  unfold reference
  split
  · rename_i members shape
    rw [shape] at field
    exact field.get identifier
  · exact Json.Value.hasFewDigits_null

theorem Document.record_hasFewDigits {document : Document} (few : document.toValue.HasFewDigits)
    {record : Painting} (within : record ∈ document) : record.toValue.HasFewDigits :=
  few.of_part (Json.Value.Part.item (List.mem_map_of_mem within) (Json.Value.Part.self _))

theorem Document.filterM_reference {document : Document} (few : document.toValue.HasFewDigits)
    (key identifier parameter : Text) :
    document.filterM (fun record => (record.reference key identifier).isNamedByChecked parameter) =
      .ok (document.filter fun record => (record.reference key identifier).isNamedBy parameter) :=
  filterM_eq_ok fun _ within => Json.Value.isNamedByChecked_eq
    (Painting.reference_hasFewDigits (record_hasFewDigits few within) key identifier) parameter

theorem Query.selectChecked_eq {document : Document} (few : document.toValue.HasFewDigits)
    (query : Query) : selectChecked document query = .ok (select document query) := by
  cases query with
  | all | years => rfl
  | painting identifier =>
      have each (record : Painting) (within : record ∈ document) :
          record.identifier.isNamedByChecked identifier =
            .ok (record.identifier.isNamedBy identifier) :=
        Json.Value.isNamedByChecked_eq ((Document.record_hasFewDigits few within).get _) identifier
      rw [selectChecked, findM?_eq_ok each]
      rfl
  | gallery parameter =>
      have kept := Document.filterM_reference few "gallery" "galleryID" parameter
      exact congrArg (·.map Selection.ofDocument?) kept
  | artist parameter =>
      have kept := Document.filterM_reference few "artist" "artistID" parameter
      exact congrArg (·.map Selection.ofDocument?) kept

/-! What queries find -/

def Query.Finds (document : Document) (query : Query) (record : Painting) : Prop :=
  ∃ selection, query.select document = some selection ∧ record ∈ selection.paintings

theorem Selection.finds_ofDocument? {document : Document} {record : Painting} :
    (∃ selection, ofDocument? document = some selection ∧ record ∈ selection.paintings) ↔
      record ∈ document := by
  cases document with
  | nil => exact iff_of_false nofun List.not_mem_nil
  | cons first others => simp [ofDocument?, paintings]

namespace Query

theorem finds_gallery {document : Document} {parameter : Text} {record : Painting} :
    Finds document (.gallery parameter) record ↔
      record ∈ document ∧ record.gallery.isNamedBy parameter = true :=
  Selection.finds_ofDocument?.trans List.mem_filter

theorem finds_artist {document : Document} {parameter : Text} {record : Painting} :
    Finds document (.artist parameter) record ↔
      record ∈ document ∧ record.artist.isNamedBy parameter = true :=
  Selection.finds_ofDocument?.trans List.mem_filter

theorem finds_years {document : Document} {least greatest : Text} {record : Painting} :
    Finds document (.years least greatest) record ↔
      ∃ low high, least.number? = some low ∧ greatest.number? = some high ∧
        record ∈ document ∧ record.isWithin low high = true := by
  unfold Finds
  cases low : least.number? with
  | none =>
      have selected : select document (.years least greatest) = none := by
        rw [select, low]
      rw [selected]
      simp
  | some lowest =>
      cases high : greatest.number? with
      | none =>
          have selected : select document (.years least greatest) = none := by
            rw [select, low, high]
          rw [selected]
          simp
      | some highest =>
          have selected : select document (.years least greatest) =
              Selection.ofDocument? (document.filter (·.isWithin lowest highest)) := by
            rw [select, low, high]
          rw [selected, Selection.finds_ofDocument?, List.mem_filter]
          simp only [Option.some.injEq, exists_and_left, exists_eq_left']

end Query

def Painting.Refers (record : Painting) (key identifier : Text) (value : Json.Value) : Prop :=
  ∃ members, record.fields.find? key = some (.object members) ∧
    Json.Members.find? identifier members = some value

theorem Painting.reference_of_refers {record : Painting} {key identifier : Text}
    {value : Json.Value} (refers : record.Refers key identifier value) :
    record.reference key identifier = value := by
  obtain ⟨members, object, found⟩ := refers
  rw [reference, field, Json.Value.get, object, Option.getD_some]
  dsimp only
  rw [Json.Value.get, found, Option.getD_some]

theorem Json.Value.find?_eq_get {members : Json.Members} {key : Text}
    (given : Json.Value.get members key ≠ .null) :
    members.find? key = some (Json.Value.get members key) := by
  unfold Json.Value.get at given ⊢
  cases found : members.find? key with
  | none =>
      rw [found] at given
      exact absurd rfl given
  | some value => rfl

theorem Json.Value.IsNameable.ne_null {value : Json.Value} (nameable : value.IsNameable) :
    value ≠ .null := by
  rintro rfl
  exact nameable.elim

theorem Painting.refers_of_isNameable {record : Painting} {key identifier : Text}
    (nameable : (record.reference key identifier).IsNameable) :
    record.Refers key identifier (record.reference key identifier) := by
  unfold reference at nameable ⊢
  split at nameable
  · rename_i members shape
    have given : record.field key ≠ .null := by
      rw [shape]
      exact nofun
    refine ⟨members, (Json.Value.find?_eq_get given).trans (congrArg some shape), ?_⟩
    exact Json.Value.find?_eq_get nameable.ne_null
  · exact nameable.elim

theorem Painting.exists_refers {record : Painting} {key identifier : Text} :
    (record.reference key identifier).IsNameable ↔
      ∃ value, record.Refers key identifier value ∧ value.IsNameable := by
  constructor
  · exact fun nameable => ⟨_, refers_of_isNameable nameable, nameable⟩
  · rintro ⟨value, refers, nameable⟩
    rwa [reference_of_refers refers]

theorem Json.Value.exists_isNamedBy {value : Json.Value} :
    (∃ parameter, value.isNamedBy parameter = true) ↔ value.IsNameable :=
  ⟨fun ⟨_, named⟩ => isNameable_of_isNamedBy named,
    fun nameable => ⟨value.display, isNamedBy_display nameable⟩⟩

/-- Some parameter finds the painting just when the identifier is a number or a text, and then what
the identifier is shown as finds it. -/
def Query.FindsByReference (document : Document) (query : Text → Query) (record : Painting)
    (key identifier : Text) : Prop :=
  ((∃ parameter, Finds document (query parameter) record) ↔
      ∃ value, record.Refers key identifier value ∧ value.IsNameable) ∧
    ∀ value, record.Refers key identifier value → value.IsNameable →
      ∃ shown, value.displayChecked = .ok shown ∧ Finds document (query shown) record

theorem Query.findsByReference {document : Document} {query : Text → Query} {record : Painting}
    {key identifier : Text} (few : document.toValue.HasFewDigits) (within : record ∈ document)
    (finds : ∀ parameter, Finds document (query parameter) record ↔
      record ∈ document ∧ (record.reference key identifier).isNamedBy parameter = true) :
    FindsByReference document query record key identifier := by
  constructor
  · simp only [finds, within, true_and]
    exact Json.Value.exists_isNamedBy.trans Painting.exists_refers
  · intro value refers nameable
    have shown := Json.Value.displayChecked_eq (Painting.reference_hasFewDigits
      (Document.record_hasFewDigits few within) key identifier)
    rw [Painting.reference_of_refers refers] at shown
    refine ⟨value.display, shown, (finds _).mpr ⟨within, ?_⟩⟩
    rw [Painting.reference_of_refers refers]
    exact Json.Value.isNamedBy_display nameable

def Query.FindsFirst (document : Document) (parameter : Text) (index : Nat) : Prop :=
  ∃ found position, select document (.painting parameter) = some (.one found) ∧
    position ≤ index ∧ document[position]? = some found ∧
      found.identifier.isNamedBy parameter = true ∧
        ∀ earlier < position, ∀ other, document[earlier]? = some other →
          other.identifier.isNamedBy parameter = false

theorem Query.findsFirst {document : Document} {record : Painting} {index : Nat}
    {parameter : Text} (place : document[index]? = some record)
    (named : record.identifier.isNamedBy parameter = true) :
    FindsFirst document parameter index := by
  obtain ⟨bound, rfl⟩ := List.getElem?_eq_some_iff.mp place
  cases first : document.find? (·.identifier.isNamedBy parameter) with
  | none =>
      have unnamed := List.find?_eq_none.mp first _ (List.getElem_mem bound)
      exact absurd named unnamed
  | some found =>
      obtain ⟨isNamed, position, within, rfl, before⟩ :=
        List.find?_eq_some_iff_getElem.mp first
      refine ⟨_, position, by rw [select, first]; rfl, ?_, List.getElem?_eq_getElem within,
        isNamed, ?_⟩
      · by_contra later
        have unnamed := before index (Nat.lt_of_not_le later)
        simp [named] at unnamed
      · intro earlier lower other there
        obtain ⟨_, rfl⟩ := List.getElem?_eq_some_iff.mp there
        simpa using before earlier lower

theorem FiniteDouble.atMost_self (number : FiniteDouble) : number.atMost number = true :=
  decide_eq_true le_rfl

theorem Query.finds_own_year {document : Document} {record : Painting}
    (within : record ∈ document) :
    Finds document (.years record.year.display record.year.display) record ↔
      record.year.number?.isSome = true := by
  rw [finds_years]
  constructor
  · rintro ⟨low, high, _, _, _, inside⟩
    unfold Painting.isWithin at inside
    cases year : record.year.number? with
    | none =>
        simp [year] at inside
    | some number => rfl
  · intro isNumber
    obtain ⟨number, year⟩ := Option.isSome_iff_exists.mp isNumber
    have shown : record.year.display.number? = some number := by
      rw [Json.Value.number?_display_of_nameable (Json.Value.isNameable_of_number? year), year]
    refine ⟨number, number, shown, shown, within, ?_⟩
    rw [Painting.isWithin, year]
    simp [FiniteDouble.atMost_self]

/-- Every painting of a document that was read is found by what its identifiers and its year are
shown as, and no query has too many digits to show. -/
theorem Query.finds_by_display {bytes : Bytes} {document : Document}
    (done : Document.ofBytes bytes = .ok document) :
    (∀ index record, document[index]? = some record →
      FindsByReference document .gallery record "gallery" "galleryID" ∧
      FindsByReference document .artist record "artist" "artistID" ∧
      (∀ value, record.fields.find? "paintingID" = some value → value.IsNameable →
        ∃ shown, value.displayChecked = .ok shown ∧ FindsFirst document shown index) ∧
      (Finds document (.years record.year.display record.year.display) record ↔
        record.year.number?.isSome = true)) ∧
    ∀ query, selectChecked document query = .ok (select document query) := by
  obtain ⟨inner, derives⟩ := Document.derives_of_ofBytes done
  have few := derives.derives.hasFewDigits
  refine ⟨fun index record place => ?_, selectChecked_eq few⟩
  have within : record ∈ document := List.mem_of_getElem? place
  refine ⟨findsByReference few within fun _ => finds_gallery,
    findsByReference few within fun _ => finds_artist, ?_, finds_own_year within⟩
  intro value found nameable
  have identifier : record.identifier = value := by
    rw [Painting.identifier, Painting.field, Json.Value.get, found, Option.getD_some]
  have shown := Json.Value.displayChecked_eq
    ((Document.record_hasFewDigits few within).get "paintingID")
  rw [Json.Value.get, found, Option.getD_some] at shown
  refine ⟨value.display, shown, findsFirst place ?_⟩
  rw [identifier]
  exact Json.Value.isNamedBy_display nameable

theorem Query.finds_by_display_seven :
    ∃ shown, (Json.Value.integer 7).displayChecked = .ok shown ∧
      FindsFirst [⟨[("paintingID", .integer 7)]⟩] shown 0 := by
  have done : Document.ofBytes [0x5B, 0x7B, 0x22, 0x70, 0x61, 0x69, 0x6E, 0x74, 0x69, 0x6E, 0x67,
      0x49, 0x44, 0x22, 0x3A, 0x37, 0x7D, 0x5D] = .ok [⟨[("paintingID", .integer 7)]⟩] := by rfl
  obtain ⟨_, _, painting, _⟩ := (finds_by_display done).1 0 _ rfl
  exact painting (.integer 7) rfl trivial

end Catalogue
