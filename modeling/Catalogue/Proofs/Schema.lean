import Mathlib
import Catalogue.Proofs.Json.Surrogates
import Catalogue.Proofs.Query
import Catalogue.Schema

/-!
What schemas accept and what they make of it. A record that keeps its other members is read just
when every field can be read, and what it is read as has every member that was given; a field that
was left out is null. A painting comes back with nothing lost and nothing turned into something
else.
-/

namespace Catalogue

namespace Json.Members

theorem find?_append (key : Text) (left right : Members) :
    find? key (left ++ right) = (find? key left).or (find? key right) := by
  induction left with
  | nil => simp [find?]
  | cons member left ih =>
      obtain ⟨name, value⟩ := member
      by_cases same : name = key <;> simp [find?, same, ih]

theorem find?_filter (keep : Text → Bool) (key : Text) (members : Members) :
    find? key (members.filter fun member => keep member.1) =
      if keep key then find? key members else none := by
  induction members with
  | nil => simp [find?]
  | cons member members ih =>
      obtain ⟨name, value⟩ := member
      by_cases same : name = key
      · subst same
        by_cases kept : keep name <;> simp [find?, kept, ih]
      · by_cases kept : keep name <;> simp [find?, kept, same, ih]

end Json.Members

variable {members named completed : Json.Members} {fields : List (Field Shape)} {name : String}
  {dumped : Json.Value}

def ReadsField (members : Json.Members) (field : Field Shape) (value : Json.Value) : Prop :=
  (∃ given, members.find? field.key = some given ∧ field.shape.read given = .ok value) ∨
    members.find? field.key = none ∧ field.isRequired = false ∧ value = .null

def ReadsMember (members : Json.Members) (field : Field Shape) (member : Text × Json.Value) :
    Prop :=
  member.1 = field.key ∧ ReadsField members field member.2

theorem withMember_eq_ok {key : Text} {value : Checked Json.Value}
    {others : Checked Json.Members} : withMember key value others = .ok named ↔
      ∃ first rest, value = .ok first ∧ others = .ok rest ∧ named = (key, first) :: rest := by
  cases value <;> cases others <;> simp [withMember, eq_comm]

theorem readsField_iff {field : Field Shape} {value : Json.Value} :
    (match members.find? field.key with
      | some given => field.shape.read given
      | none => if field.isRequired then faulty .missing else .ok .null) = .ok value ↔
        ReadsField members field value := by
  unfold ReadsField
  cases members.find? field.key with
  | some given => simp
  | none => cases field.isRequired <;> simp [faulty, eq_comm]

theorem readFields_eq_ok :
    readFields members fields = .ok named ↔ List.Forall₂ (ReadsMember members) fields named := by
  induction fields generalizing named with
  | nil => simp [readFields, eq_comm]
  | cons field fields ih =>
      rw [readFields, withMember_eq_ok, List.forall₂_cons_left_iff]
      constructor
      · rintro ⟨value, others, here, later, rfl⟩
        exact ⟨_, others, ⟨rfl, readsField_iff.mp here⟩, ih.mp later, rfl⟩
      · rintro ⟨⟨key, value⟩, others, ⟨rfl, here⟩, later, rfl⟩
        exact ⟨value, others, readsField_iff.mpr here, ih.mpr later, rfl⟩

theorem read_record_eq_ok (undamaged : hasDamagedKey members = false) :
    (Shape.record name true fields).read (.object members) = .ok dumped ↔
      ∃ named, List.Forall₂ (ReadsMember members) fields named ∧
        dumped = .object (named ++ otherMembers fields members) := by
  rw [Shape.read]
  simp only [undamaged, Bool.and_false, Bool.false_eq_true, ↓reduceIte]
  cases result : readFields members fields with
  | ok found =>
      constructor
      · intro done
        exact ⟨found, readFields_eq_ok.mp result, (Except.ok.inj done).symm⟩
      · rintro ⟨named, reads, rfl⟩
        obtain rfl := Except.ok.inj (result.symm.trans (readFields_eq_ok.mpr reads))
        rfl
  | error complaints =>
      refine iff_of_false nofun ?_
      rintro ⟨named, reads, _⟩
      exact absurd (result.symm.trans (readFields_eq_ok.mpr reads)) nofun

theorem read_record_of_not_object {keepsOthers : Bool} {value : Json.Value}
    (done : (Shape.record name keepsOthers fields).read value = .ok dumped) :
    ∃ members, value = .object members := by
  cases value with
  | object members => exact ⟨members, rfl⟩
  | _ => simp [Shape.read, faulty] at done

theorem exists_forall₂_readsMember :
    (∃ named, List.Forall₂ (ReadsMember members) fields named) ↔
      ∀ field ∈ fields, ∃ value, ReadsField members field value := by
  induction fields with
  | nil => simp
  | cons field fields ih =>
      rw [List.forall_mem_cons, ← ih]
      constructor
      · rintro ⟨_, _ | ⟨⟨_, here⟩, later⟩⟩
        exact ⟨⟨_, here⟩, _, later⟩
      · rintro ⟨⟨value, here⟩, named, later⟩
        exact ⟨(field.key, value) :: named, .cons ⟨rfl, here⟩ later⟩

theorem exists_read_record (undamaged : hasDamagedKey members = false) :
    (∃ dumped, (Shape.record name true fields).read (.object members) = .ok dumped) ↔
      ∀ field ∈ fields, ∃ value, ReadsField members field value := by
  rw [← exists_forall₂_readsMember]
  constructor
  · rintro ⟨dumped, done⟩
    obtain ⟨named, reads, _⟩ := (read_record_eq_ok undamaged).mp done
    exact ⟨named, reads⟩
  · rintro ⟨named, reads⟩
    exact ⟨_, (read_record_eq_ok undamaged).mpr ⟨named, reads, rfl⟩⟩

theorem keys_of_readsMembers (reads : List.Forall₂ (ReadsMember members) fields named) :
    named.map Prod.fst = fields.map Field.key := by
  induction reads with
  | nil => rfl
  | cons here _ ih => rw [List.map_cons, List.map_cons, here.1, ih]

theorem find?_of_readsMembers (reads : List.Forall₂ (ReadsMember members) fields named)
    (distinct : (fields.map Field.key).Nodup) {field : Field Shape} (member : field ∈ fields) :
    ∃ value, named.find? field.key = some value ∧ ReadsField members field value := by
  induction reads with
  | nil => simp at member
  | @cons first entry others rest here _ ih =>
      obtain ⟨key, value⟩ := entry
      obtain ⟨rfl, reads⟩ := here
      obtain ⟨new, distinct⟩ := List.nodup_cons.mp distinct
      rcases List.mem_cons.mp member with rfl | later
      · exact ⟨value, by simp [Json.Members.find?], reads⟩
      · have different : first.key ≠ field.key := by
          intro same
          exact new (same ▸ List.mem_map_of_mem later)
        simpa [Json.Members.find?, different] using ih distinct later

/-- What the members of an object become: those that a field names are read by it, the others are
kept as they are. -/
structure IsReadBy (fields : List (Field Shape)) (members completed : Json.Members) : Prop where
  named : ∀ field ∈ fields, ∃ value, completed.find? field.key = some value ∧
    ReadsField members field value
  others : ∀ key, (∀ field ∈ fields, field.key ≠ key) → completed.find? key = members.find? key
  distinct : (members.map Prod.fst).Nodup → (completed.map Prod.fst).Nodup

theorem find?_otherMembers (fields : List (Field Shape)) (key : Text) (members : Json.Members) :
    Json.Members.find? key (otherMembers fields members) =
      if fields.all (·.key ≠ key) then members.find? key else none :=
  Json.Members.find?_filter (fun key => fields.all (·.key ≠ key)) key members

theorem find?_eq_none {key : Text} (absent : key ∉ members.map Prod.fst) :
    members.find? key = none := by
  induction members with
  | nil => rfl
  | cons member members ih =>
      obtain ⟨name, value⟩ := member
      simp only [List.map_cons, List.mem_cons, not_or] at absent
      simp [Json.Members.find?, Ne.symm absent.1, ih absent.2]

theorem isReadBy_append (distinct : (fields.map Field.key).Nodup)
    (reads : List.Forall₂ (ReadsMember members) fields named) :
    IsReadBy fields members (named ++ otherMembers fields members) := by
  have keys := keys_of_readsMembers reads
  constructor
  · intro field member
    obtain ⟨value, found, reads⟩ := find?_of_readsMembers reads distinct member
    exact ⟨value, by simp [Json.Members.find?_append, found], reads⟩
  · intro key other
    have unnamed : named.find? key = none := by
      apply find?_eq_none
      rw [keys]
      simpa using other
    have kept : fields.all (·.key ≠ key) = true := by simpa using other
    rw [Json.Members.find?_append, unnamed, Option.none_or, find?_otherMembers, if_pos kept]
  · intro unique
    rw [List.map_append, keys, List.nodup_append]
    refine ⟨distinct, unique.sublist (List.filter_sublist.map _), ?_⟩
    intro key member other inside same
    obtain ⟨field, within, rfl⟩ := List.mem_map.mp member
    obtain ⟨entry, kept, rfl⟩ := List.mem_map.mp inside
    have apart := (List.mem_filter.mp kept).2
    simp only [List.all_eq_true, decide_eq_true_eq] at apart
    exact apart field within same

theorem of_read_record (undamaged : hasDamagedKey members = false)
    (distinct : (fields.map Field.key).Nodup)
    (done : (Shape.record name true fields).read (.object members) = .ok dumped) :
    ∃ completed, dumped = .object completed ∧ IsReadBy fields members completed := by
  obtain ⟨named, reads, rfl⟩ := (read_record_eq_ok undamaged).mp done
  exact ⟨_, rfl, isReadBy_append distinct reads⟩

namespace Schema

def HasKey (members : Json.Members) (key : Text) : Prop := ∃ given, members.find? key = some given

def HasTextOrNull (members : Json.Members) (key : Text) : Prop :=
  ∀ given, members.find? key = some given → given = .null ∨ ∃ text, given = .string text

structure IsFilled (optional : Text) (members filled : Json.Members) : Prop where
  find? : ∀ key, filled.find? key =
    if key = optional then some (Json.Value.get members optional) else members.find? key
  distinct : (members.map Prod.fst).Nodup → (filled.map Prod.fst).Nodup

theorem readsField_anything {key : String} {value : Json.Value} :
    ReadsField members (required key .anything) value ↔ members.find? key = some value := by
  simp [ReadsField, required, Shape.read]

theorem read_textOrNull {given value : Json.Value} : Shape.textOrNull.read given = .ok value ↔
    value = given ∧ (given = .null ∨ ∃ text, given = .string text) := by
  cases given <;> simp [Shape.read, faulty, eq_comm]

theorem readsField_optionalText {key : String} {value : Json.Value} :
    ReadsField members (optionalText key) value ↔
      value = Json.Value.get members key ∧ HasTextOrNull members key := by
  simp only [ReadsField, optionalText, read_textOrNull, Json.Value.get, HasTextOrNull]
  cases members.find? key with
  | none => simp
  | some given =>
      simp only [↓existsAndEq, Option.some.injEq, true_and, reduceCtorEq, false_and, or_false,
        Option.getD_some, forall_eq']
      constructor <;> rintro ⟨rfl, kind⟩ <;> exact ⟨rfl, kind⟩

theorem readsField_required {key : String} {shape : Shape} {value : Json.Value} :
    ReadsField members (required key shape) value ↔
      ∃ given, members.find? key = some given ∧ shape.read given = .ok value := by
  simp [ReadsField, required]

def reference (name identifier optional : String) : Shape :=
  .record name true [required identifier .anything, optionalText optional]

theorem gallery_eq : gallery = reference "GalleryRef" "galleryID" "galleryName" := rfl

theorem artist_eq : artist = reference "ArtistRef" "artistID" "lastName" := rfl

section

variable {identifier optional : String} {given : Json.Members}
  (undamaged : hasDamagedKey given = false)

include undamaged

theorem exists_read_reference :
    (∃ dumped, (reference name identifier optional).read (.object given) = .ok dumped) ↔
      HasKey given identifier ∧ HasTextOrNull given optional := by
  rw [reference, exists_read_record undamaged]
  simp [readsField_anything, readsField_optionalText, HasKey]

theorem of_read_reference (apart : Text.ofString identifier ≠ Text.ofString optional)
    (done : (reference name identifier optional).read (.object given) = .ok dumped) :
    ∃ filled, dumped = .object filled ∧ IsFilled optional given filled := by
  obtain ⟨filled, rfl, named, others, distinct⟩ :=
    of_read_record undamaged (by simp [required, optionalText, apart]) done
  refine ⟨filled, rfl, fun key => ?_, distinct⟩
  obtain ⟨value, found, reads⟩ := named (required identifier .anything) (by simp)
  obtain ⟨text, foundText, readsText⟩ := named (optionalText optional) (by simp)
  rw [readsField_anything] at reads
  rw [readsField_optionalText] at readsText
  by_cases isOptional : key = optional
  · rw [if_pos isOptional, isOptional, ← readsText.1]
    exact foundText
  · rw [if_neg isOptional]
    by_cases isIdentifier : key = identifier
    · rw [isIdentifier, reads]
      exact found
    · exact others key (by simp [required, optionalText, Ne.symm isOptional, Ne.symm isIdentifier])

end

/-! Paintings -/

def HasReference (members : Json.Members) (key identifier optional : Text) : Prop :=
  ∃ given, members.find? key = some (.object given) ∧ HasKey given identifier ∧
    HasTextOrNull given optional

structure IsPainting (members : Json.Members) : Prop where
  identifier : HasKey members "paintingID"
  title : HasTextOrNull members "title"
  year : HasKey members "yearOfWork"
  gallery : HasReference members "gallery" "galleryID" "galleryName"
  artist : HasReference members "artist" "artistID" "lastName"

def FillsReference (members completed : Json.Members) (key optional : Text) : Prop :=
  ∃ given filled, members.find? key = some (.object given) ∧
    completed.find? key = some (.object filled) ∧ IsFilled optional given filled

/-- A painting with all that was given, and null where one of its names was left out. -/
structure Completes (members completed : Json.Members) : Prop where
  gallery : FillsReference members completed "gallery" "galleryName"
  artist : FillsReference members completed "artist" "lastName"
  others : ∀ key, key ≠ Text.ofString "gallery" → key ≠ Text.ofString "artist" →
    completed.find? key =
      if key = Text.ofString "title" then some (Json.Value.get members "title")
      else members.find? key
  distinct : (members.map Prod.fst).Nodup → (completed.map Prod.fst).Nodup

theorem hasDamagedKey_eq_false (plain : (Json.Value.object members).HasNoSurrogates) :
    hasDamagedKey members = false := by
  rw [hasDamagedKey, List.any_eq_false]
  intro member inside
  rw [Text.any_isSurrogate_iff.mpr (plain.2 members (Json.Value.Part.self _) member inside)]
  simp

section

variable (plain : (Json.Value.object members).HasNoSurrogates) {key identifier optional : String}

include plain

theorem undamaged_of_find? {given : Json.Members} {key : Text}
    (found : members.find? key = some (.object given)) : hasDamagedKey given = false :=
  hasDamagedKey_eq_false (plain.of_part
    (Json.Value.Part.member (Json.Members.mem_of_find? found) (Json.Value.Part.self _)))

theorem exists_readsReference :
    (∃ value, ReadsField members (required key (reference name identifier optional)) value) ↔
      HasReference members key identifier optional := by
  constructor
  · rintro ⟨value, reads⟩
    obtain ⟨given, found, done⟩ := readsField_required.mp reads
    obtain ⟨given, rfl⟩ := read_record_of_not_object done
    exact ⟨given, found, (exists_read_reference (undamaged_of_find? plain found)).mp ⟨_, done⟩⟩
  · rintro ⟨given, found, holds⟩
    obtain ⟨dumped, done⟩ := (exists_read_reference (undamaged_of_find? plain found)).mpr holds
    exact ⟨dumped, readsField_required.mpr ⟨_, found, done⟩⟩

theorem fillsReference (apart : Text.ofString identifier ≠ Text.ofString optional)
    {value : Json.Value} (found : completed.find? key = some value)
    (reads : ReadsField members (required key (reference name identifier optional)) value) :
    FillsReference members completed key optional := by
  obtain ⟨given, foundGiven, done⟩ := readsField_required.mp reads
  obtain ⟨given, rfl⟩ := read_record_of_not_object done
  obtain ⟨filled, rfl, isFilled⟩ :=
    of_read_reference (undamaged_of_find? plain foundGiven) apart done
  exact ⟨given, filled, foundGiven, found, isFilled⟩

theorem exists_read_painting :
    (∃ dumped, painting.read (.object members) = .ok dumped) ↔ IsPainting members := by
  rw [painting, gallery_eq, artist_eq, exists_read_record (hasDamagedKey_eq_false plain)]
  simp only [List.forall_mem_cons, List.not_mem_nil, false_imp_iff, implies_true, and_true,
    exists_readsReference plain, readsField_anything, readsField_optionalText]
  constructor
  · rintro ⟨identifier, ⟨_, _, title⟩, year, gallery, artist⟩
    exact ⟨identifier, title, year, gallery, artist⟩
  · rintro ⟨identifier, title, year, gallery, artist⟩
    exact ⟨identifier, ⟨_, rfl, title⟩, year, gallery, artist⟩

theorem of_read_painting (done : painting.read (.object members) = .ok dumped) :
    ∃ completed, dumped = .object completed ∧ Completes members completed := by
  rw [painting, gallery_eq, artist_eq] at done
  obtain ⟨completed, rfl, named, others, distinct⟩ :=
    of_read_record (hasDamagedKey_eq_false plain) (by decide) done
  simp only [List.forall_mem_cons, List.not_mem_nil, false_imp_iff, implies_true, and_true,
    readsField_anything, readsField_optionalText] at named
  obtain ⟨⟨_, identifier, same⟩, ⟨_, title, rfl, _⟩, ⟨_, year, sameYear⟩, ⟨_, gallery, isGallery⟩,
    _, artist, isArtist⟩ := named
  refine ⟨completed, rfl, fillsReference plain (by decide) gallery isGallery,
    fillsReference plain (by decide) artist isArtist, fun key notGallery notArtist => ?_, distinct⟩
  by_cases isTitle : key = Text.ofString "title"
  · rw [if_pos isTitle, isTitle]
    exact title
  · rw [if_neg isTitle]
    by_cases isIdentifier : key = Text.ofString "paintingID"
    · rw [isIdentifier, same]
      exact identifier
    · by_cases isYear : key = Text.ofString "yearOfWork"
      · rw [isYear, sameYear]
        exact year
      · refine others key ?_
        simp only [List.forall_mem_cons, List.not_mem_nil, false_imp_iff, implies_true, and_true]
        exact ⟨Ne.symm isIdentifier, Ne.symm isTitle, Ne.symm isYear, Ne.symm notGallery,
          Ne.symm notArtist⟩

end

/-- An object is a painting just when its identifiers and its year are there, with any values, and
its names are texts where they are given. Nothing of it is lost or changed by reading it: its
references are filled in as objects, and every other member comes back as it was. -/
theorem painting_lossless (members : Json.Members)
    (plain : (Json.Value.object members).HasNoSurrogates) :
    ((∃ dumped, painting.read (.object members) = .ok dumped) ↔ IsPainting members) ∧
      ∀ dumped, painting.read (.object members) = .ok dumped →
        ∃ completed, dumped = .object completed ∧ Completes members completed :=
  ⟨exists_read_painting plain, fun _ done => of_read_painting plain done⟩

theorem painting_lossless_untitled :
    let gallery : Json.Members := [("galleryName", .null), ("city", .string "Delft"),
      ("galleryID", .boolean true)]
    let members : Json.Members := [("fields", .array [.integer 1]), ("gallery", .object gallery),
      ("artist", .object [("artistID", .null)]), ("yearOfWork", .string "1665"),
      ("paintingID", .integer 441)]
    ∃ completed : Json.Members, painting.read (.object members) = .ok (.object completed) ∧
      completed.find? "title" = some .null ∧
      completed.find? "fields" = some (.array [.integer 1]) ∧
      FillsReference members completed "gallery" "galleryName" := by
  intro gallery members
  have written : ((Json.Value.object members).write Json.Style.compact).HasNoSurrogates :=
    Text.any_isSurrogate_iff.mp (by decide +kernel)
  have plain : (Json.Value.object members).HasNoSurrogates :=
    ((Json.Value.object members).writesSurrogates rfl 0 written).1
  have isPainting : IsPainting members :=
    { identifier := ⟨_, rfl⟩
      title := nofun
      year := ⟨_, rfl⟩
      gallery := ⟨gallery, rfl, ⟨_, rfl⟩, fun _ given => Or.inl (Option.some.inj given).symm⟩
      artist := ⟨_, rfl, ⟨_, rfl⟩, nofun⟩ }
  obtain ⟨accepted, lossless⟩ := painting_lossless members plain
  obtain ⟨dumped, done⟩ := accepted.mpr isPainting
  obtain ⟨completed, rfl, completes⟩ := lossless dumped done
  exact ⟨completed, done, completes.others _ (by decide) (by decide),
    completes.others _ (by decide) (by decide), completes.gallery⟩

end Schema

end Catalogue
