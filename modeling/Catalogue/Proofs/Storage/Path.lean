import Mathlib
import Catalogue.Proofs.Server.Route
import Catalogue.Proofs.Text.Utf8
import Catalogue.Settings

/-!
Normal forms of paths. A spelling is a row of pieces with a slash between every two, of which the
empty ones and the single dots count for nothing. A path that is written out is read as itself, and
a relative spelling leads where walking from the base name by name leads.
-/

namespace Catalogue

namespace Text

theorem splitOn_intercalate {pieces : List Text} (nonempty : pieces ≠ [])
    (apart : ∀ piece ∈ pieces, CodePoint.ofChar '/' ∉ piece) :
    splitOn '/' (List.intercalate slash pieces) = pieces := by
  induction pieces with
  | nil => exact absurd rfl nonempty
  | cons piece pieces ih =>
      obtain ⟨here, later⟩ := List.forall_mem_cons.mp apart
      cases pieces with
      | nil =>
          rw [List.intercalate_singleton]
          exact splitOn_of_not_mem here
      | cons next others =>
          rw [List.intercalate_cons_cons, List.append_assoc, splitOn_slash here,
            ih (by simp) later]

theorem intercalate_splitOn (text : Text) : List.intercalate slash (splitOn '/' text) = text := by
  generalize split : splitOn '/' text = pieces
  induction pieces generalizing text with
  | nil => exact absurd split (splitOn_ne_nil _ text)
  | cons piece pieces ih =>
      cases pieces with
      | nil =>
          obtain ⟨rfl, _⟩ := of_splitOn_single split
          rw [List.intercalate_singleton]
      | cons next others =>
          obtain ⟨rest, rfl, _, later⟩ := of_splitOn_more split
          rw [List.intercalate_cons_cons, ih rest later, List.append_assoc]

theorem of_mem_splitOn {text piece : Text} (member : piece ∈ splitOn '/' text) :
    CodePoint.ofChar '/' ∉ piece ∧ piece ⊆ text := by
  generalize split : splitOn '/' text = pieces at member
  induction pieces generalizing text with
  | nil => simp at member
  | cons first pieces ih =>
      obtain ⟨apart, ⟨rfl, rfl⟩ | ⟨rest, rfl, later⟩⟩ := of_splitOn split
      · obtain rfl := List.mem_singleton.mp member
        exact ⟨apart, List.Subset.refl _⟩
      · rcases List.mem_cons.mp member with rfl | inside
        · exact ⟨apart, List.subset_append_left _ _⟩
        · obtain ⟨apart, within⟩ := ih later inside
          refine ⟨apart, fun code found => ?_⟩
          simp [within found]

structure IsStorable (text : Text) : Prop where
  plain : text.HasNoSurrogates
  notNull : ∀ code ∈ text, code.val ≠ 0

theorem IsStorable.refusal? {text part : Text} (storable : text.IsStorable)
    (within : part ⊆ text) : part.refusal? = none := by
  have encodable : (part.any fun code => code.isSurrogate && code.keptByte?.isNone) = false := by
    simp only [List.any_eq_false, Bool.and_eq_true, not_and]
    intro code member surrogate
    simp [storable.plain code (within member)] at surrogate
  have notNull : (part.any (·.val = 0)) = false := by
    simp only [List.any_eq_false, decide_eq_true_eq]
    exact fun code member => storable.notNull code (within member)
  simp [Text.refusal?, encodable, notNull]

end Text

namespace Path

structure IsName (name : Text) : Prop where
  nonempty : name ≠ []
  notCurrent : name ≠ currentName
  apart : CodePoint.ofChar '/' ∉ name

structure IsEntryName (name : Text) : Prop extends IsName name where
  notParent : name ≠ parentName

/-- The names that a spelling goes through: the pieces between its slashes, without the empty ones
and the single dots. -/
def Spells (spelling : Text) (names : List Text) : Prop :=
  ∃ pieces : List Text, (∀ piece ∈ pieces, CodePoint.ofChar '/' ∉ piece) ∧
    spelling = List.intercalate slash pieces ∧
    names = pieces.filter fun piece => piece ≠ [] ∧ piece ≠ currentName

variable {spelling : Text} {names : List Text}

theorem spells_iff : Spells spelling names ↔ namesOf spelling = names := by
  constructor
  · rintro ⟨pieces, apart, rfl, rfl⟩
    by_cases empty : pieces = []
    · rw [empty]
      rfl
    · rw [namesOf, Text.splitOn_intercalate empty apart]
  · rintro rfl
    exact ⟨_, fun piece member => (Text.of_mem_splitOn member).1,
      (Text.intercalate_splitOn spelling).symm, rfl⟩

theorem of_mem_namesOf {name : Text} (member : name ∈ namesOf spelling) :
    IsName name ∧ name ⊆ spelling := by
  simp only [namesOf, List.mem_filter, decide_eq_true_eq] at member
  obtain ⟨piece, nonempty, notCurrent⟩ := member
  obtain ⟨apart, within⟩ := Text.of_mem_splitOn piece
  exact ⟨⟨nonempty, notCurrent, apart⟩, within⟩

def leadingSlashes (spelling : Text) : Nat :=
  (spelling.takeWhile (· = CodePoint.ofChar '/')).length

theorem rootOf_eq (spelling : Text) : rootOf spelling =
    if spelling.head? = some (CodePoint.ofChar '/') then
      if leadingSlashes spelling = 2 then .doubleSlash else .slash
    else .none := by
  match spelling with
  | [] => rfl
  | [first] =>
      by_cases start : first = CodePoint.ofChar '/' <;> simp [rootOf, leadingSlashes, start]
  | [first, second] =>
      by_cases start : first = CodePoint.ofChar '/'
      · by_cases next : second = CodePoint.ofChar '/' <;>
          simp [rootOf, leadingSlashes, start, next]
      · simp [rootOf, start]
  | first :: second :: third :: rest =>
      by_cases start : first = CodePoint.ofChar '/'
      · by_cases next : second = CodePoint.ofChar '/'
        · by_cases last : third = CodePoint.ofChar '/' <;>
            simp [rootOf, leadingSlashes, start, next, last]
        · simp [rootOf, leadingSlashes, start, next]
      · simp [rootOf, start]

theorem isAbsolute_ofText : (ofText spelling).isAbsolute = true ↔
    spelling.head? = some (CodePoint.ofChar '/') := by
  rw [ofText, isAbsolute, rootOf_eq]
  split_ifs <;> simp_all

theorem leadingSlashes_cons (rest : Text) :
    leadingSlashes (CodePoint.ofChar '/' :: rest) = leadingSlashes rest + 1 := by
  simp [leadingSlashes]

theorem leadingSlashes_eq_zero {rest : Text} (head : rest.head? ≠ some (CodePoint.ofChar '/')) :
    leadingSlashes rest = 0 := by
  cases rest with
  | nil => rfl
  | cons code rest =>
      have different : code ≠ CodePoint.ofChar '/' := fun same => head (by simp [same])
      simp [leadingSlashes, different]

theorem head_intercalate (each : ∀ name ∈ names, IsName name) :
    (List.intercalate slash names).head? ≠ some (CodePoint.ofChar '/') := by
  cases names with
  | nil => exact nofun
  | cons name others =>
      obtain ⟨nonempty, _, apart⟩ := each name List.mem_cons_self
      cases name with
      | nil => exact absurd rfl nonempty
      | cons code name =>
          have different : code ≠ CodePoint.ofChar '/' := fun same => apart (by simp [same])
          cases others <;> simp [List.intercalate_cons_cons, different]

theorem namesOf_cons (spelling : Text) :
    namesOf (CodePoint.ofChar '/' :: spelling) = namesOf spelling := by
  rw [namesOf, Text.splitOn_separator, List.filter_cons_of_neg (by simp), namesOf]

theorem namesOf_intercalate (each : ∀ name ∈ names, IsName name) :
    namesOf (List.intercalate slash names) = names := by
  refine spells_iff.mp ⟨names, fun name member => (each name member).apart, rfl, ?_⟩
  refine (List.filter_eq_self.mpr fun name member => ?_).symm
  simp [(each name member).nonempty, (each name member).notCurrent]

theorem ofText_toText {path : Path} (absolute : path.isAbsolute = true)
    (each : ∀ name ∈ path.names, IsName name) : ofText path.toText = path := by
  obtain ⟨root, names⟩ := path
  have zero := leadingSlashes_eq_zero (head_intercalate each)
  have read := namesOf_intercalate each
  cases root with
  | none => exact absurd absolute nofun
  | slash =>
      have text : toText ⟨.slash, names⟩ =
          CodePoint.ofChar '/' :: List.intercalate slash names := rfl
      rw [text, ofText, rootOf_eq, leadingSlashes_cons, namesOf_cons, zero, read]
      rfl
  | doubleSlash =>
      have text : toText ⟨.doubleSlash, names⟩ = CodePoint.ofChar '/' :: CodePoint.ofChar '/' ::
          List.intercalate slash names := rfl
      rw [text, ofText, rootOf_eq, leadingSlashes_cons, leadingSlashes_cons, namesOf_cons,
        namesOf_cons, zero, read]
      rfl

/-! Walking -/

def enter (place : List Text) (name : Text) : List Text :=
  if name = parentName then place.dropLast else place ++ [name]

theorem follow_eq (place names : List Text) :
    follow place.reverse names = names.foldl enter place := by
  induction names generalizing place with
  | nil => simp [follow]
  | cons name names ih =>
      rw [follow, List.foldl_cons, enter]
      split_ifs
      · rw [List.tail_reverse, ih]
      · rw [← ih, List.reverse_append, List.reverse_singleton, List.singleton_append]

theorem isEntryName_enter {place : List Text} {name : Text}
    (each : ∀ entry ∈ place, IsEntryName entry) (isName : IsName name) :
    ∀ entry ∈ enter place name, IsEntryName entry := by
  intro entry member
  rw [enter] at member
  split_ifs at member with parent
  · exact each entry (List.mem_of_mem_dropLast member)
  · rcases List.mem_append.mp member with earlier | last
    · exact each entry earlier
    · obtain rfl := List.mem_singleton.mp last
      exact ⟨isName, parent⟩

theorem isEntryName_foldl {place : List Text} (each : ∀ entry ∈ place, IsEntryName entry)
    (areNames : ∀ name ∈ names, IsName name) :
    ∀ entry ∈ names.foldl enter place, IsEntryName entry := by
  induction names generalizing place with
  | nil => exact each
  | cons name names ih =>
      obtain ⟨here, later⟩ := List.forall_mem_cons.mp areNames
      exact ih (isEntryName_enter each here) later

variable {base : List Text}

theorem resolve_of_absolute (absolute : spelling.head? = some (CodePoint.ofChar '/')) :
    resolve base spelling = .ok (ofText spelling) := by
  rw [resolve]
  exact if_pos (isAbsolute_ofText.mpr absolute)

theorem resolve_of_relative (relative : spelling.head? ≠ some (CodePoint.ofChar '/'))
    (storable : spelling.IsStorable) (spells : Spells spelling names) :
    resolve base spelling = .ok ⟨.slash, names.foldl enter base⟩ := by
  have unrefused : (namesOf spelling).findSome? Text.refusal? = none := by
    rw [List.findSome?_eq_none_iff]
    exact fun name member => storable.refusal? (of_mem_namesOf member).2
  have walked : follow base.reverse (namesOf spelling) = names.foldl enter base := by
    rw [follow_eq, spells_iff.mp spells]
  have notAbsolute : ¬ (ofText spelling).isAbsolute = true :=
    fun absolute => relative (isAbsolute_ofText.mp absolute)
  rw [resolve, if_neg notAbsolute, ofText, unrefused, walked]

theorem resolve_toText {path : Path} (absolute : path.isAbsolute = true)
    (each : ∀ name ∈ path.names, IsName name) : resolve base path.toText = .ok path := by
  have read := ofText_toText absolute each
  rw [resolve_of_absolute (isAbsolute_ofText.mp (by rw [read]; exact absolute)), read]

theorem toText_ofText (absolute : spelling.head? = some (CodePoint.ofChar '/')) :
    (ofText spelling).toText = (if leadingSlashes spelling = 2 then slash ++ slash else slash) ++
      List.intercalate slash (ofText spelling).names := by
  rw [ofText, rootOf_eq, if_pos absolute]
  split_ifs <;> rfl

end Path

open Catalogue.Path

/-- The path of the document is absolute and is read as itself once it is written out. A relative
file is where a walk from the base directory leads, with no dots left over, so that two files that
lead to one place have one path. Of an absolute file the names stay as they are, two dots included,
and what else stands between slashes goes; only two slashes in front are kept as two. -/
theorem Settings.dataPath_normal {base : List Text} (isBase : ∀ name ∈ base, IsEntryName name)
    (settings : Settings) (storable : settings.dataFile.IsStorable) :
    ∃ path names, settings.dataPath base = .ok path ∧ Spells settings.dataFile names ∧
      path.isAbsolute = true ∧ path.toText.head? = some (CodePoint.ofChar '/') ∧
      ({ settings with dataFile := path.toText } : Settings).dataPath base = .ok path ∧
      (settings.dataFile.head? ≠ some (CodePoint.ofChar '/') →
        path.names = names.foldl enter base ∧ (∀ name ∈ path.names, IsEntryName name) ∧
        path.toText = slash ++ List.intercalate slash path.names ∧
        leadingSlashes path.toText = 1 ∧
        ∀ (other : Settings) (others : List Text), other.dataFile.IsStorable →
          other.dataFile.head? ≠ some (CodePoint.ofChar '/') → Spells other.dataFile others →
          others.foldl enter base = names.foldl enter base → other.dataPath base = .ok path) ∧
      (settings.dataFile.head? = some (CodePoint.ofChar '/') →
        path.names = names ∧
        path.toText = (if leadingSlashes settings.dataFile = 2 then slash ++ slash else slash) ++
          List.intercalate slash names) := by
  have spells : Spells settings.dataFile (namesOf settings.dataFile) := spells_iff.mpr rfl
  have areNames : ∀ name ∈ namesOf settings.dataFile, IsName name :=
    fun name member => (of_mem_namesOf member).1
  by_cases absolute : settings.dataFile.head? = some (CodePoint.ofChar '/')
  · have isAbsolute := isAbsolute_ofText.mpr absolute
    have text := toText_ofText absolute
    refine ⟨ofText settings.dataFile, _, resolve_of_absolute absolute, spells, isAbsolute, ?_,
      resolve_toText isAbsolute areNames, fun relative => absurd absolute relative,
      fun _ => ⟨rfl, text⟩⟩
    rw [text]
    split_ifs <;> rfl
  · have entries := isEntryName_foldl isBase areNames
    generalize walked : (namesOf settings.dataFile).foldl enter base = place at entries
    have apart : ∀ name ∈ place, IsName name := fun name member => (entries name member).toIsName
    have found : resolve base settings.dataFile = .ok ⟨.slash, place⟩ :=
      walked ▸ resolve_of_relative absolute storable spells
    have again : resolve base (toText ⟨.slash, place⟩) = .ok ⟨.slash, place⟩ :=
      resolve_toText rfl apart
    refine ⟨⟨.slash, place⟩, _, found, spells, rfl, rfl, again,
      fun _ => ⟨walked.symm, entries, rfl, ?_, ?_⟩, fun relative => absurd relative absolute⟩
    · have one := leadingSlashes_cons (List.intercalate slash place)
      rwa [leadingSlashes_eq_zero (head_intercalate apart)] at one
    · intro other others storable relative spells same
      rw [← walked, ← same]
      exact resolve_of_relative relative storable spells

theorem Settings.dataPath_normal_root :
    ∃ path, ({ dataFile := "..//../../.../x/./../b/" } : Settings).dataPath ["srv", "gallery"] =
        .ok path ∧ path.toText = Text.ofString "/.../b" ∧
      ({ dataFile := path.toText } : Settings).dataPath ["srv", "gallery"] = .ok path ∧
      ({ dataFile := "../../.../b" } : Settings).dataPath ["srv", "gallery"] = .ok path := by
  have isBase : ∀ name ∈ ([Text.ofString "srv", Text.ofString "gallery"] : List Text),
      IsEntryName name := by
    intro name member
    simp only [List.mem_cons, List.not_mem_nil, or_false] at member
    rcases member with rfl | rfl <;>
      exact ⟨⟨by decide, by decide, by decide⟩, by decide⟩
  have storable (string : String)
      (notNull : ∀ code ∈ Text.ofString string, code.val ≠ 0) : (Text.ofString string).IsStorable :=
    ⟨Text.hasNoSurrogates_ofString string, notNull⟩
  obtain ⟨path, names, found, spells, _, _, again, relative, _⟩ := Settings.dataPath_normal isBase
    { dataFile := "..//../../.../x/./../b/" } (storable _ (by decide))
  obtain ⟨walked, _, text, _, same⟩ := relative (by decide)
  rw [← spells_iff.mp spells] at walked same
  refine ⟨path, found, ?_, again, ?_⟩
  · rw [text, walked]
    decide
  · exact same { dataFile := "../../.../b" } _ (storable _ (by decide)) (by decide)
      (spells_iff.mpr rfl) (by decide)

end Catalogue
