import Mathlib
import Catalogue.Proofs.Server.Route
import Catalogue.Server.Operation

/-!
Patterns of paths, as the published operations give them. A pattern is filled piece by piece from
the front. A parameter goes on to the next slash, so that there is one way at most to fill a
pattern with a path.
-/

namespace Catalogue

abbrev Pattern := List (Option Text)

def Operation.pattern (operation : Operation) : Pattern :=
  operation.pieces.map fun piece =>
    if operation.parameters.contains piece then none else some (Text.ofString piece)

namespace Pattern

/-- The parameters that a path fills a pattern with. Each is what there is up to the next slash,
and not empty. -/
def fill? : Pattern → Text → Option (List Text)
  | [], rest => if isPathEnd rest then some [] else none
  | some word :: pattern, path => (path.after? (slash ++ word)).bind (fill? pattern)
  | none :: pattern, path =>
    match path.after? slash with
    | none => none
    | some rest =>
      let (parameter, rest) := rest.span (· ≠ CodePoint.ofChar '/')
      if parameter = [] then none else (fill? pattern rest).map (parameter :: ·)

inductive Fills : Pattern → List Text → Text → Prop
  | done {rest : Text} : isPathEnd rest = true → Fills [] [] rest
  | word {word : Text} {pattern : Pattern} {given : List Text} {rest : Text} :
      Fills pattern given rest → Fills (some word :: pattern) given (slash ++ word ++ rest)
  | parameter {parameter : Text} {pattern : Pattern} {given : List Text} {rest : Text} :
      parameter.IsParameter → (∀ code ∈ rest.head?, code = CodePoint.ofChar '/') →
      Fills pattern given rest →
      Fills (none :: pattern) (parameter :: given) (slash ++ (parameter ++ rest))

theorem span_parameter {parameter rest : Text} (apart : CodePoint.ofChar '/' ∉ parameter)
    (stops : ∀ code ∈ rest.head?, code = CodePoint.ofChar '/') :
    (parameter ++ rest).span (· ≠ CodePoint.ofChar '/') = (parameter, rest) := by
  have inside : ∀ code ∈ parameter, decide (code ≠ CodePoint.ofChar '/') = true := by
    intro code member
    exact decide_eq_true fun same => apart (same ▸ member)
  rw [List.span_eq_takeWhile_dropWhile, List.takeWhile_append_of_pos inside,
    List.dropWhile_append_of_pos inside]
  cases rest with
  | nil => simp
  | cons code rest => simp [stops code rfl]

theorem of_span_parameter {text parameter rest : Text}
    (split : text.span (· ≠ CodePoint.ofChar '/') = (parameter, rest)) :
    text = parameter ++ rest ∧ CodePoint.ofChar '/' ∉ parameter ∧
      ∀ code ∈ rest.head?, code = CodePoint.ofChar '/' := by
  rw [List.span_eq_takeWhile_dropWhile, Prod.mk.injEq] at split
  obtain ⟨rfl, rfl⟩ := split
  refine ⟨List.takeWhile_append_dropWhile.symm, ?_, ?_⟩
  · intro member
    simpa using List.mem_takeWhile_imp member
  · intro code first
    have stops := List.head?_dropWhile_not (· ≠ CodePoint.ofChar '/') text
    rw [Option.mem_def] at first
    rw [first] at stops
    simpa using stops

theorem fill?_eq_some {pattern : Pattern} {path : Text} {given : List Text} :
    pattern.fill? path = some given ↔ Fills pattern given path := by
  constructor
  · intro filled
    induction pattern generalizing path given with
    | nil =>
        rw [fill?] at filled
        split_ifs at filled with ends
        obtain rfl := Option.some.inj filled
        exact Fills.done ends
    | cons piece pattern ih =>
        cases piece with
        | some word =>
            rw [fill?] at filled
            obtain ⟨rest, after, filled⟩ := Option.bind_eq_some_iff.mp filled
            rw [Json.of_after? after]
            exact Fills.word (ih filled)
        | none =>
            rw [fill?] at filled
            cases after : path.after? slash with
            | none => simp [after] at filled
            | some text =>
                rw [after] at filled
                dsimp only at filled
                cases split : text.span (· ≠ CodePoint.ofChar '/') with
                | mk parameter rest =>
                    rw [split] at filled
                    dsimp only at filled
                    split_ifs at filled with empty
                    obtain ⟨others, later, rfl⟩ := Option.map_eq_some_iff.mp filled
                    obtain ⟨rfl, apart, stops⟩ := of_span_parameter split
                    rw [Json.of_after? after]
                    exact Fills.parameter ⟨empty, apart⟩ stops (ih later)
  · intro fills
    induction fills with
    | done ends => rw [fill?, if_pos ends]
    | word _ ih => rw [fill?, Json.after?_append, Option.bind_some, ih]
    | parameter isParameter stops _ ih =>
        rw [fill?, Json.after?_append]
        dsimp only
        rw [span_parameter isParameter.2 stops]
        dsimp only
        rw [if_neg isParameter.1, ih, Option.map_some]

theorem isPathEnd_iff {rest : Text} :
    isPathEnd rest = true ↔ rest = [] ∨ rest = [CodePoint.lineFeed] := by
  simp [isPathEnd]

/-! The patterns that endpoints have -/

theorem fills_end {given : List Text} {path : Text} :
    Fills [] given path ↔ given = [] ∧ (path = [] ∨ path = [CodePoint.lineFeed]) := by
  constructor
  · intro fills
    cases fills with
    | done ends => exact ⟨rfl, isPathEnd_iff.mp ends⟩
  · rintro ⟨rfl, ends⟩
    exact Fills.done (isPathEnd_iff.mpr ends)

theorem fills_word {word : Text} {pattern : Pattern} {given : List Text} {path : Text} :
    Fills (some word :: pattern) given path ↔
      ∃ rest, path = slash ++ word ++ rest ∧ Fills pattern given rest := by
  constructor
  · intro fills
    cases fills with
    | @word _ _ _ rest fills => exact ⟨rest, rfl, fills⟩
  · rintro ⟨rest, rfl, fills⟩
    exact Fills.word fills

theorem fills_collection {pattern : Pattern} {given : List Text} {path : Text} :
    Fills (some "api" :: some "paintings" :: pattern) given path ↔
      ∃ rest, path = collectionPath ++ rest ∧ Fills pattern given rest := by
  constructor
  · intro fills
    obtain ⟨_, rfl, inner⟩ := fills_word.mp fills
    obtain ⟨rest, rfl, last⟩ := fills_word.mp inner
    exact ⟨rest, rfl, last⟩
  · rintro ⟨rest, rfl, fills⟩
    exact Fills.word (Fills.word fills)

/-- A last parameter takes up a line feed, so that none is left after it. -/
theorem fills_last {given : List Text} {path : Text} :
    Fills [none] given path ↔
      ∃ parameter, given = [parameter] ∧ parameter.IsParameter ∧ path = slash ++ parameter := by
  constructor
  · intro fills
    cases fills with
    | @parameter parameter _ _ rest isParameter stops fills =>
        refine ⟨parameter, ?_, isParameter, ?_⟩
        · rw [(fills_end.mp fills).1]
        · rcases (fills_end.mp fills).2 with rfl | rfl
          · rw [List.append_nil]
          · exact absurd (stops _ rfl) (by decide)
  · rintro ⟨parameter, rfl, isParameter, rfl⟩
    have fills : Fills [none] [parameter] (slash ++ (parameter ++ [])) :=
      Fills.parameter isParameter nofun (Fills.done rfl)
    rwa [List.append_nil] at fills

theorem fills_last_two {given : List Text} {path : Text} :
    Fills [none, none] given path ↔
      ∃ first second, given = [first, second] ∧ first.IsParameter ∧ second.IsParameter ∧
        path = slash ++ first ++ slash ++ second := by
  constructor
  · intro fills
    cases fills with
    | @parameter first _ _ rest isFirst _ fills =>
        obtain ⟨second, rfl, isSecond, rfl⟩ := fills_last.mp fills
        exact ⟨first, second, rfl, isFirst, isSecond, by simp only [List.append_assoc]⟩
  · rintro ⟨first, second, rfl, isFirst, isSecond, rfl⟩
    have stops : ∀ code ∈ (slash ++ second).head?, code = CodePoint.ofChar '/' := by
      intro code front
      exact (Option.some.inj front).symm
    have fills := Fills.parameter isFirst stops (fills_last.mpr ⟨second, rfl, isSecond, rfl⟩)
    simpa only [List.append_assoc] using fills

theorem fills_identifier {given : List Text} {path : Text} :
    Fills [some "api", some "paintings", none] given path ↔
      ∃ identifier, given = [identifier] ∧ identifier.IsParameter ∧
        path = collectionPath ++ slash ++ identifier := by
  constructor
  · intro fills
    obtain ⟨_, rfl, last⟩ := fills_collection.mp fills
    obtain ⟨identifier, rfl, isParameter, rfl⟩ := fills_last.mp last
    exact ⟨identifier, rfl, isParameter, by simp only [List.append_assoc]⟩
  · rintro ⟨identifier, rfl, isParameter, rfl⟩
    exact fills_collection.mpr ⟨slash ++ identifier, by simp only [List.append_assoc],
      fills_last.mpr ⟨identifier, rfl, isParameter, rfl⟩⟩

theorem fills_named {word : Text} {given : List Text} {path : Text} :
    Fills [some "api", some "paintings", some word, none] given path ↔
      ∃ identifier, given = [identifier] ∧ identifier.IsParameter ∧
        path = collectionPath ++ slash ++ word ++ slash ++ identifier := by
  constructor
  · intro fills
    obtain ⟨_, rfl, inner⟩ := fills_collection.mp fills
    obtain ⟨_, rfl, last⟩ := fills_word.mp inner
    obtain ⟨identifier, rfl, isParameter, rfl⟩ := fills_last.mp last
    exact ⟨identifier, rfl, isParameter, by simp only [List.append_assoc]⟩
  · rintro ⟨identifier, rfl, isParameter, rfl⟩
    exact fills_collection.mpr ⟨slash ++ word ++ (slash ++ identifier),
      by simp only [List.append_assoc],
      Fills.word (fills_last.mpr ⟨identifier, rfl, isParameter, rfl⟩)⟩

theorem fills_range {word : Text} {given : List Text} {path : Text} :
    Fills [some "api", some "paintings", some word, none, none] given path ↔
      ∃ least greatest, given = [least, greatest] ∧ least.IsParameter ∧ greatest.IsParameter ∧
        path = collectionPath ++ slash ++ word ++ slash ++ least ++ slash ++ greatest := by
  constructor
  · intro fills
    obtain ⟨_, rfl, inner⟩ := fills_collection.mp fills
    obtain ⟨_, rfl, last⟩ := fills_word.mp inner
    obtain ⟨least, greatest, rfl, isLeast, isGreatest, rfl⟩ := fills_last_two.mp last
    exact ⟨least, greatest, rfl, isLeast, isGreatest, by simp only [List.append_assoc]⟩
  · rintro ⟨least, greatest, rfl, isLeast, isGreatest, rfl⟩
    exact fills_collection.mpr ⟨slash ++ word ++ (slash ++ least ++ slash ++ greatest),
      by simp only [List.append_assoc],
      Fills.word (fills_last_two.mpr ⟨least, greatest, rfl, isLeast, isGreatest, rfl⟩)⟩

end Pattern

end Catalogue
