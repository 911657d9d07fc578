import Mathlib
import Catalogue.Proofs.Server.Documentation
import Catalogue.Proofs.Server.Endpoint

/-!
What takes a path: an endpoint, or a page about the server. No path has two of them, and a path with
a slash at its end has none, since no pattern ends in a slash and no parameter holds one.
-/

namespace Catalogue

namespace Text

def EndsWithSlash (text : Text) : Prop := text.getLast? = some (CodePoint.ofChar '/')

theorem IsParameter.not_endsWithSlash {parameter rest : Text} (isParameter : parameter.IsParameter)
    (open_ : ¬ rest.EndsWithSlash) : ¬ (parameter ++ rest).EndsWithSlash := by
  cases rest with
  | nil =>
      rw [List.append_nil]
      exact fun last => isParameter.2 (List.mem_of_getLast? last)
  | cons code rest =>
      rwa [EndsWithSlash, List.getLast?_append_of_ne_nil _ (List.cons_ne_nil _ _)]

theorem endsWith_slash_iff {text : Text} : text.endsWith "/" = true ↔ text.EndsWithSlash := by
  have mark : (Text.ofString "/").reverse = [CodePoint.ofChar '/'] := rfl
  rw [endsWith, startsWith, mark, EndsWithSlash, List.getLast?_eq_head?_reverse]
  cases text.reverse with
  | nil => simp [after?]
  | cons code rest =>
      rw [after?, List.head?_cons, Option.some.injEq]
      split_ifs with same
      · exact iff_of_true (by cases rest <;> rfl) same
      · simpa using same

theorem dropTrailing_append {front : Text} {unwanted : CodePoint}
    (open_ : front.getLast? ≠ some unwanted) (count : Nat) :
    dropTrailing unwanted (front ++ List.replicate count unwanted) = front := by
  have trailing : ∀ code ∈ List.replicate count unwanted, decide (code = unwanted) = true :=
    fun code member => decide_eq_true (List.eq_of_mem_replicate member)
  have kept : front.reverse.dropWhile (· = unwanted) = front.reverse := by
    rw [List.getLast?_eq_head?_reverse] at open_
    cases reversed : front.reverse with
    | nil => rfl
    | cons code rest =>
        rw [reversed, List.head?_cons, Ne, Option.some.injEq] at open_
        rw [List.dropWhile_cons_of_neg (by simpa using open_)]
  rw [dropTrailing, List.reverse_append, List.reverse_replicate,
    List.dropWhile_append_of_pos trailing, kept, List.reverse_reverse]

end Text

theorem Pattern.Fills.not_endsWithSlash {pattern : Pattern} {given : List Text} {path : Text}
    (fills : Pattern.Fills pattern given path)
    (words : ∀ word, some word ∈ pattern → word.IsParameter) : ¬ path.EndsWithSlash := by
  induction fills with
  | done ended =>
      rcases Pattern.isPathEnd_iff.mp ended with rfl | rfl <;> exact nofun
  | @word word pattern given rest _ ih =>
      have isParameter := words word List.mem_cons_self
      have later := ih fun other member => words other (List.mem_cons_of_mem _ member)
      have present : word ++ rest ≠ [] := List.append_ne_nil_of_left_ne_nil isParameter.1 rest
      rw [Text.EndsWithSlash, List.append_assoc, List.getLast?_append_of_ne_nil _ present]
      exact isParameter.not_endsWithSlash later
  | @parameter parameter pattern given rest isParameter _ _ ih =>
      have later := ih fun other member => words other (List.mem_cons_of_mem _ member)
      have present : parameter ++ rest ≠ [] := List.append_ne_nil_of_left_ne_nil isParameter.1 rest
      rw [Text.EndsWithSlash, List.getLast?_append_of_ne_nil _ present]
      exact isParameter.not_endsWithSlash later

namespace Endpoint

def Takes (endpoint : Endpoint) (path : Text) : Prop := (endpoint.parametersOf? path).isSome = true

variable {endpoint : Endpoint} {path : Text}

theorem isParameter_of_word {word : Text} (member : some word ∈ endpoint.operation.pattern) :
    word.IsParameter := by
  rw [operation_pattern] at member
  cases endpoint <;>
    simp only [List.mem_cons, List.not_mem_nil, or_false, Option.some.injEq, reduceCtorEq]
      at member <;> rcases member with rfl | rfl | rfl <;> exact ⟨by decide, by decide⟩

theorem takes_iff : endpoint.Takes path ↔ ∃ given, endpoint.parametersOf? path = some given :=
  Option.isSome_iff_exists

theorem Takes.not_endsWithSlash (takes : endpoint.Takes path) : ¬ path.EndsWithSlash := by
  obtain ⟨given, taken⟩ := takes_iff.mp takes
  exact (parametersOf?_eq_some.mp taken).not_endsWithSlash fun _ => isParameter_of_word

theorem exists_takes_iff : (∃ endpoint : Endpoint, endpoint.Takes path) ↔
    (Route.ofPath? path).isSome = true := by
  constructor
  · rintro ⟨endpoint, takes⟩
    obtain ⟨given, taken⟩ := takes_iff.mp takes
    obtain ⟨route, _, _, routed⟩ := route_of_parametersOf? taken
    rw [routed, Option.isSome_some]
  · intro routed
    obtain ⟨route, routed⟩ := Option.isSome_iff_exists.mp routed
    obtain ⟨endpoint, found⟩ := exists_route? routed
    obtain ⟨given, taken, _⟩ := Option.bind_eq_some_iff.mp found
    exact ⟨endpoint, takes_iff.mpr ⟨given, taken⟩⟩

end Endpoint

theorem Page.not_endsWithSlash {page : Page} {path : Text} (here : page.isAt path = true) :
    ¬ path.EndsWithSlash := by
  rw [Text.EndsWithSlash]
  rcases isAt_iff.mp here with rfl | rfl <;> cases page <;> decide

inductive Taker where
  | endpoint (endpoint : Endpoint)
  | page (page : Page)

namespace Taker

def Takes (path : Text) : Taker → Prop
  | endpoint taking => taking.Takes path
  | page shown => shown.isAt path = true

def TakesMethod (method : Text) : Taker → Prop
  | endpoint _ => method = getMethod
  | page _ => method = getMethod ∨ method = headMethod

def allowed (documentation : Documentation) : Taker → Text
  | endpoint _ => "GET"
  | page _ => documentation.allowed

variable {taker other : Taker} {path method : Text} {endpoint : Endpoint} {page : Page}

theorem takes_endpoint : (Taker.endpoint endpoint).Takes path ↔ endpoint.Takes path := Iff.rfl

theorem takes_page : (Taker.page page).Takes path ↔ page.isAt path = true := Iff.rfl

theorem takesMethod_endpoint :
    (Taker.endpoint endpoint).TakesMethod method ↔ method = getMethod := Iff.rfl

theorem takesMethod_page :
    (Taker.page page).TakesMethod method ↔ Page.takesMethod method = true :=
  Page.takesMethod_iff.symm

theorem Takes.not_endsWithSlash (takes : taker.Takes path) : ¬ path.EndsWithSlash := by
  cases taker with
  | endpoint endpoint => exact Endpoint.Takes.not_endsWithSlash takes
  | page page => exact Page.not_endsWithSlash takes

theorem not_takes_endpoint (here : page.isAt path = true) :
    ¬ endpoint.Takes path := by
  intro takes
  have routed := Endpoint.exists_takes_iff.mp ⟨endpoint, takes⟩
  rw [Page.route_of_isAt here] at routed
  exact absurd routed nofun

theorem Takes.unique (takes : taker.Takes path) (takesToo : other.Takes path) : taker = other := by
  cases taker with
  | endpoint endpoint =>
      cases other with
      | endpoint other => rw [Endpoint.eq_of_parametersOf? takes takesToo]
      | page page => exact absurd takes (not_takes_endpoint takesToo)
  | page page =>
      cases other with
      | endpoint other => exact absurd takesToo (not_takes_endpoint takes)
      | page other => rw [Page.eq_of_isAt takes takesToo]

theorem exists_takes_iff : (∃ taker : Taker, taker.Takes path) ↔
    ((Page.ofPath? path).isSome || (Route.ofPath? path).isSome) = true := by
  rw [Bool.or_eq_true]
  constructor
  · rintro ⟨taker, takes⟩
    cases taker with
    | endpoint endpoint => exact Or.inr (Endpoint.exists_takes_iff.mp ⟨endpoint, takes⟩)
    | page page =>
        rw [Page.ofPath?_eq_some.mpr takes]
        exact Or.inl rfl
  · rintro (shown | routed)
    · obtain ⟨page, found⟩ := Option.isSome_iff_exists.mp shown
      exact ⟨.page page, Page.ofPath?_eq_some.mp found⟩
    · obtain ⟨endpoint, takes⟩ := Endpoint.exists_takes_iff.mpr routed
      exact ⟨.endpoint endpoint, takes⟩

end Taker

end Catalogue
