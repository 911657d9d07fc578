import Mathlib
import Catalogue.Proofs.Server.Pattern
import Catalogue.Server.Documentation

/-!
The pages about the server stand apart from its routes and from each other: no path has two of them,
and a path that has one has no route.
-/

namespace Catalogue.Page

variable {page other : Page} {path : Text}

theorem isAt_iff :
    page.isAt path = true ↔ path = page.path ∨ path = page.path ++ [CodePoint.lineFeed] := by
  rw [isAt, Option.any_eq_true]
  constructor
  · rintro ⟨rest, after, ended⟩
    rcases Pattern.isPathEnd_iff.mp ended with rfl | rfl
    · rw [Json.of_after? after, List.append_nil]
      exact Or.inl rfl
    · exact Or.inr (Json.of_after? after)
  · rintro (rfl | rfl)
    · exact ⟨[], by simpa using Json.after?_append page.path [], rfl⟩
    · exact ⟨[CodePoint.lineFeed], Json.after?_append _ _, rfl⟩

theorem eq_of_isAt (here : page.isAt path = true) (hereToo : other.isAt path = true) :
    page = other := by
  rcases isAt_iff.mp here with rfl | rfl <;> cases page <;> cases other <;>
    first | rfl | exact absurd hereToo (by decide)

theorem ofPath?_eq_some : ofPath? path = some page ↔ page.isAt path = true := by
  constructor
  · exact List.find?_some
  · intro here
    have found : (ofPath? path).isSome = true :=
      List.find?_isSome.mpr ⟨page, by cases page <;> decide, here⟩
    obtain ⟨other, same⟩ := Option.isSome_iff_exists.mp found
    rw [same, eq_of_isAt (List.find?_some same) here]

theorem route_of_isAt (here : page.isAt path = true) : Route.ofPath? path = none := by
  rcases isAt_iff.mp here with rfl | rfl <;> cases page <;> decide

theorem ofPath?_of_route {route : Route} (routed : Route.ofPath? path = some route) :
    ofPath? path = none := by
  cases found : ofPath? path with
  | none => rfl
  | some page =>
      have unrouted := route_of_isAt (ofPath?_eq_some.mp found)
      exact absurd (routed.symm.trans unrouted) nofun

theorem takesMethod_iff {method : Text} :
    takesMethod method = true ↔ method = getMethod ∨ method = headMethod := by
  simp [takesMethod]

end Catalogue.Page
