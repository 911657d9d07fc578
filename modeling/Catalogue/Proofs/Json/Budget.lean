import Mathlib
import Catalogue.Proofs.Json.Nesting

/-!
Running out of budget. The reader gives up on the nesting of a text only where as many arrays and
objects stand one in another as its budget allows: the limits of its loops are never met.
-/

namespace Catalogue.Json

open Grammar

variable {policy : Policy} {denotes : Text → Value → Prop} {nested : Reader Value}
  {limit budget : Nat}

def IsTooDeep {α : Type} (result : Except Halt α) : Prop := result = .error (.refusal .tooDeep)

theorem not_isTooDeep_ok {α : Type} {value : α} : ¬ IsTooDeep (.ok value) := by
  intro deep
  cases deep

theorem not_isTooDeep_faultAt {α : Type} {fault : Fault} {unread : Text} :
    ¬ IsTooDeep (faultAt fault unread : Except Halt α) := by
  intro deep
  cases deep

theorem not_isTooDeep_refuse {α : Type} {refusal : Refusal} (other : refusal ≠ .tooDeep) :
    ¬ IsTooDeep (refuse refusal : Except Halt α) := by
  intro deep
  cases deep
  exact other rfl

theorem not_isTooDeep_readPair {unit : CodePoint} {text : Text} :
    ¬ IsTooDeep (readPair unit text) := by
  unfold readPair
  split
  · split_ifs
    · split
      · exact not_isTooDeep_faultAt
      · split_ifs <;> exact not_isTooDeep_ok
    · exact not_isTooDeep_ok
  · exact not_isTooDeep_ok

theorem not_isTooDeep_readEscape {opening text : Text} :
    ¬ IsTooDeep (readEscape opening text) := by
  unfold readEscape
  split
  · split_ifs
    · split
      · exact not_isTooDeep_faultAt
      · exact not_isTooDeep_readPair
    · split
      · exact not_isTooDeep_ok
      · exact not_isTooDeep_faultAt
  · exact not_isTooDeep_faultAt

theorem length_of_readEscape {opening text rest : Text} {code : CodePoint}
    (taken : readEscape opening (CodePoint.reverseSolidus :: text) = .ok (code, rest)) :
    rest.length ≤ text.length := by
  rcases of_readEscape taken with ⟨letter, rfl, _⟩ | ⟨escape, unit, others, shape, spelled, _, pair⟩
  · exact Nat.le_succ _
  · obtain ⟨digits, rfl⟩ := UnitEscape.exists_cons spelled
    have lengths := congrArg List.length shape
    rcases of_readPair pair with ⟨_, rfl⟩ | ⟨second, low, rfl, _⟩
    · simp only [List.length_append, List.length_cons] at lengths
      omega
    · simp only [List.length_append, List.length_cons] at lengths
      omega

theorem not_isTooDeep_readStringBody {opening : Text} :
    ∀ {limit : Nat} {read text : Text}, text.length < limit →
      ¬ IsTooDeep (readStringBody opening limit read text) := by
  intro limit
  induction limit with
  | zero => exact fun enough => absurd enough (Nat.not_lt_zero _)
  | succ limit ih =>
      intro read text enough
      cases text with
      | nil => exact not_isTooDeep_faultAt
      | cons code text =>
          have shorter : text.length < limit := Nat.lt_of_succ_lt_succ enough
          rw [readStringBody]
          split_ifs with mark solidus control
          · exact not_isTooDeep_ok
          · subst solidus
            intro deep
            rcases bind_eq_error deep with escape | ⟨⟨escaped, rest⟩, escape, onward⟩
            · exact not_isTooDeep_readEscape escape
            · exact ih ((length_of_readEscape escape).trans_lt shorter) onward
          · exact not_isTooDeep_faultAt
          · exact ih shorter

theorem not_isTooDeep_readString {text : Text} (enough : text.length < limit) :
    ¬ IsTooDeep (readString limit text) := by
  apply not_isTooDeep_readStringBody
  rw [List.length_drop]
  omega

theorem not_isTooDeep_map {α β : Type} {result : Except Halt α} {use : α → β}
    (shallow : ¬ IsTooDeep result) : ¬ IsTooDeep (result.map use) := by
  intro deep
  cases result with
  | ok value => exact absurd deep not_isTooDeep_ok
  | error halt => exact shallow (congrArg Except.error (Except.error.inj deep))

theorem not_isTooDeep_value {token : NumberToken} : ¬ IsTooDeep (token.value policy) := by
  unfold NumberToken.value
  split_ifs
  · exact not_isTooDeep_refuse Refusal.noConfusion
  · exact not_isTooDeep_ok
  · split
    · exact not_isTooDeep_ok
    · exact not_isTooDeep_refuse Refusal.noConfusion
    · exact not_isTooDeep_ok

theorem not_isTooDeep_readScalar {text : Text} : ¬ IsTooDeep (readScalar policy text) := by
  rw [readScalar]
  split
  · exact not_isTooDeep_ok
  · cases policy with
    | strict => exact not_isTooDeep_refuse Refusal.noConfusion
    | lenient => exact not_isTooDeep_ok
  · split
    · exact not_isTooDeep_faultAt
    · exact not_isTooDeep_map not_isTooDeep_value

/-! Values -/

/-- Wherever the reader runs out of its budget, so many brackets are open at once. -/
def NeedsDepth {α : Type} (reader : Reader α) (limit budget : Nat) : Prop :=
  ∀ {text}, text.length < limit → IsTooDeep (reader text) →
    ∀ level, level + budget ≤ Scan.deepest ⟨.outside, level⟩ text

theorem deepest_suffix {before text : Text} (balanced : before.IsBalanced) {level bound : Nat}
    (deep : bound ≤ Scan.deepest ⟨.outside, level⟩ text) :
    bound ≤ Scan.deepest ⟨.outside, level⟩ (before ++ text) := by
  have inner := balanced.deepest_le text [] level
  rw [List.append_nil] at inner
  exact deep.trans inner

theorem needsDepth_readSeparated {α σ : Type} {readPart : Reader α} {spells : Text → α → Prop}
    {closing : CodePoint} {add : σ → α → σ} {finish : σ → Value}
    (needs : NeedsDepth readPart limit budget) (takes : Takes readPart spells)
    (balanced : ∀ {text part}, spells text part → text.IsBalanced) :
    ∀ {rounds : Nat} {read : σ} {text : Text}, text.length < limit → text.length < rounds →
      IsTooDeep (readSeparated readPart closing add finish rounds read text) →
        ∀ level, level + budget ≤ Scan.deepest ⟨.outside, level⟩ text := by
  intro rounds
  induction rounds with
  | zero => exact fun _ enough => absurd enough (Nat.not_lt_zero _)
  | succ rounds ih =>
      intro read text short enough deep level
      rw [readSeparated] at deep
      rcases bind_eq_error deep with inner | ⟨⟨part, unread⟩, reads, onward⟩
      · exact needs short inner level
      · obtain ⟨consumed, rfl, one⟩ := takes reads
        dsimp only at onward
        split at onward
        · rename_i code others next
          obtain ⟨blanks, are, rfl⟩ := exists_skipBlanks next
          split_ifs at onward with comma
          · subst comma
            obtain ⟨before, areBefore, start⟩ := exists_blanks others
            have later := congrArg List.length start
            simp only [List.length_append, List.length_cons] at short enough later
            have deeper := ih (by omega) (by omega) onward level
            rw [start]
            exact deepest_suffix (balanced one) (deepest_suffix are.isBalanced
              (deepest_suffix (balanced_cons ',' (by decide) areBefore.isBalanced) deeper))
          · exact absurd onward not_isTooDeep_faultAt
        · exact absurd onward not_isTooDeep_faultAt

theorem needsDepth_readMember (needs : NeedsDepth nested limit budget) :
    NeedsDepth (readMember nested limit) limit budget := by
  intro text short deep level
  unfold readMember at deep
  split at deep
  · rename_i mark others
    split_ifs at deep with quoted
    · subst quoted
      rcases bind_eq_error deep with key | ⟨⟨key, unread⟩, readsKey, onward⟩
      · exact absurd key (not_isTooDeep_readString short)
      · obtain ⟨spelledKey, shape, one⟩ := of_readString readsKey
        dsimp only at onward
        split at onward
        · rename_i colon later next
          obtain ⟨blanks, are, rfl⟩ := exists_skipBlanks next
          split_ifs at onward with isColon
          · subst isColon
            rcases bind_eq_error onward with inner | ⟨⟨value, after⟩, _, done⟩
            · obtain ⟨before, areBefore, start⟩ := exists_blanks later
              have lengths := congrArg List.length start
              rw [shape] at short ⊢
              simp only [List.length_append, List.length_cons] at short lengths
              have deeper := needs (by omega) inner level
              rw [start]
              exact deepest_suffix one.isBalanced (deepest_suffix are.isBalanced
                (deepest_suffix (balanced_cons ':' (by decide) areBefore.isBalanced) deeper))
            · exact absurd done not_isTooDeep_ok
          · exact absurd onward not_isTooDeep_faultAt
        · exact absurd onward not_isTooDeep_faultAt
    · exact absurd deep not_isTooDeep_faultAt
  · exact absurd deep not_isTooDeep_faultAt

theorem needsDepth_readValueWith (needs : NeedsDepth nested limit budget)
    (takes : Takes nested denotes)
    (balanced : ∀ {text value}, denotes text value → text.IsBalanced) :
    NeedsDepth (readValueWith policy limit nested) limit (budget + 1) := by
  intro text short deep level
  unfold readValueWith at deep
  split at deep
  · rename_i code others
    have inside : (skipBlanks others).length < limit := by
      have shorter := List.length_dropWhile_le isBlank others
      simp only [List.length_cons] at short
      simp only [skipBlanks]
      omega
    obtain ⟨blanks, are, start⟩ := exists_blanks others
    split_ifs at deep with quoted bracket brace
    · rcases bind_eq_error deep with string | ⟨_, _, done⟩
      · exact absurd string (not_isTooDeep_readString short)
      · exact absurd done not_isTooDeep_ok
    · subst bracket
      have inner : IsTooDeep (readItems nested limit [] (skipBlanks others)) := by
        split at deep
        · rename_i first unread next
          split_ifs at deep
          · exact absurd deep not_isTooDeep_ok
          · rwa [next]
        · rename_i next
          rwa [next]
      rw [readItems_eq] at inner
      have deeper := needsDepth_readSeparated needs takes balanced inside inside inner (level + 1)
      have opened : level + (budget + 1) ≤ Scan.deepest ⟨.outside, level + 1⟩ others := by
        rw [start]
        exact deepest_suffix are.isBalanced (le_of_eq_of_le (by omega) deeper)
      exact opened.trans (le_max_right _ _)
    · subst brace
      have inner : IsTooDeep (readMembers nested limit limit [] (skipBlanks others)) := by
        split at deep
        · rename_i first unread next
          split_ifs at deep
          · exact absurd deep not_isTooDeep_ok
          · rwa [next]
        · rename_i next
          rwa [next]
      rw [readMembers_eq] at inner
      have deeper := needsDepth_readSeparated (needsDepth_readMember needs) (of_readMember takes)
        (fun one => one.isBalanced balanced) inside inside inner (level + 1)
      have opened : level + (budget + 1) ≤ Scan.deepest ⟨.outside, level + 1⟩ others := by
        rw [start]
        exact deepest_suffix are.isBalanced (le_of_eq_of_le (by omega) deeper)
      exact opened.trans (le_max_right _ _)
    · exact absurd deep not_isTooDeep_readScalar
  · exact absurd deep not_isTooDeep_readScalar

theorem needsDepth_readValue (limit budget : Nat) :
    NeedsDepth (readValue policy limit budget) limit budget := by
  induction budget with
  | zero => exact fun _ _ level => Scan.level_le_deepest ⟨.outside, level⟩ _
  | succ budget ih =>
      intro text short deep
      exact needsDepth_readValueWith ih (of_readValue budget) DerivesWithin.isBalanced short deep

theorem depthLimit_le_nesting {text : Text}
    (deep : Json.read policy text = .error (.refusal .tooDeep)) : depthLimit ≤ text.nesting := by
  obtain ⟨blanks, are, start⟩ := exists_blanks text
  have failed : IsTooDeep (readDocument policy text) := by
    rw [Json.read] at deep
    cases result : readDocument policy text with
    | ok value =>
        rw [result] at deep
        cases deep
    | error halt =>
        rw [result] at deep
        cases halt with
        | fault => cases deep
        | refusal refusal =>
            obtain rfl := Failure.refusal.inj (Except.error.inj deep)
            rfl
  have short : (skipBlanks text).length < text.length + 1 :=
    Nat.lt_succ_of_le (List.length_dropWhile_le isBlank text)
  rcases bind_eq_error failed with inner | ⟨⟨value, unread⟩, _, last⟩
  · have deeper := needsDepth_readValue _ depthLimit short inner 0
    rw [Nat.zero_add] at deeper
    rw [Text.nesting, start]
    exact deepest_suffix are.isBalanced deeper
  · dsimp only at last
    split at last
    · exact absurd last not_isTooDeep_ok
    · exact absurd last not_isTooDeep_faultAt

theorem lt_depthLimit {depth : Nat} (safe : depth ≤ safeDepth) : depth < depthLimit :=
  safe.trans_lt (by decide)

theorem read_iff_document {text : Text} (shallow : text.nesting < depthLimit) {value : Value} :
    Json.read policy text = .ok value ↔ Grammar.Document policy text value := by
  rw [read_iff]
  constructor
  · exact Padded.imp descends_true (fun _ => DerivesWithin.derives) trivial
  · intro spelled
    have few : text.nesting ≤ 999 := Nat.le_of_lt_succ shallow
    exact spelled.within_nesting few

end Catalogue.Json
