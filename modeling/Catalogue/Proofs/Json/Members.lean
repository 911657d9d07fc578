import Mathlib
import Catalogue.Proofs.Json.Grammar

/-!
Members of objects put in one by one. The reader's object is what the grammar makes of the members
as they are spelled: each key once, in its first place, with its last value.
-/

namespace Catalogue.Json

open Grammar

namespace Members

theorem insert_known {key : Text} {value : Value} {keys : List Text} (values : Text → Value)
    (distinct : keys.Nodup) (known : key ∈ keys) :
    insert key value (keys.map fun name => (name, values name)) =
      keys.map fun name => (name, if name = key then value else values name) := by
  induction keys with
  | nil => exact absurd known List.not_mem_nil
  | cons name keys ih =>
      obtain ⟨fresh, distinct⟩ := List.nodup_cons.mp distinct
      rw [List.map_cons, insert, List.map_cons]
      split_ifs with same
      · subst same
        congr 1
        apply List.map_congr_left
        intro other member
        have different : other ≠ name := fun same => fresh (same ▸ member)
        rw [if_neg different]
      · rw [ih distinct ((List.mem_cons.mp known).resolve_left fun found => same found.symm)]

theorem insert_new {key : Text} {value : Value} {keys : List Text} (values : Text → Value)
    (new : key ∉ keys) :
    insert key value (keys.map fun name => (name, values name)) =
      keys.map (fun name => (name, values name)) ++ [(key, value)] := by
  induction keys with
  | nil => rfl
  | cons name keys ih =>
      rw [List.mem_cons, not_or] at new
      rw [List.map_cons, insert, if_neg (Ne.symm new.1), ih new.2, List.cons_append]

end Members

theorem Members.of_mem_insert {key : Text} {value : Value} {members : Members}
    {member : Text × Value} (within : member ∈ members.insert key value) :
    member = (key, value) ∨ member ∈ members := by
  induction members with
  | nil => exact Or.inl (List.mem_singleton.mp within)
  | cons first members ih =>
      obtain ⟨name, earlier⟩ := first
      rw [insert] at within
      split_ifs at within with same
      · subst same
        rcases List.mem_cons.mp within with here | later
        · exact Or.inl here
        · exact Or.inr (List.mem_cons_of_mem _ later)
      · rcases List.mem_cons.mp within with here | later
        · exact Or.inr (here ▸ List.mem_cons_self)
        · exact (ih later).imp_right (List.mem_cons_of_mem _)

theorem eraseDups_append_known {keys : List Text} {key : Text} (known : key ∈ keys) :
    (keys ++ [key]).eraseDups = keys.eraseDups := by
  rw [List.eraseDups_append]
  simp [List.removeAll, known]

theorem eraseDups_append_new {keys : List Text} {key : Text} (new : key ∉ keys) :
    (keys ++ [key]).eraseDups = keys.eraseDups ++ [key] := by
  rw [List.eraseDups_append]
  simp [List.removeAll, new, List.eraseDups_cons]

theorem nodup_eraseDups (keys : List Text) : keys.eraseDups.Nodup := by
  induction keys using List.reverseRecOn with
  | nil => exact List.nodup_nil
  | append_singleton keys key ih =>
      by_cases known : key ∈ keys
      · rwa [eraseDups_append_known known]
      · rw [eraseDups_append_new known]
        refine List.nodup_append.mpr ⟨ih, List.nodup_singleton key, ?_⟩
        rintro other member single inSingle rfl
        exact known (List.mem_singleton.mp inSingle ▸ List.mem_eraseDups.mp member)

theorem eraseDups_of_nodup {keys : List Text} (distinct : keys.Nodup) : keys.eraseDups = keys := by
  induction keys using List.reverseRecOn with
  | nil => rfl
  | append_singleton keys key ih =>
      have parts := List.nodup_append.mp distinct
      have new : key ∉ keys := fun member =>
        parts.2.2 key member key List.mem_cons_self rfl
      rw [eraseDups_append_new new, ih parts.1]

/-! Merging -/

def lastValue (members : Members) (key : Text) : Value :=
  (Members.find? key members.reverse).getD .null

theorem merged_eq (members : Members) :
    merged members =
      (members.map Prod.fst).eraseDups.map fun key => (key, lastValue members key) := rfl

theorem lastValue_append (members : Members) (key : Text) (value : Value) (name : Text) :
    lastValue (members ++ [(key, value)]) name =
      if name = key then value else lastValue members name := by
  rw [lastValue, List.reverse_append, List.reverse_singleton, List.singleton_append,
    Members.find?]
  split_ifs with known same same
  · rfl
  · exact absurd known.symm same
  · exact absurd same.symm known
  · rfl

theorem merged_append (members : Members) (key : Text) (value : Value) :
    merged (members ++ [(key, value)]) = (merged members).insert key value := by
  rw [merged_eq, merged_eq, List.map_append, List.map_singleton]
  simp only [lastValue_append]
  by_cases known : key ∈ members.map Prod.fst
  · rw [eraseDups_append_known known, Members.insert_known (lastValue members)
      (nodup_eraseDups _) (List.mem_eraseDups.mpr known)]
  · rw [eraseDups_append_new known, Members.insert_new (lastValue members)
      (fun member => known (List.mem_eraseDups.mp member)), List.map_append, List.map_singleton,
      if_pos rfl]
    congr 1
    apply List.map_congr_left
    intro name member
    have different : name ≠ key := fun same => known (List.mem_eraseDups.mp (same ▸ member))
    rw [if_neg different]

def insertAll (read : Members) (members : Members) : Members :=
  members.foldl (fun read member => read.insert member.1 member.2) read

theorem insertAll_nil (members : Members) : insertAll [] members = merged members := by
  induction members using List.reverseRecOn with
  | nil => rfl
  | append_singleton members member ih =>
      rw [merged_append, ← ih, insertAll, List.foldl_append]
      rfl

theorem Members.find?_insert (key : Text) (value : Value) (members : Members) (name : Text) :
    (members.insert key value).find? name =
      if key = name then some value else members.find? name := by
  induction members with
  | nil => rfl
  | cons member members ih =>
      obtain ⟨first, earlier⟩ := member
      rw [insert]
      by_cases known : first = key
      · rw [if_pos known, find?, find?, known]
        by_cases same : key = name <;> simp [same]
      · rw [if_neg known, find?, find?, ih]
        by_cases here : first = name
        · have different : key ≠ name := fun same => known (here.trans same.symm)
          simp [here, different]
        · simp [here]

theorem get_merged (members : Members) (key : Text) :
    Value.get (merged members) key = lastValue members key := by
  induction members using List.reverseRecOn with
  | nil => rfl
  | append_singleton members member ih =>
      obtain ⟨name, value⟩ := member
      rw [merged_append, lastValue_append, Value.get, Members.find?_insert, ← ih]
      by_cases same : name = key
      · simp [same]
      · simp [same, Ne.symm same, Value.get]

theorem nodup_merged (members : Members) : ((merged members).map Prod.fst).Nodup := by
  rw [merged_eq, List.map_map]
  simpa [Function.comp_def] using nodup_eraseDups (members.map Prod.fst)

theorem lastValue_of_nodup {members : Members} (distinct : (members.map Prod.fst).Nodup)
    {key : Text} {value : Value} (member : (key, value) ∈ members) :
    lastValue members key = value := by
  induction members using List.reverseRecOn with
  | nil => exact absurd member List.not_mem_nil
  | append_singleton members last ih =>
      obtain ⟨name, final⟩ := last
      rw [List.map_append, List.map_singleton] at distinct
      have parts := List.nodup_append.mp distinct
      rw [lastValue_append]
      rcases List.mem_append.mp member with earlier | single
      · have different : key ≠ name :=
          parts.2.2 key (List.mem_map_of_mem earlier) name List.mem_cons_self
        rw [if_neg different, ih parts.1 earlier]
      · obtain ⟨rfl, rfl⟩ := Prod.mk.inj (List.mem_singleton.mp single)
        exact if_pos rfl

theorem merged_of_nodup {members : Members} (distinct : (members.map Prod.fst).Nodup) :
    merged members = members := by
  rw [merged_eq, eraseDups_of_nodup distinct, List.map_map]
  conv_rhs => rw [← List.map_id members]
  apply List.map_congr_left
  intro member within
  obtain ⟨key, value⟩ := member
  rw [Function.comp_apply, lastValue_of_nodup distinct within]
  rfl

theorem mem_of_mem_merged {members : Members} {member : Text × Value}
    (kept : member ∈ merged members) : member ∈ members := by
  induction members using List.reverseRecOn with
  | nil => exact absurd kept List.not_mem_nil
  | append_singleton members last ih =>
      rw [merged_append] at kept
      rcases Members.of_mem_insert kept with rfl | earlier
      · exact List.mem_append_right _ List.mem_cons_self
      · exact List.mem_append_left _ (ih earlier)

end Catalogue.Json
