import Medallion.Json.Document
import Mathlib.Data.List.Nodup

/-!
# The value of a written value

A written value is read as a document, and the document has a value of its own.  This is the
value that was written, if no object in it has a name twice and its containers do not stand
too deep in each other (`Document.toJson?_ofJson`).

* `Json.Distinct` says that no object has a name twice.  Setting members keeps it
  (`Json.nodup_setMembers`), so the value of any document has it
  (`Document.distinct_of_toJson?`).
* `Json.depth` is the number of containers that stand in each other.
-/

namespace Medallion

/-! ## Members of objects -/

namespace Json

section Members

variable {α : Type} {name : String} {value : α} {members pairs : List (String × α)}

/-- A name that is there keeps its place. -/
theorem names_setMember_of_mem (hmem : name ∈ members.map (·.1)) :
    (setMember name value members).map (·.1) = members.map (·.1) := by
  induction members with
  | nil => cases hmem
  | cons m members ih =>
    obtain ⟨n, v⟩ := m
    by_cases heq : n = name
    · rw [setMember, if_pos heq]
      rfl
    · rw [setMember, if_neg heq, List.map_cons, List.map_cons]
      rw [List.map_cons, List.mem_cons] at hmem
      rw [ih (hmem.resolve_left (Ne.symm heq))]

/-- A new name goes to the end. -/
theorem setMember_of_not_mem (hnew : name ∉ members.map (·.1)) :
    setMember name value members = members ++ [(name, value)] := by
  induction members with
  | nil => rfl
  | cons m members ih =>
    obtain ⟨n, v⟩ := m
    rw [List.map_cons, List.mem_cons, not_or] at hnew
    rw [setMember, if_neg (Ne.symm hnew.1), ih hnew.2]
    rfl

/-- A name that is there once gets its value in its place. -/
theorem setMember_of_mem (hnodup : (members.map (·.1)).Nodup)
    (hmem : name ∈ members.map (·.1)) :
    setMember name value members = members.map fun m => (m.1, if m.1 = name then value else m.2) := by
  induction members with
  | nil => cases hmem
  | cons m members ih =>
    obtain ⟨n, v⟩ := m
    rw [List.map_cons, List.nodup_cons] at hnodup
    rw [List.map_cons, List.mem_cons] at hmem
    by_cases heq : n = name
    · subst heq
      have hrest : members.map (fun m => (m.1, if m.1 = n then value else m.2)) = members := by
        conv_rhs => rw [← List.map_id members]
        refine List.map_congr_left fun m hm => ?_
        have hname : m.1 ∈ members.map (·.1) := List.mem_map_of_mem hm
        rw [if_neg]
        · rfl
        · rintro rfl
          exact hnodup.1 hname
      rw [setMember, if_pos rfl, List.map_cons, hrest, if_pos rfl]
    · rw [setMember, if_neg heq, ih hnodup.2 (hmem.resolve_left (Ne.symm heq)), List.map_cons,
        if_neg heq]

theorem nodup_setMember (hnodup : (members.map (·.1)).Nodup) :
    ((setMember name value members).map (·.1)).Nodup := by
  by_cases hmem : name ∈ members.map (·.1)
  · rwa [names_setMember_of_mem hmem]
  · rw [setMember_of_not_mem hmem, List.map_append, List.nodup_append]
    refine ⟨hnodup, List.nodup_singleton _, ?_⟩
    intro n hn n' hsingle heq
    rw [List.map_singleton, List.mem_singleton] at hsingle
    rw [heq, hsingle] at hn
    exact hmem hn

theorem mem_setMember (name : String) (value : α) (members : List (String × α)) :
    (name, value) ∈ setMember name value members := by
  induction members with
  | nil => exact List.mem_singleton_self _
  | cons m members ih =>
    obtain ⟨n, v⟩ := m
    rw [setMember]
    split
    · rename_i heq
      rw [heq]
      exact List.mem_cons_self
    · exact List.mem_cons_of_mem _ ih

theorem mem_of_mem_setMember {m : String × α} (hm : m ∈ setMember name value members) :
    m = (name, value) ∨ m ∈ members := by
  induction members with
  | nil => exact .inl (List.mem_singleton.mp hm)
  | cons m' members ih =>
    obtain ⟨n, v⟩ := m'
    rw [setMember] at hm
    split at hm
    · rename_i heq
      rcases List.mem_cons.mp hm with rfl | hm
      · exact .inl (by rw [heq])
      · exact .inr (List.mem_cons_of_mem _ hm)
    · rcases List.mem_cons.mp hm with rfl | hm
      · exact .inr List.mem_cons_self
      · exact (ih hm).imp_right (List.mem_cons_of_mem _)

theorem nodup_setMembers (hnodup : (members.map (·.1)).Nodup) :
    ((setMembers members pairs).map (·.1)).Nodup := by
  induction pairs generalizing members with
  | nil => exact hnodup
  | cons pair pairs ih => exact ih (nodup_setMember hnodup)

theorem mem_of_mem_setMembers {m : String × α} (hm : m ∈ setMembers members pairs) :
    m ∈ members ∨ m ∈ pairs := by
  induction pairs generalizing members with
  | nil => exact .inl hm
  | cons pair pairs ih =>
    rcases ih hm with hset | hpairs
    · rcases mem_of_mem_setMember hset with rfl | hmembers
      · exact .inr List.mem_cons_self
      · exact .inl hmembers
    · exact .inr (List.mem_cons_of_mem _ hpairs)

/-- Members with names that are all new are put behind the others. -/
theorem setMembers_of_nodup (hnodup : ((members ++ pairs).map (·.1)).Nodup) :
    setMembers members pairs = members ++ pairs := by
  induction pairs generalizing members with
  | nil => rw [List.append_nil]; rfl
  | cons pair pairs ih =>
    obtain ⟨n, v⟩ := pair
    have hnew : n ∉ members.map (·.1) := by
      intro hmem
      rw [List.map_append, List.nodup_append] at hnodup
      exact hnodup.2.2 n hmem n List.mem_cons_self rfl
    have hassoc : members ++ (n, v) :: pairs = members ++ [(n, v)] ++ pairs := by simp
    have hset : setMembers members ((n, v) :: pairs) =
        setMembers (setMember n v members) pairs := rfl
    rw [hset, setMember_of_not_mem hnew, hassoc]
    rw [hassoc] at hnodup
    exact ih hnodup

theorem setMembers_nil (hnodup : (pairs.map (·.1)).Nodup) : setMembers [] pairs = pairs :=
  setMembers_of_nodup hnodup

end Members

/-! ## Names and depth -/

mutual

/-- Whether no object in a value has a name twice. -/
def Distinct : Json → Prop
  | .array items => DistinctItems items
  | .object members => (members.map (·.1)).Nodup ∧ DistinctMembers members
  | .null | .bool _ | .number _ | .text _ => True

def DistinctItems : List Json → Prop
  | [] => True
  | item :: items => item.Distinct ∧ DistinctItems items

def DistinctMembers : List (String × Json) → Prop
  | [] => True
  | (_, value) :: members => value.Distinct ∧ DistinctMembers members

end

theorem distinctItems_iff {items : List Json} :
    DistinctItems items ↔ ∀ item ∈ items, item.Distinct := by
  induction items with
  | nil => simp [DistinctItems]
  | cons item items ih => simp only [DistinctItems, ih, List.forall_mem_cons]

theorem distinct_texts (ss : List String) : (texts ss).Distinct := by
  refine distinctItems_iff.mpr fun item hitem => ?_
  obtain ⟨s, -, rfl⟩ := List.mem_map.mp hitem
  trivial

theorem distinctMembers_iff {members : List (String × Json)} :
    DistinctMembers members ↔ ∀ m ∈ members, m.2.Distinct := by
  induction members with
  | nil => simp [DistinctMembers]
  | cons m members ih => simp only [DistinctMembers, ih, List.forall_mem_cons]

theorem distinct_setMember {name : String} {value : Json} {members : List (String × Json)}
    (hdistinct : (object members).Distinct) (hvalue : value.Distinct) :
    (object (setMember name value members)).Distinct := by
  obtain ⟨hnodup, hvalues⟩ := hdistinct
  refine ⟨nodup_setMember hnodup, distinctMembers_iff.mpr fun m hm => ?_⟩
  rcases mem_of_mem_setMember hm with rfl | hm
  · exact hvalue
  · exact distinctMembers_iff.mp hvalues m hm

mutual

/-- The number of containers that stand in each other. -/
def depth : Json → Nat
  | .array items => itemsDepth items + 1
  | .object members => membersDepth members + 1
  | .null | .bool _ | .number _ | .text _ => 0

def itemsDepth : List Json → Nat
  | [] => 0
  | item :: items => max item.depth (itemsDepth items)

def membersDepth : List (String × Json) → Nat
  | [] => 0
  | (_, value) :: members => max value.depth (membersDepth members)

end

theorem membersDepth_le {members : List (String × Json)} {limit : Nat} :
    membersDepth members ≤ limit ↔ ∀ m ∈ members, m.2.depth ≤ limit := by
  induction members with
  | nil => simp [membersDepth]
  | cons m members ih => simp only [membersDepth, Nat.max_le, ih, List.forall_mem_cons]

end Json

/-! ## Values of documents -/

namespace Document

open Json

mutual

/-- The value of a written value is the value itself, unless it is too deep. -/
theorem toJson?_ofJson : (j : Json) → j.Distinct → (limit : Nat) →
    (ofJson j).toJson? limit = if j.depth ≤ limit then some j else none
  | .null, _, _ => rfl
  | .bool _, _, _ => rfl
  | .number _, _, _ => rfl
  | .text _, _, _ => rfl
  | .array items, _, 0 => rfl
  | .object members, _, 0 => rfl
  | .array items, hdistinct, limit + 1 => by
    simp only [Distinct] at hdistinct
    rw [ofJson, toJson?, itemsToJson?_ofItems items hdistinct limit, depth]
    by_cases hdepth : itemsDepth items ≤ limit <;> simp [hdepth]
  | .object members, hdistinct, limit + 1 => by
    simp only [Distinct] at hdistinct
    rw [ofJson, toJson?, membersToJson?_ofMembers members hdistinct.2 limit, depth]
    by_cases hdepth : membersDepth members ≤ limit
    · simp [hdepth, setMembers_nil hdistinct.1]
    · simp [hdepth]

theorem itemsToJson?_ofItems : (items : List Json) → DistinctItems items → (limit : Nat) →
    itemsToJson? limit (ofItems items) = if itemsDepth items ≤ limit then some items else none
  | [], _, _ => rfl
  | item :: items, hdistinct, limit => by
    simp only [DistinctItems] at hdistinct
    rw [ofItems, itemsToJson?, toJson?_ofJson item hdistinct.1 limit,
      itemsToJson?_ofItems items hdistinct.2 limit, itemsDepth]
    simp only [Nat.max_le]
    by_cases hitem : item.depth ≤ limit <;> by_cases hitems : itemsDepth items ≤ limit <;>
      simp [hitem, hitems]

theorem membersToJson?_ofMembers : (members : List (String × Json)) → DistinctMembers members →
    (limit : Nat) → membersToJson? limit (ofMembers members) =
      if membersDepth members ≤ limit then some members else none
  | [], _, _ => rfl
  | (name, value) :: members, hdistinct, limit => by
    simp only [DistinctMembers] at hdistinct
    rw [ofMembers, membersToJson?, toJson?_ofJson value hdistinct.1 limit,
      membersToJson?_ofMembers members hdistinct.2 limit, membersDepth]
    simp only [Nat.max_le]
    by_cases hvalue : value.depth ≤ limit <;> by_cases hmembers : membersDepth members ≤ limit <;>
      simp [hvalue, hmembers]

end

mutual

/-- The value of a document has no name twice, whatever is written. -/
theorem distinct_of_toJson? : (d : Document) → {limit : Nat} → {j : Json} →
    d.toJson? limit = some j → j.Distinct
  | .null, _, _, h => by
    cases Option.some.inj h
    trivial
  | .bool _, _, _, h => by
    cases Option.some.inj h
    trivial
  | .number value, _, _, h => by
    obtain ⟨n, -, rfl⟩ := Option.map_eq_some_iff.mp h
    trivial
  | .text value, _, _, h => by
    obtain ⟨s, -, rfl⟩ := Option.map_eq_some_iff.mp h
    trivial
  | .array items, 0, _, h => by cases h
  | .object members, 0, _, h => by cases h
  | .array items, limit + 1, _, h => by
    rw [toJson?] at h
    obtain ⟨values, hvalues, rfl⟩ := Option.map_eq_some_iff.mp h
    exact distinctItems_of_itemsToJson? items hvalues
  | .object members, limit + 1, _, h => by
    rw [toJson?] at h
    obtain ⟨values, hvalues, rfl⟩ := Option.map_eq_some_iff.mp h
    have hdistinct := distinctMembers_iff.mp (distinctMembers_of_membersToJson? members hvalues)
    refine ⟨nodup_setMembers List.nodup_nil, distinctMembers_iff.mpr fun m hm => ?_⟩
    rcases mem_of_mem_setMembers hm with hnil | hvalue
    · cases hnil
    · exact hdistinct m hvalue

theorem distinctItems_of_itemsToJson? : (items : List Document) → {limit : Nat} →
    {values : List Json} → itemsToJson? limit items = some values → DistinctItems values
  | [], _, _, h => by
    cases Option.some.inj h
    trivial
  | item :: items, _, _, h => by
    rw [itemsToJson?] at h
    obtain ⟨value, hvalue, h⟩ := Option.bind_eq_some_iff.mp h
    obtain ⟨values, hvalues, h⟩ := Option.bind_eq_some_iff.mp h
    cases Option.some.inj h
    exact ⟨distinct_of_toJson? item hvalue, distinctItems_of_itemsToJson? items hvalues⟩

theorem distinctMembers_of_membersToJson? : (members : List (Option String × Document)) →
    {limit : Nat} → {values : List (String × Json)} →
    membersToJson? limit members = some values → DistinctMembers values
  | [], _, _, h => by
    cases Option.some.inj h
    trivial
  | (name, item) :: members, _, _, h => by
    rw [membersToJson?] at h
    obtain ⟨name, -, h⟩ := Option.bind_eq_some_iff.mp h
    obtain ⟨value, hvalue, h⟩ := Option.bind_eq_some_iff.mp h
    obtain ⟨values, hvalues, h⟩ := Option.bind_eq_some_iff.mp h
    cases Option.some.inj h
    exact ⟨distinct_of_toJson? item hvalue, distinctMembers_of_membersToJson? members hvalues⟩

end

end Document

theorem Json.distinct_of_parse? {s : String} {j : Json} (hparse : Json.parse? s = some j) :
    j.Distinct := by
  obtain ⟨d, -, hvalue⟩ := Option.bind_eq_some_iff.mp hparse
  exact d.distinct_of_toJson? hvalue

end Medallion
