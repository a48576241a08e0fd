import Medallion.Proofs.Artifact.Sources
import Mathlib.Data.List.Permutation

/-!
# The kinds of sources

The source of a column is written without a mark of its kind, and a reader that has an object in
front of it tries the kinds one after the other.  The members of the object alone decide between
the three.

* `ColumnSource.directOf?_eq_some`: a direct source is read from exactly a name and a data type,
  in either order (`ColumnSource.IsDirectObject`).
* `object_read_as_source`: every object is read as one of the three kinds, and a function keeps
  all that the object has.  What is read is written as the object that it was read from, and a
  direct source as one that is read as the same source again.

The limit on the depth is left open: it is 124 in a mapping set and 127 in a text of its own, and
a value that does not come from a text has no limit but its own depth.
-/

namespace Medallion

open Document (ofJson)

/-! ## Names and data types -/

theorem DataType.ofName?_eq_some {s : String} {type : DataType} :
    DataType.ofName? s = some type ↔ s = type.name := by
  constructor
  · intro h
    have hname := List.find?_some h
    exact (beq_iff_eq.mp hname).symm
  · rintro rfl
    exact DataType.ofName?_name type

namespace Document

theorem text?_ofJson_eq_some {value : Json} {s : String} :
    (ofJson value).text? = some s ↔ value = .text s := by
  rw [text?_ofJson]
  cases value <;> simp [Json.text?]

/-- A data type is read from its name, and from an object that has null under its name. -/
theorem choice?_ofJson_eq_some {value : Json} {type : DataType} :
    (ofJson value).choice? DataType.ofName? = some type ↔
      value = .text type.name ∨ value = .object [(type.name, .null)] := by
  cases value with
  | text s => simp [ofJson, choice?, DataType.ofName?_eq_some]
  | object members =>
    rcases members with _ | ⟨⟨n, v⟩, _ | ⟨m', rest⟩⟩
    · simp [ofJson, ofMembers, choice?]
    · cases v <;> simp [ofJson, ofMembers, choice?, DataType.ofName?_eq_some]
    · simp [ofJson, ofMembers, choice?]
  | _ => simp [ofJson, choice?]

end Document

namespace ColumnSource

/-! ## What each kind is read from -/

section Kinds

variable {members : List (String × Json)} {source : ColumnSource} {name : String}
  {type : DataType}

/-- Whether an object has a name, which is a text, and a type, and no other member.  The type is
the name of a data type, or an object that has null under this name and nothing else. -/
def IsDirectObject (members : List (String × Json)) (name : String) (type : DataType) : Prop :=
  ∃ value : Json, members.Perm [("name", .text name), ("type", value)] ∧
    (value = .text type.name ∨ value = .object [(type.name, .null)])

/-- A name and a type, whichever comes first, are a direct source if both can be read. -/
theorem directOf?_pair {n t : Json}
    (hpair : members = [("name", n), ("type", t)] ∨ members = [("type", t), ("name", n)]) :
    directOf? (ofJson (.object members)) = some source ↔
      ∃ name type, source = .direct name type ∧ n = .text name ∧
        (t = .text type.name ∨ t = .object [(type.name, .null)]) := by
  have hread : directOf? (ofJson (.object members)) =
      (ofJson n).text?.bind fun name =>
        ((ofJson t).choice? DataType.ofName?).bind fun type => some (.direct name type) := by
    rcases hpair with rfl | rfl <;> rfl
  rw [hread]
  simp only [Option.bind_eq_some_iff, Document.text?_ofJson_eq_some,
    Document.choice?_ofJson_eq_some, Option.some.injEq]
  constructor
  · rintro ⟨name, hname, type, htype, rfl⟩
    exact ⟨name, type, rfl, hname, htype⟩
  · rintro ⟨name, type, rfl, hname, htype⟩
    exact ⟨name, hname, type, htype, rfl⟩

/-- Only objects of two members with these names are tried as a direct source. -/
theorem pair_of_directOf? (hread : directOf? (ofJson (.object members)) = some source) :
    ∃ n t, members = [("name", n), ("type", t)] ∨ members = [("type", t), ("name", n)] := by
  match members with
  | [] => simp [Document.ofJson, Document.ofMembers, directOf?] at hread
  | [m] => simp [Document.ofJson, Document.ofMembers, directOf?] at hread
  | m :: m' :: m'' :: rest => simp [Document.ofJson, Document.ofMembers, directOf?] at hread
  | [(k, v), (k', v')] =>
    by_cases hname : k = "name" ∧ k' = "type"
    · obtain ⟨rfl, rfl⟩ := hname
      exact ⟨v, v', .inl rfl⟩
    · by_cases htype : k = "type" ∧ k' = "name"
      · obtain ⟨rfl, rfl⟩ := htype
        exact ⟨v', v, .inr rfl⟩
      · simp only [Document.ofJson, Document.ofMembers, directOf?] at hread
        split at hread <;> simp_all

/-- A direct source is read from exactly a name and a data type. -/
theorem directOf?_eq_some :
    directOf? (ofJson (.object members)) = some source ↔
      ∃ name type, source = .direct name type ∧ IsDirectObject members name type := by
  constructor
  · intro hread
    obtain ⟨n, t, hpair⟩ := pair_of_directOf? hread
    obtain ⟨name, type, hsource, rfl, htype⟩ := (directOf?_pair hpair).mp hread
    exact ⟨name, type, hsource, t, List.perm_pair.mpr hpair, htype⟩
  · rintro ⟨name, type, hsource, t, hperm, htype⟩
    have hpair := List.perm_pair.mp hperm
    exact (directOf?_pair hpair).mpr ⟨name, type, hsource, rfl, htype⟩

namespace IsDirectObject

theorem ne_nil (hobject : IsDirectObject members name type) : members ≠ [] := by
  obtain ⟨value, hperm, -⟩ := hobject
  rintro rfl
  have hlength := hperm.length_eq
  simp at hlength

/-- An object is that of one direct source at most. -/
theorem unique {name' : String} {type' : DataType} (hobject : IsDirectObject members name type)
    (hobject' : IsDirectObject members name' type') : direct name type = direct name' type' := by
  have hread := directOf?_eq_some.mpr ⟨name, type, rfl, hobject⟩
  have hread' := directOf?_eq_some.mpr ⟨name', type', rfl, hobject'⟩
  exact Option.some.inj (hread.symm.trans hread')

end IsDirectObject

/-- The three ways in which an object is read. -/
theorem readWithin?_cases {depth : Nat} (hdistinct : (Json.object members).Distinct)
    (hdepth : (Json.object members).depth ≤ depth) :
    (∃ name type, IsDirectObject members name type ∧
        readWithin? depth (ofJson (.object members)) = some (.direct name type)) ∨
      (members = [] ∧ readWithin? depth (ofJson (.object members)) = some .empty) ∨
      (members ≠ [] ∧ (∀ name type, ¬ IsDirectObject members name type) ∧
        readWithin? depth (ofJson (.object members)) = some (.function members)) := by
  rw [readWithin?_object hdistinct, if_pos hdepth]
  cases hdirect : directOf? (ofJson (.object members)) with
  | some source =>
    obtain ⟨name, type, rfl, hobject⟩ := directOf?_eq_some.mp hdirect
    exact .inl ⟨name, type, hobject, rfl⟩
  | none =>
    have hother (name : String) (type : DataType) : ¬ IsDirectObject members name type := by
      intro hobject
      have hread := directOf?_eq_some.mpr ⟨name, type, rfl, hobject⟩
      rw [hdirect] at hread
      cases hread
    cases members with
    | nil => exact .inr (.inl ⟨rfl, rfl⟩)
    | cons m members => exact .inr (.inr ⟨List.cons_ne_nil m members, hother, rfl⟩)

end Kinds

end ColumnSource

open ColumnSource

/-! ## Every object is a source -/

/-- An object without repeated names is read as a source wherever there is room for it: as a
direct one if it has exactly a name and a data type, as an empty one if it has no members, and
as a function with all its members, in their order, if it is neither.  An empty source and a
function are written as the object that they were read from, and a direct source as an object
that is read as the same source. -/
theorem object_read_as_source {members : List (String × Json)} {depth : Nat}
    (hdistinct : (Json.object members).Distinct) (hdepth : (Json.object members).depth ≤ depth) :
    ∃ source, readWithin? depth (ofJson (.object members)) = some source ∧
      (∀ name type, source = .direct name type ↔ IsDirectObject members name type) ∧
      (source = .empty ↔ members = []) ∧
      (members ≠ [] → (∀ name type, ¬ IsDirectObject members name type) →
        source = .function members) ∧
      ((∀ name type, source ≠ .direct name type) → source.toJson = .object members) ∧
      ∀ name type, source = .direct name type →
        readWithin? depth (ofJson source.toJson) = some source := by
  have hroom : 0 < depth := lt_of_lt_of_le (Nat.succ_pos _) hdepth
  rcases readWithin?_cases hdistinct hdepth with ⟨name, type, hobject, hread⟩ |
    ⟨hnil, hread⟩ | ⟨hne, hother, hread⟩
  · have hdirect (name' : String) (type' : DataType) :
        direct name type = direct name' type' ↔ IsDirectObject members name' type' := by
      constructor
      · rintro ⟨⟩
        exact hobject
      · exact hobject.unique
    have hne := hobject.ne_nil
    refine ⟨_, hread, hdirect, by simp [hne], fun _ hother => ?_, fun hother => ?_, ?_⟩
    · exact absurd hobject (hother name type)
    · exact absurd rfl (hother name type)
    · intro _ _ _
      exact readWithin?_direct name type hroom
  · subst hnil
    have hother (name : String) (type : DataType) : ¬ IsDirectObject [] name type :=
      fun hobject => hobject.ne_nil rfl
    exact ⟨_, hread, by simp [hother], by simp, by simp, fun _ => rfl, by simp⟩
  · exact ⟨_, hread, by simp [hother], by simp [hne], fun _ _ => rfl, fun _ => rfl, by simp⟩

/-! ## An object that is nearly a direct source -/

namespace NearDirect

/-- A direct source with its type in front, given as an object. -/
def swapped : List (String × Json) :=
  [("type", .object [("long", .null)]), ("name", .text "id")]

/-- One member more makes it a function. -/
def noted : List (String × Json) := swapped ++ [("note", .null)]

theorem distinct : (Json.object swapped).Distinct ∧ (Json.object noted).Distinct := by
  simp [swapped, noted, Json.Distinct, Json.DistinctMembers]

theorem isDirectObject_swapped : IsDirectObject swapped "id" .long :=
  ⟨.object [("long", .null)], List.Perm.swap _ _ [], .inr rfl⟩

theorem not_isDirectObject_noted (name : String) (type : DataType) :
    ¬ IsDirectObject noted name type := by
  rintro ⟨value, hperm, -⟩
  have hlength := hperm.length_eq
  simp [noted, swapped] at hlength

end NearDirect

theorem object_read_as_source_nearDirect :
    readWithin? 2 (ofJson (.object NearDirect.swapped)) = some (.direct "id" .long) ∧
      readWithin? 2 (ofJson (.object NearDirect.noted)) = some (.function NearDirect.noted) := by
  have hroom : (Json.object NearDirect.swapped).depth ≤ 2 ∧
      (Json.object NearDirect.noted).depth ≤ 2 := by decide
  obtain ⟨source, hread, hdirect, -⟩ :=
    object_read_as_source NearDirect.distinct.1 hroom.1
  obtain ⟨other, hread', -, -, hfunction, -⟩ :=
    object_read_as_source NearDirect.distinct.2 hroom.2
  have hsource := (hdirect "id" .long).mpr NearDirect.isDirectObject_swapped
  have hother := hfunction (by simp [NearDirect.noted]) NearDirect.not_isDirectObject_noted
  rw [hread, hread', hsource, hother]
  exact ⟨rfl, rfl⟩

end Medallion
