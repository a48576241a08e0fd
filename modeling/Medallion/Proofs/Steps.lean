import Medallion.Consult
import Mathlib.Data.List.Forall2

/-!
# Steps that succeed

A computation that is put together from steps succeeds if its steps do.  With one lemma for
each way to put steps together, a successful computation can be taken apart without looking
into the steps (`bind_eq_ok`, `Consult.bind_answer_eq_ok`).

A list of which every element succeeds stands in pairs with the list of answers
(`mapM_eq_ok`).  What such a list of answers has for an element, and that it is the only one,
is read off the pairs (`find?_eq_some_iff_of_forall₂`, `eq_of_forall₂`).

A computation that fails does so at one of its steps, and a list at the first of its elements
that fails (`bind_eq_error`, `mapM_eq_error`).
-/

namespace Medallion

variable {ε ε' α β : Type}

theorem bind_eq_ok {x : Except ε α} {f : α → Except ε β} {b : β} :
    x >>= f = .ok b ↔ ∃ a, x = .ok a ∧ f a = .ok b := by
  cases x with
  | error e => simp [bind, Except.bind]
  | ok a => simp [bind, Except.bind]

theorem mapError_eq_ok {x : Except ε α} {f : ε → ε'} {a : α} :
    x.mapError f = .ok a ↔ x = .ok a := by
  cases x <;> simp [Except.mapError]

theorem map_eq_ok {x : Except ε α} {f : α → β} {b : β} :
    x.map f = .ok b ↔ ∃ a, x = .ok a ∧ f a = b := by
  cases x <;> simp [Except.map]

theorem map_eq_error {x : Except ε α} {f : α → β} {e : ε} :
    x.map f = .error e ↔ x = .error e := by
  cases x <;> simp [Except.map]

/-- All of a list succeeds if every element does. -/
theorem mapM_eq_ok {f : α → Except ε β} {xs : List α} {ys : List β} :
    xs.mapM f = .ok ys ↔ List.Forall₂ (fun x y => f x = .ok y) xs ys := by
  induction xs generalizing ys with
  | nil =>
    rw [List.mapM_nil, List.forall₂_nil_left_iff]
    constructor
    · intro h
      exact (Except.ok.inj h).symm
    · rintro rfl
      rfl
  | cons x xs ih =>
    rw [List.mapM_cons, bind_eq_ok, List.forall₂_cons_left_iff]
    constructor
    · rintro ⟨y, hy, hrest⟩
      obtain ⟨ys', hys', hpure⟩ := bind_eq_ok.mp hrest
      exact ⟨y, ys', hy, ih.mp hys', (Except.ok.inj hpure).symm⟩
    · rintro ⟨y, ys', hy, hys', rfl⟩
      exact ⟨y, hy, bind_eq_ok.mpr ⟨ys', ih.mpr hys', rfl⟩⟩

theorem bind_eq_error {x : Except ε α} {f : α → Except ε β} {e : ε} :
    x >>= f = .error e ↔ x = .error e ∨ ∃ a, x = .ok a ∧ f a = .error e := by
  cases x with
  | error e' => simp [bind, Except.bind]
  | ok a => simp [bind, Except.bind]

theorem mapError_eq_error {x : Except ε α} {f : ε → ε'} {e : ε'} :
    x.mapError f = .error e ↔ ∃ e', x = .error e' ∧ f e' = e := by
  cases x <;> simp [Except.mapError]

/-- A list fails at the first of its elements that fails. -/
theorem mapM_eq_error {f : α → Except ε β} {xs : List α} {e : ε} :
    xs.mapM f = .error e ↔ ∃ before x after, xs = before ++ x :: after ∧
      (∀ x' ∈ before, ∃ y, f x' = .ok y) ∧ f x = .error e := by
  induction xs with
  | nil =>
    constructor
    · intro h
      cases h
    · rintro ⟨before, x, after, hxs, -⟩
      simp at hxs
  | cons first xs ih =>
    rw [List.mapM_cons, bind_eq_error]
    constructor
    · rintro (hfirst | ⟨y, hy, hrest⟩)
      · exact ⟨[], first, xs, rfl, by simp, hfirst⟩
      · rcases bind_eq_error.mp hrest with hxs | ⟨ys, -, hpure⟩
        · obtain ⟨before, x, after, rfl, hbefore, hx⟩ := ih.mp hxs
          exact ⟨first :: before, x, after, rfl, List.forall_mem_cons.mpr ⟨⟨y, hy⟩, hbefore⟩, hx⟩
        · cases hpure
    · rintro ⟨before, x, after, hxs, hbefore, hx⟩
      cases before with
      | nil =>
        obtain ⟨rfl, -⟩ := List.cons.inj hxs
        exact .inl hx
      | cons first' before =>
        obtain ⟨rfl, rfl⟩ := List.cons.inj hxs
        obtain ⟨⟨y, hy⟩, hbefore⟩ := List.forall_mem_cons.mp hbefore
        have hrest := ih.mpr ⟨before, x, after, rfl, hbefore, hx⟩
        exact .inr ⟨y, hy, bind_eq_error.mpr (.inl hrest)⟩

/-- A list that fails does so at one of its elements. -/
theorem exists_of_mapM_eq_error {f : α → Except ε β} {xs : List α} {e : ε}
    (h : xs.mapM f = .error e) : ∃ x ∈ xs, f x = .error e := by
  obtain ⟨before, x, after, rfl, -, hx⟩ := mapM_eq_error.mp h
  exact ⟨x, by simp, hx⟩

theorem exists_error_of_ne_ok {x : Except ε α} (h : ∀ a, x ≠ .ok a) : ∃ e, x = .error e := by
  cases x with
  | error e => exact ⟨e, rfl⟩
  | ok a => exact absurd rfl (h a)

theorem exists_of_forall₂_left {R : α → β → Prop} {xs : List α} {ys : List β} {x : α}
    (h : List.Forall₂ R xs ys) (hx : x ∈ xs) : ∃ y ∈ ys, R x y := by
  induction h with
  | nil => cases hx
  | cons hr _ ih =>
    rcases List.mem_cons.mp hx with rfl | hx
    · exact ⟨_, List.mem_cons_self, hr⟩
    · obtain ⟨y, hy, hxy⟩ := ih hx
      exact ⟨y, List.mem_cons_of_mem _ hy, hxy⟩

theorem mapM_error_iff {f : α → Except ε β} {xs : List α} :
    (∃ e, xs.mapM f = .error e) ↔ ∃ x ∈ xs, ∃ e, f x = .error e := by
  constructor
  · rintro ⟨e, he⟩
    obtain ⟨x, hx, hfails⟩ := exists_of_mapM_eq_error he
    exact ⟨x, hx, e, hfails⟩
  · rintro ⟨x, hx, e, hfails⟩
    apply exists_error_of_ne_ok
    intro ys hys
    obtain ⟨y, -, hy⟩ := exists_of_forall₂_left (mapM_eq_ok.mp hys) hx
    rw [hfails] at hy
    cases hy

theorem exists_of_forall₂_right {R : α → β → Prop} {xs : List α} {ys : List β} {y : β}
    (h : List.Forall₂ R xs ys) (hy : y ∈ ys) : ∃ x ∈ xs, R x y := by
  induction h with
  | nil => simp at hy
  | cons hr _ ih =>
    rcases List.mem_cons.mp hy with rfl | hy
    · exact ⟨_, List.mem_cons_self, hr⟩
    · obtain ⟨x, hx, hxy⟩ := ih hy
      exact ⟨x, List.mem_cons_of_mem _ hx, hxy⟩

theorem map_eq_map_of_forall₂ {γ : Type} {R : α → β → Prop} {f : β → γ} {g : α → γ}
    {xs : List α} {ys : List β} (hfg : ∀ x y, R x y → f y = g x) (h : List.Forall₂ R xs ys) :
    ys.map f = xs.map g := by
  induction h with
  | nil => rfl
  | cons hr _ ih => rw [List.map_cons, List.map_cons, hfg _ _ hr, ih]

/-- If elements with the same key have the same answer, so have lists with the same keys. -/
theorem eq_of_forall₂ {γ : Type} {key : α → γ} {R R' : α → β → Prop}
    (hsame : ∀ x x' y y', key x' = key x → R x y → R' x' y' → y' = y)
    {xs xs' : List α} {ys ys' : List β} (hkeys : xs'.map key = xs.map key)
    (h : List.Forall₂ R xs ys) (h' : List.Forall₂ R' xs' ys') : ys' = ys := by
  induction h generalizing xs' ys' with
  | nil =>
    rw [List.map_nil, List.map_eq_nil_iff] at hkeys
    subst hkeys
    exact List.forall₂_nil_left_iff.mp h'
  | cons hr _ ih =>
    cases h' with
    | nil => simp at hkeys
    | cons hr' hrest =>
      rw [List.map_cons, List.map_cons, List.cons.injEq] at hkeys
      rw [hsame _ _ _ _ hkeys.1 hr hr', ih hkeys.2 hrest]

/-- What a list of answers has under a name is the answer to that name. -/
theorem find?_eq_some_iff_of_forall₂ {f : String → Except ε β} {name : β → String}
    (hname : ∀ x y, f x = .ok y → name y = x) {xs : List String} {ys : List β}
    (h : List.Forall₂ (fun x y => f x = .ok y) xs ys) {x : String} {y : β} :
    ys.find? (fun y => name y == x) = some y ↔ x ∈ xs ∧ f x = .ok y := by
  induction h with
  | nil => simp
  | @cons x' y' xs ys hy' _ ih =>
    rw [List.find?_cons, hname x' y' hy']
    by_cases hx : x' = x
    · subst hx
      simp [hy']
    · rw [beq_false_of_ne hx, ih, List.mem_cons]
      simp [Ne.symm hx]

/-- There is an answer under a name if and only if the name has been asked for. -/
theorem isSome_find?_iff_of_forall₂ {f : String → Except ε β} {name : β → String}
    (hname : ∀ x y, f x = .ok y → name y = x) {xs : List String} {ys : List β}
    (h : List.Forall₂ (fun x y => f x = .ok y) xs ys) {x : String} :
    (ys.find? fun y => name y == x).isSome = true ↔ x ∈ xs := by
  rw [Option.isSome_iff_exists]
  constructor
  · rintro ⟨y, hy⟩
    exact ((find?_eq_some_iff_of_forall₂ hname h).mp hy).1
  · intro hx
    obtain ⟨y, -, hy⟩ := exists_of_forall₂_left h hx
    exact ⟨y, (find?_eq_some_iff_of_forall₂ hname h).mpr ⟨hx, hy⟩⟩

/-- Two optional values are the same if both are there or neither, and all values agree. -/
theorem eq_of_isSome_iff {x y : Option α}
    (hsome : y.isSome = true ↔ x.isSome = true)
    (hsame : ∀ v v', x = some v → y = some v' → v' = v) : y = x := by
  cases x with
  | none => simpa using hsome
  | some v =>
    cases y with
    | none => simp at hsome
    | some v' => rw [hsame v v' rfl rfl]

/-- What is found for the elements of a list goes with those for which something is found. -/
theorem forall₂_filterMap {f : α → Option β} {p : α → Bool} {xs : List α}
    (hp : ∀ x ∈ xs, p x = (f x).isSome) :
    List.Forall₂ (fun x y => f x = some y) (xs.filter p) (xs.filterMap f) := by
  induction xs with
  | nil => exact .nil
  | cons x xs ih =>
    have hrest := ih fun x' hx' => hp x' (List.mem_cons_of_mem x hx')
    have hx := hp x List.mem_cons_self
    cases hfound : f x with
    | none =>
      rw [hfound, Option.isSome_none] at hx
      rw [List.filter_cons_of_neg (by simp [hx]), List.filterMap_cons_none hfound]
      exact hrest
    | some y =>
      rw [hfound, Option.isSome_some] at hx
      rw [List.filter_cons_of_pos hx, List.filterMap_cons_some hfound]
      exact .cons hfound hrest

namespace Consult

theorem bind_answer_eq_ok {x : Consult α} {f : α → Consult β} {b : β} :
    (x >>= f).answer = .ok b ↔ ∃ a, x.answer = .ok a ∧ (f a).answer = .ok b := by
  obtain ⟨calls, answer⟩ := x
  cases answer with
  | error e => simp [error_bind]
  | ok a => simp [ok_bind]

theorem ofExcept_answer (answer : Except MapError α) : (ofExcept answer).answer = answer := rfl

theorem pure_answer (a : α) : (pure a : Consult α).answer = .ok a := rfl

end Consult

theorem Resolver.ask_answer (resolver : Resolver) (domain : String) (tier : Tier)
    (table : String) :
    (resolver.ask domain tier table).answer = (resolver domain tier table).answer := rfl

end Medallion
