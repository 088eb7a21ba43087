/-!
# Traversals that may fail, and tables

A traversal of a list looks at its items in order and fails as the first of them that fails. A table in which no key stands twice has
under a key what stands in its row.
-/

namespace Admission

/-- Where every key stands once, what is found under a key is the value of its row. -/
theorem lookup_eq_some_iff_mem_of_nodup {α β : Type} [BEq α] [LawfulBEq α] {rows : List (α × β)} (h : (rows.map Prod.fst).Nodup)
    (key : α) (b : β) : rows.lookup key = some b ↔ (key, b) ∈ rows := by
  induction rows with
  | nil => simp
  | cons row rest ih =>
    obtain ⟨k, c⟩ := row
    obtain ⟨hfresh, hrest⟩ := List.nodup_cons.1 h
    rw [List.lookup_cons, List.mem_cons, ← ih hrest]
    by_cases hkey : key = k
    · subst hkey
      have hnone : rest.lookup key ≠ some b := fun hb => hfresh (List.mem_map.2 ⟨(key, b), (ih hrest).1 hb, rfl⟩)
      simp [hnone, eq_comm]
    · simp [beq_eq_false_iff_ne.2 hkey, hkey]

theorem map_eq_error_iff {ε α β : Type} (f : α → β) (x : Except ε α) (e : ε) : x.map f = .error e ↔ x = .error e := by
  cases x <;> simp [Except.map]

theorem map_eq_ok_iff {ε α β : Type} (f : α → β) (x : Except ε α) (b : β) : x.map f = .ok b ↔ ∃ a, x = .ok a ∧ f a = b := by
  cases x <;> simp [Except.map]

theorem mapError_eq_ok_iff {ε δ α : Type} {f : ε → δ} {x : Except ε α} {a : α} : x.mapError f = .ok a ↔ x = .ok a := by
  cases x with
  | error e => exact ⟨nofun, nofun⟩
  | ok b => exact ⟨fun h => congrArg _ (Except.ok.inj h), fun h => congrArg _ (Except.ok.inj h)⟩

theorem mapError_eq_error_iff {ε δ α : Type} {f : ε → δ} {x : Except ε α} {e : δ} :
    x.mapError f = .error e ↔ ∃ e', x = .error e' ∧ f e' = e := by
  constructor
  · intro h
    cases x with
    | error e' => exact ⟨e', rfl, Except.error.inj h⟩
    | ok a => cases h
  · rintro ⟨e', rfl, rfl⟩
    rfl

/-- Two steps give a value exactly when the first gives one from which the second gives it. -/
theorem bind_eq_ok_iff {ε α β : Type} {x : Except ε α} {f : α → Except ε β} {b : β} :
    (x >>= f) = .ok b ↔ ∃ a, x = .ok a ∧ f a = .ok b := by
  cases x <;> simp [bind, Except.bind]

/-- A check has nothing to give: that it passes is all there is to tell of its result. -/
theorem eq_ok_of_isOk {ε : Type} {x : Except ε Unit} (h : x.isOk = true) : x = .ok () := by
  cases x with
  | error e => cases h
  | ok _ => rfl

section Traversal

variable {α β ε : Type}

/-- A traversal looks at the first item, and at the others only when it succeeds. -/
theorem mapM_cons_eq (f : α → Except ε β) (x : α) (xs : List α) :
    (x :: xs).mapM f =
      match f x with
      | .error e => .error e
      | .ok b => (xs.mapM f).map (b :: ·) := by
  rw [List.mapM_cons]
  cases f x with
  | error e => rfl
  | ok b => cases xs.mapM f <;> rfl

theorem mapM_congr {f g : α → Except ε β} {xs : List α} (h : ∀ x ∈ xs, f x = g x) : xs.mapM f = xs.mapM g := by
  induction xs with
  | nil => rfl
  | cons x xs ih => rw [mapM_cons_eq, mapM_cons_eq, h x List.mem_cons_self, ih fun y hy => h y (List.mem_cons_of_mem x hy)]

/-- A traversal of items that all succeed gives their results in order. -/
theorem mapM_of_forall_ok (f : α → Except ε β) (g : α → β) (xs : List α) (h : ∀ x ∈ xs, f x = .ok (g x)) :
    xs.mapM f = .ok (xs.map g) := by
  induction xs with
  | nil => rfl
  | cons x xs ih =>
    have ih := ih fun y hy => h y (List.mem_cons_of_mem x hy)
    rw [mapM_cons_eq, h x List.mem_cons_self, ih]
    rfl

/-- A traversal succeeds only when every item does. -/
theorem forall_ok_of_mapM {f : α → Except ε β} {xs : List α} {ys : List β} (h : xs.mapM f = .ok ys) :
    ∀ x ∈ xs, ∃ b, f x = .ok b := by
  induction xs generalizing ys with
  | nil => simp
  | cons x xs ih =>
    rw [mapM_cons_eq] at h
    cases hx : f x with
    | error e =>
      rw [hx] at h
      cases h
    | ok b =>
      rw [hx] at h
      obtain ⟨bs, hbs, -⟩ := (map_eq_ok_iff _ _ _).1 h
      intro y hy
      rcases List.mem_cons.1 hy with rfl | hy
      · exact ⟨b, hx⟩
      · exact ih hbs y hy

/-- A traversal fails exactly as the first item that fails. -/
theorem mapM_eq_error_iff (f : α → Except ε β) (xs : List α) (e : ε) :
    xs.mapM f = .error e ↔
      ∃ before x after, xs = before ++ x :: after ∧ (∀ y ∈ before, ∃ b, f y = .ok b) ∧ f x = .error e := by
  constructor
  · intro h
    induction xs with
    | nil => cases h
    | cons x xs ih =>
      rw [mapM_cons_eq] at h
      cases hx : f x with
      | error e' =>
        rw [hx] at h
        cases h
        exact ⟨[], x, xs, rfl, by simp, hx⟩
      | ok b =>
        rw [hx] at h
        obtain ⟨before, y, after, rfl, hbefore, hy⟩ := ih ((map_eq_error_iff _ _ _).1 h)
        refine ⟨x :: before, y, after, rfl, ?_, hy⟩
        intro z hz
        rcases List.mem_cons.1 hz with rfl | hz
        · exact ⟨b, hx⟩
        · exact hbefore z hz
  · rintro ⟨before, x, after, rfl, hbefore, hx⟩
    induction before with
    | nil => rw [List.nil_append, mapM_cons_eq, hx]
    | cons y before ih =>
      obtain ⟨b, hy⟩ := hbefore y List.mem_cons_self
      have ih := ih fun z hz => hbefore z (List.mem_cons_of_mem y hz)
      rw [List.cons_append, mapM_cons_eq, hy]
      exact (map_eq_error_iff _ _ _).2 ih

/-- Items that give nothing may be left out of a traversal whose results are joined. -/
theorem flatten_mapM_filter (f : α → Except ε (List β)) (p : α → Bool) (xs : List α)
    (h : ∀ x ∈ xs, p x = false → f x = .ok []) :
    (xs.mapM f).map List.flatten = ((xs.filter p).mapM f).map List.flatten := by
  induction xs with
  | nil => rfl
  | cons x xs ih =>
    have ih := ih fun y hy => h y (List.mem_cons_of_mem x hy)
    cases hp : p x with
    | false =>
      rw [List.filter_cons_of_neg (by simp [hp]), mapM_cons_eq, h x List.mem_cons_self hp, ← ih]
      cases xs.mapM f <;> rfl
    | true =>
      rw [List.filter_cons_of_pos hp, mapM_cons_eq, mapM_cons_eq]
      cases f x with
      | error e => rfl
      | ok b =>
        cases hxs : xs.mapM f <;> cases hfilter : (xs.filter p).mapM f <;> rw [hxs, hfilter] at ih <;>
          simp_all [Except.map]

end Traversal

end Admission
