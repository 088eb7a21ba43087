import Admission.Settings
import Admission.Proofs.TextParts

/-!
# Lists of origins

A setting lists origins as the items between its commas: each origin in an item of its own, with blanks around it, and blank items
wherever they stand. What is read off a setting is the only list of origins that it writes in this way (`origins_eq_iff_writes`), the
setting of a star alone included. So a list of origins survives however it is written, and what was read off a setting is read again off
the same origins joined with commas.
-/

namespace Admission.Settings

/-- An origin that can be listed: there is something of it, no comma in it, and no blank at its ends. -/
structure IsOrigin (origin : Text) : Prop where
  ne_nil : origin ≠ []
  no_comma : CodePoint.ofChar ',' ∉ origin
  isTrimmed : origin.IsTrimmed

/-- Items hold origins in their order: each origin is in an item of its own, between blanks, and all other items are blank. -/
inductive Hold : List Text → List Text → Prop where
  | nothing : Hold [] []
  | blank {item : Text} {items origins : List Text} (h : item.isBlank = true) (rest : Hold items origins) : Hold (item :: items) origins
  | origin {before origin after : Text} {items origins : List Text} (hbefore : before.isBlank = true) (hafter : after.isBlank = true)
      (rest : Hold items origins) : Hold ((before ++ (origin ++ after)) :: items) (origin :: origins)

/-- A setting writes origins when the items between its commas hold them. -/
def Writes (setting : Text) (origins : List Text) : Prop :=
  ∃ items, Hold items origins ∧ setting = Text.join [','] items

/-- The origins that items name: what is left of each that is not blank. -/
def named (items : List Text) : List Text := (items.map Text.strip).filter fun origin => !origin.isEmpty

variable {items origins : List Text}

/-! ## Items -/

theorem no_comma_of_isBlank {s : Text} (h : s.isBlank = true) : CodePoint.ofChar ',' ∉ s := by
  intro hcomma
  have hblank := List.all_eq_true.1 h _ hcomma
  revert hblank
  decide

theorem no_comma_append {before s after : Text} (hbefore : before.isBlank = true) (hs : CodePoint.ofChar ',' ∉ s)
    (hafter : after.isBlank = true) : CodePoint.ofChar ',' ∉ before ++ (s ++ after) := by
  simp only [List.mem_append, not_or]
  exact ⟨no_comma_of_isBlank hbefore, hs, no_comma_of_isBlank hafter⟩

theorem named_cons_of_isBlank {item : Text} (h : item.isBlank = true) (items : List Text) : named (item :: items) = named items := by
  have hstrip : item.strip = [] := (Text.strip_eq_nil_iff item).2 h
  simp [named, hstrip]

/-- An item of which something is left names that. -/
theorem named_cons_of_strip_ne_nil {item : Text} (h : item.strip ≠ []) (items : List Text) :
    named (item :: items) = item.strip :: named items := by
  simp [named, h]

/-- Items that hold origins name these. -/
theorem Hold.named_eq (h : Hold items origins) (horigins : ∀ o ∈ origins, IsOrigin o) :
    named items = origins := by
  induction h with
  | nothing => rfl
  | blank hblank _ ih => rw [named_cons_of_isBlank hblank, ih horigins]
  | origin hbefore hafter _ ih =>
    obtain ⟨horigin, hrest⟩ := List.forall_mem_cons.1 horigins
    have hstrip := horigin.isTrimmed.strip_append hbefore hafter
    rw [named_cons_of_strip_ne_nil (by rw [hstrip]; exact horigin.ne_nil), hstrip, ih hrest]

/-- Items hold what they name. -/
theorem hold_named (items : List Text) : Hold items (named items) := by
  induction items with
  | nil => exact .nothing
  | cons item items ih =>
    by_cases hblank : item.isBlank = true
    · rw [named_cons_of_isBlank hblank]
      exact .blank hblank ih
    · obtain ⟨before, after, hitem, hbefore, hafter⟩ := item.exists_strip
      rw [named_cons_of_strip_ne_nil (mt (Text.strip_eq_nil_iff item).1 hblank)]
      have hhold : Hold ((before ++ (item.strip ++ after)) :: items) (item.strip :: named items) := .origin hbefore hafter ih
      rwa [← hitem] at hhold

/-- What items without commas name are origins. -/
theorem isOrigin_of_mem_named (hitems : ∀ item ∈ items, CodePoint.ofChar ',' ∉ item) :
    ∀ o ∈ named items, IsOrigin o := by
  intro o ho
  obtain ⟨hmem, hne⟩ := List.mem_filter.1 ho
  obtain ⟨item, hitem, rfl⟩ := List.mem_map.1 hmem
  refine ⟨by simpa using hne, fun hcomma => hitems item hitem ?_, item.isTrimmed_strip⟩
  obtain ⟨before, after, heq, -, -⟩ := item.exists_strip
  rw [heq]
  exact List.mem_append_right _ (List.mem_append_left _ hcomma)

/-- Items that hold origins have no commas. -/
theorem Hold.no_comma (h : Hold items origins) (horigins : ∀ o ∈ origins, IsOrigin o) :
    ∀ item ∈ items, CodePoint.ofChar ',' ∉ item := by
  induction h with
  | nothing => exact List.forall_mem_nil _
  | blank hblank _ ih => exact List.forall_mem_cons.2 ⟨no_comma_of_isBlank hblank, ih horigins⟩
  | origin hbefore hafter _ ih =>
    obtain ⟨horigin, hrest⟩ := List.forall_mem_cons.1 horigins
    exact List.forall_mem_cons.2 ⟨no_comma_append hbefore horigin.no_comma hafter, ih hrest⟩

/-! ## Settings -/

/-- What a setting lists is what the items between its commas name, also where a star alone is read before it is split. -/
theorem originsOf_eq (setting : Text) : originsOf setting = named (Text.splitOn ',' setting) := by
  rw [originsOf]
  split
  · next hstar =>
    -- A star between blanks has no comma around it, so it is the only item.
    obtain ⟨before, after, hsetting, hbefore, hafter⟩ := setting.exists_strip
    have hcomma : CodePoint.ofChar ',' ∉ setting := by
      rw [hsetting, hstar]
      exact no_comma_append hbefore (by decide) hafter
    have hne : setting.strip ≠ [] := by
      rw [hstar]
      decide
    rw [Text.splitOn_of_not_mem hcomma, named_cons_of_strip_ne_nil hne, hstar]
    rfl
  · rfl

/-- A setting that writes origins lists them. -/
theorem originsOf_of_writes {setting : Text} (h : Writes setting origins) (horigins : ∀ o ∈ origins, IsOrigin o) :
    originsOf setting = origins := by
  obtain ⟨items, hhold, rfl⟩ := h
  rw [originsOf_eq]
  by_cases hitems : items = []
  · -- No items at all are written as the empty text, which has one blank item.
    subst hitems
    cases hhold
    rfl
  · rw [Text.splitOn_join hitems (hhold.no_comma horigins), hhold.named_eq horigins]

/-- A setting writes what it lists. -/
theorem writes_originsOf (setting : Text) : Writes setting (originsOf setting) := by
  rw [originsOf_eq]
  exact ⟨Text.splitOn ',' setting, hold_named _, (Text.join_splitOn _ _).symm⟩

theorem isOrigin_of_mem_originsOf (setting : Text) : ∀ o ∈ originsOf setting, IsOrigin o := by
  rw [originsOf_eq]
  exact isOrigin_of_mem_named fun item hitem => Text.not_mem_of_mem_splitOn hitem

/-- Origins joined with commas are one way of writing them. -/
theorem writes_join (origins : List Text) : Writes (Text.join [','] origins) origins := by
  refine ⟨origins, ?_, rfl⟩
  induction origins with
  | nil => exact .nothing
  | cons origin origins ih =>
    have hhold : Hold (([] ++ (origin ++ [])) :: origins) (origin :: origins) := .origin rfl rfl ih
    rwa [List.nil_append, List.append_nil] at hhold

/-- The origins of settings are a given list exactly when all in the list are origins and the setting writes them, in whatever way: blanks
around an origin and blank items before, between and behind the origins change nothing, and an item of a star is as any other. And
whatever the setting, its origins joined with commas are a setting of the same origins. -/
theorem origins_eq_iff_writes (s : Settings) :
    (∀ listed, s.origins = listed ↔ (∀ o ∈ listed, IsOrigin o) ∧ Writes s.corsOrigins listed) ∧
      ({ s with corsOrigins := Text.join [','] s.origins } : Settings).origins = s.origins := by
  refine ⟨fun listed => ⟨?_, ?_⟩, ?_⟩
  · rintro rfl
    exact ⟨isOrigin_of_mem_originsOf s.corsOrigins, writes_originsOf s.corsOrigins⟩
  · rintro ⟨horigins, hwrites⟩
    exact originsOf_of_writes hwrites horigins
  · exact originsOf_of_writes (writes_join s.origins) (isOrigin_of_mem_originsOf s.corsOrigins)

/-- A star among blank items and other origins is one of them. -/
example :
    originsOf ",, https://myapp.com\t, * ,https://api.myapp.com , " =
      (["https://myapp.com", "*", "https://api.myapp.com"] : List Text) := by
  decide

end Admission.Settings
