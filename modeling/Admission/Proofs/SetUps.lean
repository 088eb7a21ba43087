import Admission.Log.Setup
import Admission.Proofs.Traversal
import Mathlib.Data.List.Induction

/-!
# Setting up the log again and again

What one set-up does is told by whether a level is selected (`setUp_of_selects`, `setUp_of_isRefused`): the handler is replaced in
either case, and the level changes in one. From this comes what any run of set-ups leaves behind (`run_setUps`): one handler, in the
form that the latest set-up asked for, and the level of the latest one that was not refused.
-/

namespace Admission.Log

/-- A name selects a level: the one that it names when its letters are written as capitals, or that of `INFO` when it names nothing. -/
inductive Selects (name : Text) : Nat → Prop where
  | named {n : Nat} (h : (name.upper, LevelEntry.level n) ∈ levelEntries) : Selects name n
  | unnamed (h : name.upper ∉ levelEntries.map Prod.fst) : Selects name 20

/-- The names that stand for something that is no level. -/
def refusedNames : List Text := ["BASIC_FORMAT", "_STYLES"]

/-- A name is refused when it stands for no level, letter case disregarded. -/
def IsRefused (name : Text) : Prop := name.upper ∈ refusedNames

theorem nodup_levelEntries : (levelEntries.map Prod.fst).Nodup := by decide

/-- What a name stands for is a level exactly when the name selects it. -/
theorem levelEntry_eq_level_iff (name : Text) (n : Nat) : levelEntry name = .level n ↔ Selects name n := by
  rw [levelEntry]
  cases hentry : levelEntries.lookup name.upper with
  | none =>
    have hnone : name.upper ∉ levelEntries.map Prod.fst := by
      intro hmem
      obtain ⟨⟨key, entry⟩, hrow, hkey⟩ := List.mem_map.1 hmem
      dsimp only at hkey
      rw [← hkey, (lookup_eq_some_iff_mem_of_nodup nodup_levelEntries key entry).2 hrow] at hentry
      cases hentry
    constructor
    · intro h
      cases h
      exact .unnamed hnone
    · intro h
      cases h with
      | named h => exact absurd (List.mem_map.2 ⟨_, h, rfl⟩) hnone
      | unnamed _ => rfl
  | some entry =>
    have hrow : (name.upper, entry) ∈ levelEntries := (lookup_eq_some_iff_mem_of_nodup nodup_levelEntries _ _).1 hentry
    constructor
    · intro h
      have hlevel : entry = .level n := h
      exact .named (hlevel ▸ hrow)
    · intro h
      cases h with
      | named h =>
        have heq := hentry.symm.trans ((lookup_eq_some_iff_mem_of_nodup nodup_levelEntries _ _).2 h)
        exact Option.some.inj heq
      | unnamed h => exact absurd (List.mem_map.2 ⟨_, hrow, rfl⟩) h

/-- What stands under a name that is not refused is a level. -/
theorem exists_level_of_mem : ∀ row ∈ levelEntries, row.1 ∈ refusedNames ∨ ∃ n ∈ [50, 40, 30, 20, 10, 0], row.2 = .level n := by
  decide

/-- What stands under a name that is refused is no level. -/
theorem no_level_of_mem : ∀ row ∈ levelEntries, row.1 ∈ refusedNames → row.2 = .unknown defaultLayout ∨ row.2 = .foreign layouts := by
  decide +kernel

/-- Every name selects a level or is refused, and none does both. -/
theorem exists_selects_iff (name : Text) : (∃ n, Selects name n) ↔ ¬ IsRefused name := by
  constructor
  · rintro ⟨n, hn⟩ hrefused
    cases hn with
    | named h => rcases no_level_of_mem _ h hrefused with hentry | hentry <;> cases hentry
    | unnamed h =>
      have hnamed : ∀ key ∈ refusedNames, key ∈ levelEntries.map Prod.fst := by decide
      exact h (hnamed _ hrefused)
  · intro h
    by_cases hname : name.upper ∈ levelEntries.map Prod.fst
    · obtain ⟨⟨key, entry⟩, hrow, hkey⟩ := List.mem_map.1 hname
      dsimp only at hkey
      rcases exists_level_of_mem _ hrow with hrefused | ⟨n, -, hn⟩
      · rw [IsRefused, ← hkey] at h
        exact absurd hrefused h
      · dsimp only at hn
        exact ⟨n, .named (hkey ▸ hn ▸ hrow)⟩
    · exact ⟨20, .unnamed hname⟩

namespace State

/-- The log after set-ups, each by a level and a format, those that are refused included. -/
def run (s : State) (calls : List (Text × Text)) : State := calls.foldl (fun s c => (s.setUp c.1 c.2).2) s

/-- The handlers that others have installed. -/
def foreign (s : State) : List Handler := s.handlers.filter fun h => !h.isOurs

theorem run_concat (s : State) (calls : List (Text × Text)) (c : Text × Text) :
    s.run (calls ++ [c]) = ((s.run calls).setUp c.1 c.2).2 := by
  rw [run, List.foldl_append]
  rfl

/-! ## One set-up -/

/-- A set-up by a level that a name selects installs the handler and selects the level. -/
theorem setUp_of_selects (s : State) {level : Text} {n : Nat} (h : Selects level n) (format : Text) :
    s.setUp level format = (.ok (), { s.install format with level := n }) := by
  simp only [setUp, (levelEntry_eq_level_iff level n).2 h]

/-- A set-up by a name that is refused installs the handler all the same, and fails. -/
theorem setUp_of_isRefused (s : State) {level : Text} (h : IsRefused level) (format : Text) :
    ∃ f, s.setUp level format = (.error f, s.install format) := by
  simp only [setUp]
  cases hentry : levelEntry level with
  | level n => exact absurd h ((exists_selects_iff level).1 ⟨n, (levelEntry_eq_level_iff level n).1 hentry⟩)
  | unknown text => exact ⟨_, rfl⟩
  | foreign shown => exact ⟨_, rfl⟩

/-- What a set-up installs is one handler in the form that its format asks for. -/
theorem installed_install (s : State) (format : Text) :
    (s.install format).installed = [{ name := some handlerName, form := .ofFormat format }] := by
  have hnone : (s.handlers.filter fun h => !h.isOurs).filter Handler.isOurs = [] := by
    rw [List.filter_filter, List.filter_eq_nil_iff]
    intro h _
    simp
  rw [installed, install, List.filter_append, hnone]
  rfl

theorem foreign_install (s : State) (format : Text) : (s.install format).foreign = s.foreign := by
  have hours : [({ name := some handlerName, form := .ofFormat format } : Handler)].filter (fun h => !h.isOurs) = [] := rfl
  rw [foreign, install, List.filter_append, List.filter_filter, hours, List.append_nil, foreign]
  simp

/-- The handlers behind a set-up are those of its installation, whether it fails or not. -/
theorem handlers_setUp (s : State) (level format : Text) : (s.setUp level format).2.handlers = (s.install format).handlers := by
  by_cases h : IsRefused level
  · obtain ⟨f, hsetUp⟩ := s.setUp_of_isRefused h format
    rw [hsetUp]
  · obtain ⟨n, hn⟩ := (exists_selects_iff level).2 h
    rw [s.setUp_of_selects hn format]

/-- A set-up fails exactly when its level is refused, whatever the log is like. -/
theorem setUp_fails_iff (s : State) (level format : Text) : (∃ f, (s.setUp level format).1 = .error f) ↔ IsRefused level := by
  constructor
  · rintro ⟨f, hf⟩
    by_contra h
    obtain ⟨n, hn⟩ := (exists_selects_iff level).2 h
    rw [s.setUp_of_selects hn format] at hf
    cases hf
  · intro h
    obtain ⟨f, hsetUp⟩ := s.setUp_of_isRefused h format
    exact ⟨f, congrArg Prod.fst hsetUp⟩

/-! ## Runs of set-ups -/

/-- A set-up is the latest of a run that was not refused, when its level is not and all those behind it were. -/
def IsLatest (c : Text × Text) (n : Nat) (calls : List (Text × Text)) : Prop :=
  Selects c.1 n ∧ ∃ before later, calls = before ++ c :: later ∧ ∀ d ∈ later, IsRefused d.1

/-- Behind a run stands the level that the latest set-up selected that was not refused, or the level that stood in front of the run
where all of them were refused. -/
theorem level_run (s : State) (calls : List (Text × Text)) :
    (∃ c, IsLatest c (s.run calls).level calls) ∨ (∀ c ∈ calls, IsRefused c.1) ∧ (s.run calls).level = s.level := by
  induction calls using List.reverseRecOn with
  | nil => exact .inr ⟨List.forall_mem_nil _, rfl⟩
  | append_singleton calls c ih =>
    rw [run_concat]
    by_cases hc : IsRefused c.1
    · -- A set-up that is refused leaves the level and the latest set-up as they are.
      obtain ⟨f, hsetUp⟩ := (s.run calls).setUp_of_isRefused hc c.2
      have hlevel : ((s.run calls).setUp c.1 c.2).2.level = (s.run calls).level := by
        rw [hsetUp]
        rfl
      have hlast : ∀ d ∈ [c], IsRefused d.1 := List.forall_mem_singleton.2 hc
      rw [hlevel]
      rcases ih with ⟨d, hselects, before, later, rfl, hlater⟩ | ⟨hall, hsame⟩
      · refine .inl ⟨d, hselects, before, later ++ [c], ?_, List.forall_mem_append.2 ⟨hlater, hlast⟩⟩
        rw [List.append_assoc, List.cons_append]
      · exact .inr ⟨List.forall_mem_append.2 ⟨hall, hlast⟩, hsame⟩
    · obtain ⟨n, hn⟩ := (exists_selects_iff c.1).2 hc
      rw [(s.run calls).setUp_of_selects hn c.2]
      exact .inl ⟨c, hn, calls, [], rfl, List.forall_mem_nil _⟩

theorem foreign_run (s : State) (calls : List (Text × Text)) : (s.run calls).foreign = s.foreign := by
  induction calls using List.reverseRecOn with
  | nil => rfl
  | append_singleton calls c ih => rw [run_concat, foreign, handlers_setUp, ← foreign, foreign_install, ih]

/-- The log behind any run of set-ups, whatever it was like before and whichever of the set-ups failed, of which `c` is the latest:
one handler is installed, and it writes JSON exactly when `c` asks for it; the level is the one that the latest set-up selected that was
not refused, and the one in front of the run where there was none. The handlers of others are as they were, and what fails is what is
refused. -/
theorem run_setUps (s : State) (calls : List (Text × Text)) (c : Text × Text) :
    (∃ h, (s.run (calls ++ [c])).installed = [h] ∧ (h.form = .json ↔ c.2 = Text.ofString "json")) ∧
      ((∃ d, IsLatest d (s.run (calls ++ [c])).level (calls ++ [c])) ∨
        (∀ d ∈ calls ++ [c], IsRefused d.1) ∧ (s.run (calls ++ [c])).level = s.level) ∧
      (s.run (calls ++ [c])).foreign = s.foreign ∧
      ((∃ f, ((s.run calls).setUp c.1 c.2).1 = .error f) ↔ IsRefused c.1) := by
  refine ⟨⟨{ name := some handlerName, form := .ofFormat c.2 }, ?_, ?_⟩, s.level_run _, s.foreign_run _, ?_⟩
  · rw [run_concat, installed, handlers_setUp, ← installed, installed_install]
  · rw [Form.ofFormat]
    split_ifs with h <;> simp [h]
  · exact (s.run calls).setUp_fails_iff c.1 c.2

/-- A handler of another and a set-up that is refused: the handler stays, and so does the level of the set-up before. -/
example :
    let s : State := { handlers := [{ name := none, form := .text }], level := 30 }
    (s.run [("debug", "json"), ("basic_format", "text")]).handlers =
        [{ name := none, form := .text }, { name := some handlerName, form := .text }] ∧
      (s.run [("debug", "json"), ("basic_format", "text")]).level = 10 := by
  decide +kernel

end State

end Admission.Log
