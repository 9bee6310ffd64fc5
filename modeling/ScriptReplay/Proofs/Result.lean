import Mathlib.Data.List.Forall2

/-!
# Results of steps that may fail

When a sequence of steps that may fail goes through, and what it gives then.
-/

namespace ScriptReplay

variable {ε α β : Type}

theorem bind_eq_ok {result : Except ε α} {next : α → Except ε β} {b : β} :
    (result >>= next) = .ok b ↔ ∃ a, result = .ok a ∧ next a = .ok b := by
  cases result with
  | error error => exact ⟨nofun, fun ⟨_, h, _⟩ => nomatch h⟩
  | ok a => exact ⟨fun h => ⟨a, rfl, h⟩, fun ⟨_, ha, h⟩ => by cases ha; exact h⟩

theorem bind_eq_error {result : Except ε α} {next : α → Except ε β} {error : ε} :
    (result >>= next) = .error error ↔
      result = .error error ∨ ∃ a, result = .ok a ∧ next a = .error error := by
  cases result with
  | error found =>
    refine ⟨fun h => .inl (congrArg Except.error (Except.error.inj h)), ?_⟩
    rintro (h | ⟨b, hb, -⟩)
    · exact congrArg Except.error (Except.error.inj h)
    · cases hb
  | ok a =>
    refine ⟨fun h => .inr ⟨a, rfl, h⟩, ?_⟩
    rintro (h | ⟨b, hb, h⟩)
    · cases h
    · cases hb
      exact h

/-- A step that only makes something of a result has the error of the step before. -/
theorem bind_pure_eq_error {result : Except ε α} {f : α → β} {error : ε} :
    (result >>= fun a => pure (f a)) = .error error ↔ result = .error error := by
  rw [bind_eq_error]
  refine ⟨?_, .inl⟩
  rintro (h | ⟨a, -, h⟩)
  · exact h
  · cases h

theorem mapM_eq_ok_iff {f : α → Except ε β} {list : List α} {bs : List β} :
    list.mapM f = .ok bs ↔ List.Forall₂ (fun a b => f a = .ok b) list bs := by
  induction list generalizing bs with
  | nil =>
    rw [List.forall₂_nil_left_iff]
    exact ⟨fun h => (Except.ok.inj h).symm, fun h => congrArg Except.ok h.symm⟩
  | cons a rest ih =>
    rw [List.mapM_cons, bind_eq_ok, List.forall₂_cons_left_iff]
    constructor
    · rintro ⟨b, hb, h⟩
      obtain ⟨later, hlater, h⟩ := bind_eq_ok.1 h
      cases h
      exact ⟨b, later, hb, ih.1 hlater, rfl⟩
    · rintro ⟨b, later, hb, hlater, rfl⟩
      exact ⟨b, hb, bind_eq_ok.2 ⟨later, ih.2 hlater, rfl⟩⟩

theorem exists_mem_of_mapM {f : α → Except ε β} {list : List α} {bs : List β}
    (h : list.mapM f = .ok bs) {b : β} (hb : b ∈ bs) : ∃ a ∈ list, f a = .ok b := by
  induction mapM_eq_ok_iff.1 h with
  | nil => cases hb
  | cons hfirst hrest ih =>
    rcases List.mem_cons.1 hb with rfl | hb
    · exact ⟨_, List.mem_cons_self, hfirst⟩
    · obtain ⟨a, ha, hfound⟩ := ih (mapM_eq_ok_iff.2 hrest) hb
      exact ⟨a, List.mem_cons_of_mem _ ha, hfound⟩

/-- The error of a sequence of steps is that of one of them. -/
theorem exists_mem_of_mapM_eq_error {f : α → Except ε β} {list : List α} {error : ε}
    (h : list.mapM f = .error error) : ∃ a ∈ list, f a = .error error := by
  induction list with
  | nil => cases h
  | cons a rest ih =>
    rw [List.mapM_cons, bind_eq_error] at h
    rcases h with h | ⟨b, -, h⟩
    · exact ⟨a, List.mem_cons_self, h⟩
    · rcases bind_eq_error.1 h with h | ⟨later, -, h⟩
      · obtain ⟨found, hmem, hfound⟩ := ih h
        exact ⟨found, List.mem_cons_of_mem _ hmem, hfound⟩
      · cases h

theorem mapM_eq_ok_map {f : α → Except ε β} {g : α → β} {list : List α}
    (h : ∀ a ∈ list, f a = .ok (g a)) : list.mapM f = .ok (list.map g) := by
  rw [mapM_eq_ok_iff, List.forall₂_map_right_iff, List.forall₂_same]
  exact h

/-- Whether a question is answered with yes. -/
def affirms : Except ε Bool → Bool
  | .ok answer => answer
  | .error _ => false

theorem filterAuxM_eq_ok_iff {f : α → Except ε Bool} {list picked kept : List α} :
    list.filterAuxM f kept = .ok picked ↔
      (∀ a ∈ list, ∃ answer, f a = .ok answer) ∧
        picked = (list.filter fun a => affirms (f a)).reverse ++ kept := by
  induction list generalizing kept with
  | nil => exact ⟨fun h => ⟨nofun, (Except.ok.inj h).symm⟩, fun h => congrArg Except.ok h.2.symm⟩
  | cons a rest ih =>
    rw [List.filterAuxM, bind_eq_ok, List.forall_mem_cons, List.filter_cons]
    constructor
    · rintro ⟨answer, hanswer, h⟩
      obtain ⟨hrest, hpicked⟩ := ih.1 h
      refine ⟨⟨⟨answer, hanswer⟩, hrest⟩, ?_⟩
      rw [hpicked, hanswer]
      cases answer <;> simp [affirms]
    · rintro ⟨⟨⟨answer, hanswer⟩, hrest⟩, hpicked⟩
      refine ⟨answer, hanswer, ih.2 ⟨hrest, ?_⟩⟩
      rw [hpicked, hanswer]
      cases answer <;> simp [affirms]

/-- Elements are picked by a question where it is answered for all of them. -/
theorem filterM_eq_ok_iff {f : α → Except ε Bool} {list picked : List α} :
    list.filterM f = .ok picked ↔
      (∀ a ∈ list, ∃ answer, f a = .ok answer) ∧ picked = list.filter fun a => affirms (f a) := by
  unfold List.filterM
  rw [bind_eq_ok]
  constructor
  · rintro ⟨reversed, hreversed, h⟩
    obtain ⟨hanswers, rfl⟩ := filterAuxM_eq_ok_iff.1 hreversed
    cases h
    simpa using hanswers
  · rintro ⟨hanswers, rfl⟩
    refine ⟨_, filterAuxM_eq_ok_iff.2 ⟨hanswers, rfl⟩, ?_⟩
    rw [List.append_nil, List.reverse_reverse]
    rfl

end ScriptReplay
