import Mathlib.Data.List.Forall2

/-!
# Results step by step

A computation that may fail is taken apart at its steps: what it gives, and what it fails with.  So
is a row of them.
-/

namespace ServiceStubs

variable {ε α β : Type} {x : Except ε α} {b : β} {e : ε}

theorem bind_eq_ok {f : α → Except ε β} : x >>= f = .ok b ↔ ∃ a, x = .ok a ∧ f a = .ok b := by
  cases x with
  | error e' => simp [bind, Except.bind]
  | ok a => simp [bind, Except.bind]

/-- Two steps go well only if each does. -/
theorem eq_ok_of_bind {f : α → Except ε β} (h : x >>= f = .ok b) :
    ∃ a, x = .ok a ∧ f a = .ok b :=
  bind_eq_ok.mp h

/-- The first step fails, or the second does. -/
theorem bind_eq_error {f : α → Except ε β} :
    x >>= f = .error e ↔ x = .error e ∨ ∃ a, x = .ok a ∧ f a = .error e := by
  cases x with
  | error e' => simp [bind, Except.bind]
  | ok a => simp [bind, Except.bind]

theorem map_eq_ok {f : α → β} : x.map f = .ok b ↔ ∃ a, x = .ok a ∧ f a = b := by
  cases x with
  | error e' => simp [Except.map]
  | ok a => simp [Except.map]

theorem map_eq_error {f : α → β} : x.map f = .error e ↔ x = .error e := by
  cases x with
  | error e' => simp [Except.map]
  | ok a => simp [Except.map]

/-! ## Rows of steps -/

variable {f : α → Except ε β} {as : List α} {bs : List β}

/-- Every result of a row comes from a step of it. -/
theorem exists_of_mapM_eq_ok (h : as.mapM f = .ok bs) (hb : b ∈ bs) : ∃ a ∈ as, f a = .ok b := by
  induction as generalizing bs with
  | nil =>
    cases h
    exact absurd hb List.not_mem_nil
  | cons a as ih =>
    rw [List.mapM_cons] at h
    obtain ⟨first, hfirst, h⟩ := eq_ok_of_bind h
    obtain ⟨rest, hrest, h⟩ := eq_ok_of_bind h
    cases h
    rcases List.mem_cons.mp hb with rfl | hb
    · exact ⟨a, List.mem_cons_self, hfirst⟩
    · obtain ⟨a', ha', hstep⟩ := ih hrest hb
      exact ⟨a', List.mem_cons_of_mem a ha', hstep⟩

/-- A row fails with what a step of it fails with. -/
theorem exists_of_mapM_eq_error (h : as.mapM f = .error e) : ∃ a ∈ as, f a = .error e := by
  induction as with
  | nil => cases h
  | cons a as ih =>
    rw [List.mapM_cons, bind_eq_error] at h
    rcases h with hfirst | ⟨first, -, h⟩
    · exact ⟨a, List.mem_cons_self, hfirst⟩
    · rw [bind_eq_error] at h
      rcases h with hrest | ⟨rest, -, h⟩
      · obtain ⟨a', ha', hstep⟩ := ih hrest
        exact ⟨a', List.mem_cons_of_mem a ha', hstep⟩
      · cases h

/-- A row goes well only if every step of it does. -/
theorem forall_of_mapM_eq_ok (h : as.mapM f = .ok bs) : ∀ a ∈ as, ∃ b ∈ bs, f a = .ok b := by
  induction as generalizing bs with
  | nil => exact List.forall_mem_nil _
  | cons a as ih =>
    rw [List.mapM_cons] at h
    obtain ⟨first, hfirst, h⟩ := eq_ok_of_bind h
    obtain ⟨rest, hrest, h⟩ := eq_ok_of_bind h
    cases h
    refine List.forall_mem_cons.mpr ⟨⟨first, List.mem_cons_self, hfirst⟩, fun a' ha' => ?_⟩
    obtain ⟨b, hb, hstep⟩ := ih hrest a' ha'
    exact ⟨b, List.mem_cons_of_mem first hb, hstep⟩

/-- Steps that give the same where others go well give the same row. -/
theorem mapM_eq_ok_of_imp {g : α → Except ε β} (h : as.mapM f = .ok bs)
    (hg : ∀ a ∈ as, ∀ b, f a = .ok b → g a = .ok b) : as.mapM g = .ok bs := by
  induction as generalizing bs with
  | nil => exact h
  | cons a as ih =>
    obtain ⟨hfirst, hrest⟩ := List.forall_mem_cons.mp hg
    rw [List.mapM_cons] at h ⊢
    obtain ⟨b, hb, h⟩ := eq_ok_of_bind h
    obtain ⟨rest, hrow, h⟩ := eq_ok_of_bind h
    exact bind_eq_ok.mpr ⟨b, hfirst b hb, bind_eq_ok.mpr ⟨rest, ih hrow hrest, h⟩⟩

/-- A row of steps that go well goes well. -/
theorem exists_mapM_eq_ok (h : ∀ a ∈ as, ∃ b, f a = .ok b) : ∃ bs, as.mapM f = .ok bs := by
  cases hrow : as.mapM f with
  | ok bs => exact ⟨bs, rfl⟩
  | error e =>
    obtain ⟨a, ha, hstep⟩ := exists_of_mapM_eq_error hrow
    obtain ⟨b, hb⟩ := h a ha
    rw [hb] at hstep
    cases hstep

/-! ## Rows side by side -/

theorem exists_mem_of_forall₂ {γ δ : Type*} {R : γ → δ → Prop} {c : γ} {cs : List γ} {ds : List δ}
    (h : List.Forall₂ R cs ds) (hc : c ∈ cs) : ∃ d ∈ ds, R c d := by
  induction h with
  | nil => cases hc
  | cons hfirst _ ih =>
    rcases List.mem_cons.mp hc with rfl | hc
    · exact ⟨_, List.mem_cons_self, hfirst⟩
    · obtain ⟨d, hd, hR⟩ := ih hc
      exact ⟨d, List.mem_cons_of_mem _ hd, hR⟩

/-! ## Rows with gaps -/

/-- What is left out adds nothing. -/
theorem flatMap_filter_eq {α β : Type} {p : α → Bool} {f g : α → List β} {as : List α}
    (hout : ∀ a ∈ as, p a = false → g a = []) (hin : ∀ a ∈ as, p a = true → f a = g a) :
    (as.filter p).flatMap f = as.flatMap g := by
  induction as with
  | nil => rfl
  | cons a as ih =>
    obtain ⟨houta, hout⟩ := List.forall_mem_cons.mp hout
    obtain ⟨hina, hin⟩ := List.forall_mem_cons.mp hin
    rw [List.flatMap_cons, ← ih hout hin]
    cases hp : p a with
    | false => rw [List.filter_cons_of_neg (Bool.eq_false_iff.mp hp), houta hp, List.nil_append]
    | true => rw [List.filter_cons_of_pos hp, List.flatMap_cons, hina hp]

end ServiceStubs
