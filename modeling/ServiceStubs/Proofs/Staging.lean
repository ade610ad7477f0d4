import Mathlib.Data.List.Nodup
import ServiceStubs.Proofs.Result
import ServiceStubs.Staging

/-!
# Staged names differ

Staging keeps its two parts in step: the names that are taken are those of the staged units, and no
two of these are equal.  So a row of units is either staged as a whole, or refused for the first of
its names that repeats an earlier one.
-/

namespace ServiceStubs

/-- The name is the first of the list that repeats an earlier one. -/
def FirstRepeat (names : List String) (name : String) : Prop :=
  ∃ before after, names = before ++ name :: after ∧ before.Nodup ∧ name ∈ before

namespace FirstRepeat

variable {names : List String} {name other : String}

theorem not_nodup (h : FirstRepeat names name) : ¬ names.Nodup := by
  intro hnodup
  obtain ⟨before, after, rfl, -, hmem⟩ := h
  exact (List.nodup_append.mp hnodup).2.2 name hmem name List.mem_cons_self rfl

/-- Names that differ up to one cannot repeat before it. -/
theorem eq_of_append_eq {before after before' after' : List String}
    (heq : before ++ name :: after = before' ++ other :: after') (hmem : name ∈ before)
    (hnodup : before'.Nodup) (hlength : before.length ≤ before'.length) : name = other := by
  obtain ⟨middle, rfl⟩ : before <+: before' :=
    List.prefix_of_prefix_length_le ⟨name :: after, heq⟩ (List.prefix_append _ _) hlength
  rw [List.append_assoc] at heq
  have hmiddle := List.append_cancel_left heq
  cases middle with
  | nil => exact (List.cons.inj hmiddle).1
  | cons first middle =>
    obtain rfl := (List.cons.inj hmiddle).1
    exact absurd rfl ((List.nodup_append.mp hnodup).2.2 name hmem name List.mem_cons_self)

theorem unique (h : FirstRepeat names name) (h' : FirstRepeat names other) : name = other := by
  obtain ⟨before, after, rfl, hnodup, hmem⟩ := h
  obtain ⟨before', after', heq, hnodup', hmem'⟩ := h'
  rcases Nat.le_total before.length before'.length with hlength | hlength
  · exact eq_of_append_eq heq hmem hnodup' hlength
  · exact (eq_of_append_eq heq.symm hmem' hnodup hlength).symm

/-- Names that differ come before the one that repeats. -/
theorem mem_of_nodup {earlier : List String} (h : FirstRepeat (earlier ++ names) name)
    (hnodup : earlier.Nodup) : name ∈ names := by
  obtain ⟨before, after, heq, -, hmem⟩ := h
  rcases List.append_eq_append_iff.mp heq with ⟨middle, -, hnames⟩ | ⟨middle, hearlier, hnames⟩
  · rw [hnames]
    exact List.mem_append_right _ List.mem_cons_self
  · cases middle with
    | nil =>
      rw [List.nil_append] at hnames
      rw [← hnames]
      exact List.mem_cons_self
    | cons first middle =>
      obtain rfl := (List.cons.inj hnames).1
      rw [hearlier] at hnodup
      exact absurd rfl ((List.nodup_append.mp hnodup).2.2 name hmem name List.mem_cons_self)

end FirstRepeat

namespace Staging

/-- The names that are taken are those of the staged units, each of them once. -/
structure Consistent (s : Staging) : Prop where
  mem_taken : ∀ name, name ∈ s.taken ↔ name ∈ s.units.map GeneratedUnit.name
  nodup : (s.units.map GeneratedUnit.name).Nodup

theorem consistent_empty : empty.Consistent := by
  constructor
  · intro name
    rfl
  · exact List.nodup_nil

namespace Consistent

variable {s : Staging} {unit : GeneratedUnit}

theorem add_of_mem (h : s.Consistent) (hname : unit.name ∈ s.units.map GeneratedUnit.name) :
    s.add unit = .error (.duplicateUnit unit.name) := by
  have htaken : s.taken.contains unit.name = true :=
    List.contains_iff_mem.mpr ((h.mem_taken unit.name).mpr hname)
  rw [add, if_pos htaken]

theorem add_of_not_mem (h : s.Consistent) (hname : unit.name ∉ s.units.map GeneratedUnit.name) :
    ∃ t, s.add unit = .ok t ∧ t.Consistent ∧ t.units = s.units ++ [unit] := by
  have htaken : ¬ s.taken.contains unit.name = true := by
    intro hcontains
    exact hname ((h.mem_taken unit.name).mp (List.contains_iff_mem.mp hcontains))
  refine ⟨⟨unit.name :: s.taken, s.units ++ [unit]⟩, ?_, ⟨?_, ?_⟩, rfl⟩
  · rw [add, if_neg htaken]
  · intro name
    simp only [List.mem_cons, List.map_append, List.map_cons, List.map_nil, List.mem_append,
      List.not_mem_nil, or_false, h.mem_taken name]
    exact or_comm
  · rw [List.map_append, List.nodup_append]
    refine ⟨h.nodup, List.nodup_singleton _, ?_⟩
    intro a ha b hb hab
    obtain rfl : b = unit.name := by simpa using hb
    exact hname (hab ▸ ha)

/-- What a whole row of units leads to, from what one unit does. -/
theorem addAll (h : s.Consistent) (units : List GeneratedUnit) :
    (∃ t, s.addAll units = .ok t ∧ t.Consistent ∧ t.units = s.units ++ units) ∨
      ∃ name, FirstRepeat ((s.units ++ units).map GeneratedUnit.name) name ∧
        s.addAll units = .error (.duplicateUnit name) := by
  induction units generalizing s with
  | nil =>
    left
    exact ⟨s, rfl, h, (List.append_nil _).symm⟩
  | cons unit units ih =>
    by_cases hname : unit.name ∈ s.units.map GeneratedUnit.name
    · right
      refine ⟨unit.name, ⟨s.units.map GeneratedUnit.name, units.map GeneratedUnit.name, ?_,
        h.nodup, hname⟩, ?_⟩
      · rw [List.map_append, List.map_cons]
      · rw [Staging.addAll, h.add_of_mem hname]
        rfl
    · obtain ⟨t, hadd, ht, hunits⟩ := h.add_of_not_mem hname
      have hrun : s.addAll (unit :: units) = t.addAll units := by
        rw [Staging.addAll, hadd]
        rfl
      have happend : t.units ++ units = s.units ++ unit :: units := by
        rw [hunits, List.append_assoc, List.singleton_append]
      rw [hrun, ← happend]
      exact ih ht

end Consistent

end Staging

end ServiceStubs
