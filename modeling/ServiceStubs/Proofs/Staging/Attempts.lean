import Mathlib.Data.Finset.Card
import ServiceStubs.Proofs.Staging

/-!
# Attempts to stage

A staging outlives a refusal: whoever is refused a unit can go on with the next one, or come back
with the same.  Whatever row of units is tried, the first unit of each name is staged, every later
one is refused, and a refusal leaves the staging as it was.
-/

namespace ServiceStubs.Staging

variable {s : Staging} {unit : GeneratedUnit} {units : List GeneratedUnit}

/-- An attempt to stage a unit: the answer, and the staging that is left.  The name is entered among
those that are taken before it is known whether it was free. -/
def attempt (s : Staging) (unit : GeneratedUnit) : Except Fault Unit × Staging :=
  let entered : Staging := { s with taken := s.taken.insert unit.name }
  if s.taken.contains unit.name then (.error (.duplicateUnit unit.name), entered)
  else (.ok (), { entered with units := s.units ++ [unit] })

/-- The staging that a row of attempts leaves, granted or refused. -/
def afterAttempts (units : List GeneratedUnit) : Staging :=
  units.foldl (fun s unit => (s.attempt unit).2) empty

theorem afterAttempts_concat (units : List GeneratedUnit) (unit : GeneratedUnit) :
    afterAttempts (units ++ [unit]) = ((afterAttempts units).attempt unit).2 :=
  List.foldl_concat _ _ _ _

/-! ## One attempt -/

/-- A name that is taken is not entered a second time. -/
theorem attempt_of_mem (h : unit.name ∈ s.taken) :
    s.attempt unit = (.error (.duplicateUnit unit.name), s) := by
  have hentered : s.taken.insert unit.name = s.taken := List.insert_of_mem h
  rw [attempt, if_pos (List.contains_iff_mem.mpr h), hentered]

theorem attempt_of_not_mem (h : unit.name ∉ s.taken) :
    s.attempt unit = (.ok (), ⟨unit.name :: s.taken, s.units ++ [unit]⟩) := by
  have hentered : s.taken.insert unit.name = unit.name :: s.taken := List.insert_of_not_mem h
  rw [attempt, if_neg (mt List.contains_iff_mem.mp h), hentered]

/-- To add a unit is to attempt it, and to go on only if that is granted. -/
theorem add_eq_attempt (s : Staging) (unit : GeneratedUnit) :
    s.add unit = (s.attempt unit).1.map fun _ => (s.attempt unit).2 := by
  by_cases h : unit.name ∈ s.taken
  · rw [attempt_of_mem h, add, if_pos (List.contains_iff_mem.mpr h)]
    rfl
  · rw [attempt_of_not_mem h, add, if_neg (mt List.contains_iff_mem.mp h)]
    rfl

/-! ## A row of attempts -/

/-- The staging holds the first unit of each name of a row, in the order of these. -/
structure HoldsFirsts (s : Staging) (units : List GeneratedUnit) : Prop where
  consistent : s.Consistent
  names : s.units.map GeneratedUnit.name = (units.map GeneratedUnit.name).eraseDups
  first : ∀ unit ∈ s.units, units.find? (·.name == unit.name) = some unit

namespace HoldsFirsts

theorem mem_taken (h : s.HoldsFirsts units) (name : String) :
    name ∈ s.taken ↔ name ∈ units.map GeneratedUnit.name := by
  rw [h.consistent.mem_taken, h.names, List.mem_eraseDups]

/-- What comes later in the row is the first of no name that came before. -/
theorem find?_append (h : s.HoldsFirsts units) (more : List GeneratedUnit) :
    ∀ unit ∈ s.units, (units ++ more).find? (·.name == unit.name) = some unit := by
  intro unit hunit
  rw [List.find?_append, h.first unit hunit, Option.some_or]

theorem concat_of_mem (h : s.HoldsFirsts units) (hname : unit.name ∈ units.map GeneratedUnit.name) :
    s.HoldsFirsts (units ++ [unit]) := by
  refine ⟨h.consistent, ?_, h.find?_append [unit]⟩
  have hnothing : [unit.name].removeAll (units.map GeneratedUnit.name) = [] := by
    simpa [List.removeAll] using hname
  rw [h.names, List.map_append, List.map_singleton, List.eraseDups_append, hnothing,
    List.eraseDups_nil, List.append_nil]

theorem concat_of_not_mem (h : s.HoldsFirsts units)
    (hname : unit.name ∉ units.map GeneratedUnit.name) :
    HoldsFirsts ⟨unit.name :: s.taken, s.units ++ [unit]⟩ (units ++ [unit]) := by
  have hnew : unit.name ∉ s.units.map GeneratedUnit.name := by
    rwa [h.names, List.mem_eraseDups]
  have htaken : unit.name ∉ s.taken := mt (h.mem_taken unit.name).mp hname
  obtain ⟨t, hadd, hconsistent, -⟩ := h.consistent.add_of_not_mem hnew
  rw [add_eq_attempt, attempt_of_not_mem htaken] at hadd
  obtain rfl := Except.ok.inj hadd
  refine ⟨hconsistent, ?_, ?_⟩
  · have hsingle : [unit.name].removeAll (units.map GeneratedUnit.name) = [unit.name] := by
      simpa [List.removeAll] using hname
    rw [List.map_append, List.map_append, h.names, List.map_singleton, List.eraseDups_append,
      hsingle, List.eraseDups_cons, List.filter_nil, List.eraseDups_nil]
  · intro staged hstaged
    rcases List.mem_append.mp hstaged with hstaged | hstaged
    · exact h.find?_append [unit] staged hstaged
    · obtain rfl := List.mem_singleton.mp hstaged
      have hnone : units.find? (·.name == staged.name) = none := by
        rw [List.find?_eq_none]
        intro other hother heq
        exact hname (eq_of_beq heq ▸ List.mem_map_of_mem hother)
      rw [List.find?_append, hnone, Option.none_or]
      exact List.find?_cons_of_pos (beq_self_eq_true _)

end HoldsFirsts

/-- By induction on the row, from its end: the last attempt is granted or refused. -/
theorem holdsFirsts_afterAttempts (units : List GeneratedUnit) :
    (afterAttempts units).HoldsFirsts units := by
  induction units using List.reverseRecOn with
  | nil => exact ⟨consistent_empty, rfl, List.forall_mem_nil _⟩
  | append_singleton units unit ih =>
    rw [afterAttempts_concat]
    by_cases hname : unit.name ∈ units.map GeneratedUnit.name
    · rw [attempt_of_mem ((ih.mem_taken _).mpr hname)]
      exact ih.concat_of_mem hname
    · rw [attempt_of_not_mem (mt (ih.mem_taken _).mp hname)]
      exact ih.concat_of_not_mem hname

/-- Let any row of units be tried on an empty staging.  The names that are taken are those of the
staged units, no two of these are equal, and there are as many as different names in the row.  One
more unit is refused just if the row has its name, and then nothing changes; adding it is the same
attempt.  What is handed over has the names of the row in the order of their first occurrence, each
with its first unit. -/
theorem first_of_each_name_is_staged (units : List GeneratedUnit) :
    let s := afterAttempts units
    (∀ name, name ∈ s.taken ↔ name ∈ s.units.map GeneratedUnit.name) ∧
    (s.units.map GeneratedUnit.name).Nodup ∧
    s.size = (units.map GeneratedUnit.name).toFinset.card ∧
    (∀ unit, s.attempt unit =
        if unit.name ∈ units.map GeneratedUnit.name then (.error (.duplicateUnit unit.name), s)
        else (.ok (), ⟨unit.name :: s.taken, s.units ++ [unit]⟩)) ∧
    (∀ unit, s.add unit = (s.attempt unit).1.map fun _ => afterAttempts (units ++ [unit])) ∧
    s.commit.map GeneratedUnit.name = (units.map GeneratedUnit.name).eraseDups ∧
    ∀ unit ∈ s.commit, units.find? (·.name == unit.name) = some unit := by
  intro s
  have hfirsts : s.HoldsFirsts units := holdsFirsts_afterAttempts units
  have hnodup := hfirsts.consistent.nodup
  refine ⟨hfirsts.consistent.mem_taken, hnodup, ?_, ?_, ?_, hfirsts.names, hfirsts.first⟩
  · have hsame : (s.units.map GeneratedUnit.name).toFinset =
        (units.map GeneratedUnit.name).toFinset := by
      ext name
      rw [List.mem_toFinset, List.mem_toFinset, hfirsts.names, List.mem_eraseDups]
    rw [← hsame, List.toFinset_card_of_nodup hnodup, List.length_map, size]
  · intro unit
    split_ifs with hname
    · exact attempt_of_mem ((hfirsts.mem_taken _).mpr hname)
    · exact attempt_of_not_mem (mt (hfirsts.mem_taken _).mp hname)
  · intro unit
    rw [afterAttempts_concat]
    exact add_eq_attempt s unit

/-- A name is tried again after a refusal, and another one between the two. -/
theorem first_of_each_name_is_staged_retried :
    let units : List GeneratedUnit :=
      [⟨"a.rs", "1"⟩, ⟨"b.rs", "2"⟩, ⟨"a.rs", "3"⟩, ⟨"a.rs", "3"⟩, ⟨"c.rs", "4"⟩, ⟨"b.rs", "2"⟩]
    let s := afterAttempts units
    s.commit = [⟨"a.rs", "1"⟩, ⟨"b.rs", "2"⟩, ⟨"c.rs", "4"⟩] ∧
      s.size = (units.map GeneratedUnit.name).toFinset.card ∧
      (⟨"c.rs", "4"⟩ : GeneratedUnit) ∈ s.commit ∧
      units.find? (·.name == "c.rs") = some ⟨"c.rs", "4"⟩ := by
  intro units s
  have hmem : (⟨"c.rs", "4"⟩ : GeneratedUnit) ∈ s.commit := by decide
  obtain ⟨-, -, hsize, -, -, -, hfirst⟩ := first_of_each_name_is_staged units
  exact ⟨by decide, hsize, hmem, hfirst _ hmem⟩

end ServiceStubs.Staging
