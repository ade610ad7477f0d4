import ServiceStubs.Extraction

/-!
# What extraction keeps

The services of a snapshot are those of its candidates, class by class.  Candidates without a name
are left out, and these alone give rise to notices.
-/

namespace ServiceStubs.Extraction

variable {services : String} {target : Option String} {snapshot : Snapshot} {cs : List ClassDecl}

theorem value_ofClasses (services : String) (target : Option String) (cs : List ClassDecl) :
    (ofClasses services target cs).value =
      (cs.filter fun c => isCandidate services c && !c.name.isEmpty).map (serviceOf target) := by
  induction cs with
  | nil => rfl
  | cons c cs ih =>
    rw [ofClasses]
    cases hcandidate : isCandidate services c with
    | false => simp [hcandidate, ih]
    | true =>
      cases hempty : c.name.isEmpty with
      | true => simp [hcandidate, hempty, ih]
      | false => simp [hcandidate, hempty, ih]

/-- Where all classes have names, there is nothing to notice. -/
theorem ofClasses_of_named (h : ∀ c ∈ cs, c.name ≠ "") :
    ofClasses services target cs =
      pure ((cs.filter (isCandidate services)).map (serviceOf target)) := by
  induction cs with
  | nil => rfl
  | cons c cs ih =>
    obtain ⟨hc, hcs⟩ := List.forall_mem_cons.mp h
    have hname : ¬ c.name.isEmpty = true := by rwa [String.isEmpty_iff]
    rw [ofClasses, ih hcs, if_neg hname]
    by_cases hcandidate : isCandidate services c = true
    · rw [if_pos hcandidate, List.filter_cons_of_pos hcandidate]
      rfl
    · rw [if_neg hcandidate, List.filter_cons_of_neg hcandidate]

/-- Classes elsewhere are passed over without a notice. -/
theorem ofClasses_filter_scope (services : String) (target : Option String)
    (cs : List ClassDecl) :
    ofClasses services target (cs.filter (·.scope == services)) = ofClasses services target cs := by
  induction cs with
  | nil => rfl
  | cons c cs ih =>
    by_cases hscope : (c.scope == services) = true
    · rw [List.filter_cons, if_pos hscope, ofClasses, ofClasses, ih]
    · have helsewhere : ¬ isCandidate services c = true := by
        rw [isCandidate, Bool.and_eq_true]
        exact fun h => hscope h.1
      rw [List.filter_cons, if_neg hscope, ih, ofClasses, if_neg helsewhere]

/-- All services come from the namespace they were looked for in. -/
theorem sourceNamespace_of_mem_extract {s : Service}
    (h : s ∈ (extract services target snapshot).value) : s.sourceNamespace = services := by
  rw [extract, value_ofClasses] at h
  obtain ⟨c, hc, rfl⟩ := List.mem_map.mp h
  have hcandidate := (List.mem_filter.mp hc).2
  simp only [isCandidate, Bool.and_eq_true, beq_iff_eq] at hcandidate
  exact hcandidate.1.1

end ServiceStubs.Extraction
