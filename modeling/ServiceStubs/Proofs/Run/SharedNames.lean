import ServiceStubs.Proofs.Extraction
import ServiceStubs.Proofs.Result
import ServiceStubs.Proofs.Service.ModelUnit
import ServiceStubs.Run.Basic

/-!
# Classes that share a name

The model of a namespace is made of its public classes that have a name.  Two of them with the same
name cannot be told apart: the first that repeats the name of an earlier one ends the pipeline.
Otherwise their model is written into one unit.  No other class has any part in this, be it hidden,
without a name, or in a namespace below.
-/

namespace ServiceStubs

/-- The class has a part in the model of the namespace. -/
structure ClassDecl.IsModelled (c : ClassDecl) (services : String) : Prop where
  scope : c.scope = services
  visibility : c.visibility = .everywhere
  name : c.name ≠ ""

instance (c : ClassDecl) (services : String) : Decidable (c.IsModelled services) :=
  decidable_of_iff (c.scope = services ∧ c.visibility = .everywhere ∧ c.name ≠ "")
    ⟨fun h => ⟨h.1, h.2.1, h.2.2⟩, fun h => ⟨h.scope, h.visibility, h.name⟩⟩

namespace Extraction

/-! ## The first class that repeats a name -/

/-- The class at this position has a part in the model, and so has an earlier class of its name. -/
structure Repeats (services : String) (classes : List ClassDecl) (j : Nat) (c : ClassDecl) :
    Prop where
  at_position : classes[j]? = some c
  modelled : c.IsModelled services
  earlier : ∃ i < j, ∃ e, classes[i]? = some e ∧ e.IsModelled services ∧ e.name = c.name

/-- The class at this position repeats a name, and none before it does. -/
structure FirstRepeats (services : String) (classes : List ClassDecl) (j : Nat) (c : ClassDecl) :
    Prop where
  repeats : Repeats services classes j c
  first : ∀ i < j, ∀ e, ¬ Repeats services classes i e

variable {services : String} {target : Option String} {classes earlier rest : List ClassDecl}
  {c e : ClassDecl} {i j : Nat} {seen : List (String × String)}

namespace FirstRepeats

theorem le (h : FirstRepeats services classes i c) (h' : FirstRepeats services classes j e) :
    i ≤ j := by
  by_contra hlt
  exact h.first j (Nat.lt_of_not_le hlt) e h'.repeats

theorem unique (h : FirstRepeats services classes i c) (h' : FirstRepeats services classes j e) :
    c = e := by
  obtain rfl := Nat.le_antisymm (h.le h') (h'.le h)
  exact Option.some.inj (h.repeats.at_position.symm.trans h'.repeats.at_position)

end FirstRepeats

/-- Whether a class behind earlier ones repeats a name is up to these. -/
theorem repeats_append_cons : Repeats services (earlier ++ c :: rest) earlier.length e ↔
    e = c ∧ c.IsModelled services ∧ ∃ b ∈ earlier, b.IsModelled services ∧ b.name = c.name := by
  have hposition : (earlier ++ c :: rest)[earlier.length]? = some c := by
    rw [List.getElem?_append_right (Nat.le_refl _), Nat.sub_self, List.getElem?_cons_zero]
  constructor
  · rintro ⟨hget, hmodelled, i, hi, b, hb, hshared⟩
    obtain rfl := Option.some.inj (hposition.symm.trans hget)
    rw [List.getElem?_append_left hi] at hb
    exact ⟨rfl, hmodelled, b, List.mem_of_getElem? hb, hshared⟩
  · rintro ⟨rfl, hmodelled, b, hb, hshared⟩
    obtain ⟨i, hi, rfl⟩ := List.mem_iff_getElem.mp hb
    refine ⟨hposition, hmodelled, i, hi, earlier[i], ?_, hshared⟩
    rw [List.getElem?_append_left hi, List.getElem?_eq_getElem hi]

/-- Where the names of classes with a part in the model differ, none is repeated. -/
theorem not_repeats_of_pairwise {n : Nat} (h : (classes.take n).Pairwise fun b c =>
    b.IsModelled services → c.IsModelled services → b.name ≠ c.name) :
    ∀ i < n, ∀ c, ¬ Repeats services classes i c := by
  rintro i hi c ⟨hc, hmodelled, k, hk, b, hb, hb', hname⟩
  rw [← List.getElem?_take_of_lt hi] at hc
  rw [← List.getElem?_take_of_lt (hk.trans hi)] at hb
  obtain ⟨hilt, rfl⟩ := List.getElem?_eq_some_iff.mp hc
  obtain ⟨hklt, rfl⟩ := List.getElem?_eq_some_iff.mp hb
  exact List.pairwise_iff_getElem.mp h k i hklt hilt hk hb' hmodelled hname

/-! ## Looking for it -/

theorem isModelled_iff :
    (isCandidate services c && !c.name.isEmpty) = true ↔ c.IsModelled services := by
  simp only [isCandidate, Bool.and_eq_true, beq_iff_eq, Bool.not_eq_true',
    String.isEmpty_eq_false_iff]
  constructor
  · rintro ⟨⟨hscope, hvisibility⟩, hname⟩
    exact ⟨hscope, hvisibility, hname⟩
  · rintro ⟨hscope, hvisibility, hname⟩
    exact ⟨⟨hscope, hvisibility⟩, hname⟩

/-- The services of a program are those of the classes that have a part in the model. -/
theorem value_extract (services : String) (target : Option String) (snapshot : Snapshot) :
    (extract services target snapshot).value =
      (snapshot.classes.filter (·.IsModelled services)).map (serviceOf target) := by
  rw [extract, value_ofClasses]
  refine congrArg _ (List.filter_congr fun c _ => ?_)
  rw [Bool.eq_iff_iff, isModelled_iff, decide_eq_true_eq]

/-- The keys seen so far are the names of the earlier classes that have a part in the model. -/
def Covers (services : String) (seen : List (String × String)) (earlier : List ClassDecl) : Prop :=
  ∀ name, (services, name) ∈ seen ↔ ∃ e ∈ earlier, e.IsModelled services ∧ e.name = name

namespace Covers

theorem of_not_isModelled (h : Covers services seen earlier) (hc : ¬ c.IsModelled services) :
    Covers services seen (earlier ++ [c]) := by
  intro name
  rw [h name]
  constructor
  · rintro ⟨e, he, hshared⟩
    exact ⟨e, List.mem_append_left _ he, hshared⟩
  · rintro ⟨e, he, hmodelled, hname⟩
    rcases List.mem_append.mp he with he | he
    · exact ⟨e, he, hmodelled, hname⟩
    · obtain rfl := List.mem_singleton.mp he
      exact absurd hmodelled hc

theorem of_isModelled (h : Covers services seen earlier) (hc : c.IsModelled services) :
    Covers services ((services, c.name) :: seen) (earlier ++ [c]) := by
  intro name
  rw [List.mem_cons, h name]
  constructor
  · rintro (hkey | ⟨e, he, hshared⟩)
    · obtain rfl : name = c.name := (Prod.mk.inj hkey).2
      exact ⟨c, List.mem_append_right _ (List.mem_singleton_self c), hc, rfl⟩
    · exact ⟨e, List.mem_append_left _ he, hshared⟩
  · rintro ⟨e, he, hmodelled, rfl⟩
    rcases List.mem_append.mp he with he | he
    · exact .inr ⟨e, he, hmodelled, rfl⟩
    · obtain rfl := List.mem_singleton.mp he
      exact .inl rfl

end Covers

theorem checkUniqueFrom_cons (hmodelled : c.IsModelled services) (more : List Service) :
    Service.checkUniqueFrom seen (serviceOf target c :: more) =
      if seen.contains (services, c.name) then .error (.duplicateService c.name services)
      else Service.checkUniqueFrom ((services, c.name) :: seen) more := by
  obtain rfl := hmodelled.scope
  rfl

/-- What the check of a row of classes leads to, after earlier ones of which none repeats a name. -/
theorem checkUniqueFrom_run (hcovers : Covers services seen earlier)
    (hnone : ∀ i < earlier.length, ∀ e, ¬ Repeats services (earlier ++ rest) i e) :
    (∃ j c, FirstRepeats services (earlier ++ rest) j c ∧
      Service.checkUniqueFrom seen ((rest.filter (·.IsModelled services)).map (serviceOf target)) =
        .error (.duplicateService c.name services)) ∨
    (∀ j c, ¬ Repeats services (earlier ++ rest) j c) ∧
      Service.checkUniqueFrom seen ((rest.filter (·.IsModelled services)).map (serviceOf target)) =
        .ok () := by
  induction rest generalizing earlier seen with
  | nil =>
    right
    rw [List.append_nil] at hnone ⊢
    refine ⟨fun j c hrepeats => ?_, rfl⟩
    obtain ⟨hj, -⟩ := List.getElem?_eq_some_iff.mp hrepeats.at_position
    exact hnone j hj c hrepeats
  | cons c rest ih =>
    have hnext (hc : ∀ e, ¬ Repeats services (earlier ++ c :: rest) earlier.length e) :
        ∀ i < (earlier ++ [c]).length, ∀ e, ¬ Repeats services (earlier ++ [c] ++ rest) i e := by
      rw [List.length_append, ← List.append_cons]
      intro i hi
      rcases Nat.lt_succ_iff_lt_or_eq.mp hi with hlt | rfl
      · exact hnone i hlt
      · exact hc
    by_cases hmodelled : c.IsModelled services
    · have hmember : seen.contains (services, c.name) = true ↔
          ∃ e ∈ earlier, e.IsModelled services ∧ e.name = c.name :=
        List.contains_iff_mem.trans (hcovers c.name)
      have hfilter : (c :: rest).filter (·.IsModelled services) =
          c :: rest.filter (·.IsModelled services) := by
        simp only [List.filter_cons, hmodelled, decide_true, if_true]
      rw [hfilter, List.map_cons, checkUniqueFrom_cons hmodelled]
      by_cases hseen : seen.contains (services, c.name) = true
      · left
        refine ⟨earlier.length, c, ⟨?_, hnone⟩, if_pos hseen⟩
        exact repeats_append_cons.mpr ⟨rfl, hmodelled, hmember.mp hseen⟩
      · have hc : ∀ e, ¬ Repeats services (earlier ++ c :: rest) earlier.length e := by
          intro e hrepeats
          exact hseen (hmember.mpr (repeats_append_cons.mp hrepeats).2.2)
        rw [if_neg hseen, List.append_cons]
        exact ih (hcovers.of_isModelled hmodelled) (hnext hc)
    · have hc : ∀ e, ¬ Repeats services (earlier ++ c :: rest) earlier.length e := by
        intro e hrepeats
        exact hmodelled (repeats_append_cons.mp hrepeats).2.1
      have hfilter : (c :: rest).filter (·.IsModelled services) =
          rest.filter (·.IsModelled services) := by
        simp only [List.filter_cons, hmodelled, decide_false, Bool.false_eq_true, if_false]
      rw [hfilter, List.append_cons]
      exact ih (hcovers.of_not_isModelled hmodelled) (hnext hc)

/-- What the check of all services of a program leads to. -/
theorem checkUnique_extract (services : String) (target : Option String) (snapshot : Snapshot) :
    (∃ j c, FirstRepeats services snapshot.classes j c ∧
      Service.checkUnique (extract services target snapshot).value =
        .error (.duplicateService c.name services)) ∨
    (∀ j c, ¬ Repeats services snapshot.classes j c) ∧
      Service.checkUnique (extract services target snapshot).value = .ok () := by
  have hcovers : Covers services [] [] := by
    intro name
    simp only [List.not_mem_nil, false_and, exists_false]
  have hnone : ∀ i < ([] : List ClassDecl).length, ∀ e,
      ¬ Repeats services ([] ++ snapshot.classes) i e := fun i hi => absurd hi (Nat.not_lt_zero i)
  rw [value_extract, Service.checkUnique]
  exact checkUniqueFrom_run hcovers hnone

end Extraction

/-! ## The outcome -/

namespace Pipeline

variable {moduleName : String} {found : List Service}

/-- Services that are told apart get one unit, which carries their model. -/
theorem modelUnits_of_unique (h : Service.checkUnique found = .ok ()) :
    modelUnits .builtIn moduleName found = .ok [⟨Naming.modelUnitName moduleName,
      ModelView.text moduleName (Service.modelText found)⟩] := by
  have hrender := ModelView.serviceModel_eq moduleName (Service.modelText found)
  rw [modelUnits, h]
  simp only [bind, Except.bind, hrender]
  rfl

theorem modelUnits_of_shared {fault : Fault} (h : Service.checkUnique found = .error fault) :
    modelUnits .builtIn moduleName found = .error fault := by
  rw [modelUnits, h]
  rfl

theorem value_runModel {config : Config} {services : String}
    (h : config.servicesNamespace = some services) (renderer : Renderer) (request : Request) :
    (runModel renderer config request).value =
      (Outcome.ofResult .serviceModel (modelUnits renderer request.moduleName
        (Extraction.extract services config.targetNamespace
          request.declarations).value)).value := by
  rw [runModel, h]
  rfl

end Pipeline

open ServiceStubs.Extraction (Repeats FirstRepeats)

/-- Let a configuration name a services namespace.  The model pipeline fails exactly if two classes
with a part in the model share a name, and then with what is told of the first that repeats one.
Otherwise it registers one unit, under the name for the module.  Other classes make no difference,
neither to the outcome nor to the text of the unit. -/
theorem runModel_shared {config : Config} {services : String}
    (hservices : config.servicesNamespace = some services) (request : Request) :
    let outcome := (Pipeline.runModel .builtIn config request).value
    let classes := request.declarations.classes
    ((∃ d, outcome = .failed d) ↔ ∃ (i j : Nat) (c c' : ClassDecl), i < j ∧
      classes[i]? = some c ∧ classes[j]? = some c' ∧
      c.IsModelled services ∧ c'.IsModelled services ∧ c.name = c'.name) ∧
    (∀ d, outcome = .failed d ↔ ∃ j c, FirstRepeats services classes j c ∧
      d = ⟨"SG0003", .error,
        "Duplicate service name '" ++ c.name ++ "' in namespace '" ++ services ++ "'", none⟩) ∧
    ((∀ d, outcome ≠ .failed d) →
      ∃ text, outcome = .registered [⟨Naming.modelUnitName request.moduleName, text⟩]) ∧
    ∀ other : Request, other.moduleName = request.moduleName →
      other.declarations.classes.filter (·.IsModelled services) =
        classes.filter (·.IsModelled services) →
      (Pipeline.runModel .builtIn config other).value = outcome := by
  intro outcome classes
  have houtcome := Pipeline.value_runModel hservices .builtIn request
  have hpair : (∃ (i j : Nat) (c c' : ClassDecl), i < j ∧ classes[i]? = some c ∧
      classes[j]? = some c' ∧ c.IsModelled services ∧ c'.IsModelled services ∧
      c.name = c'.name) ↔ ∃ j c, Repeats services classes j c := by
    constructor
    · rintro ⟨i, j, c, c', hij, hc, hc', hmodelled, hmodelled', hname⟩
      exact ⟨j, c', hc', hmodelled', i, hij, c, hc, hmodelled, hname⟩
    · rintro ⟨j, c', hc', hmodelled', i, hij, c, hc, hmodelled, hname⟩
      exact ⟨i, j, c, c', hij, hc, hc', hmodelled, hmodelled', hname⟩
  have hcongr : ∀ other : Request, other.moduleName = request.moduleName →
      other.declarations.classes.filter (·.IsModelled services) =
        classes.filter (·.IsModelled services) →
      (Pipeline.runModel .builtIn config other).value = outcome := by
    intro other hname hclasses
    rw [Pipeline.value_runModel hservices, Extraction.value_extract, hname, hclasses,
      ← Extraction.value_extract]
    exact houtcome.symm
  rw [hpair]
  rcases Extraction.checkUnique_extract services config.targetNamespace request.declarations with
    ⟨j, c, hfirst, hshared⟩ | ⟨hnone, hunique⟩
  · have hfailed : outcome = .failed (Fault.duplicateService c.name services).toDiagnostic := by
      rw [Pipeline.modelUnits_of_shared hshared] at houtcome
      exact houtcome
    refine ⟨iff_of_true ⟨_, hfailed⟩ ⟨j, c, hfirst.repeats⟩, fun d => ?_, ?_, hcongr⟩
    · rw [hfailed]
      constructor
      · rintro ⟨⟩
        exact ⟨j, c, hfirst, rfl⟩
      · rintro ⟨i, e, hother, rfl⟩
        rw [hfirst.unique hother]
        rfl
    · intro hnot
      exact absurd hfailed (hnot _)
  · rw [Pipeline.modelUnits_of_unique hunique] at houtcome
    obtain ⟨text, hregistered⟩ : ∃ text,
        outcome = .registered [⟨Naming.modelUnitName request.moduleName, text⟩] :=
      ⟨_, houtcome⟩
    refine ⟨iff_of_false ?_ ?_, fun d => iff_of_false ?_ ?_, fun _ => ⟨text, hregistered⟩, hcongr⟩
    · rintro ⟨d, hd⟩
      rw [hregistered] at hd
      cases hd
    · rintro ⟨j, c, hrepeats⟩
      exact hnone j c hrepeats
    · rw [hregistered]
      rintro ⟨⟩
    · rintro ⟨j, c, hfirst, -⟩
      exact hnone j c hfirst.repeats

/-- A hidden class, two without a name and one in a namespace below share names with others to no
effect.  Of the two that repeat a name, the first is told of; without them the model is that of the
other two classes alone. -/
theorem runModel_shared_nested :
    let config : Config := ⟨none, some "acme", none⟩
    let billing : ClassDecl := ⟨"Billing", "acme", .everywhere, []⟩
    let ledger : ClassDecl := ⟨"Ledger", "acme", .everywhere, []⟩
    let nameless : ClassDecl := ⟨"", "acme", .everywhere, []⟩
    let classes : List ClassDecl :=
      [billing, ⟨"Ledger", "acme", .restricted, []⟩, nameless, nameless,
        ⟨"Billing", "acme::inner", .everywhere, []⟩, ledger]
    let outcome (classes : List ClassDecl) : Outcome :=
      (Pipeline.runModel .builtIn config ⟨"app", ⟨[⟨"a.rs", classes⟩]⟩, []⟩).value
    outcome (classes ++ [billing, ledger]) = .failed ⟨"SG0003", .error,
        "Duplicate service name 'Billing' in namespace 'acme'", none⟩ ∧
      outcome classes = outcome [billing, ledger] ∧
      ∃ text, outcome classes = .registered [⟨"app.generated.rs", text⟩] := by
  intro config billing ledger nameless classes outcome
  have hservices : config.servicesNamespace = some "acme" := by decide
  have hname : Naming.modelUnitName "app" = "app.generated.rs" := by decide
  have hshared := runModel_shared hservices ⟨"app", ⟨[⟨"a.rs", classes ++ [billing, ledger]⟩]⟩, []⟩
  have hplain := runModel_shared hservices ⟨"app", ⟨[⟨"a.rs", classes⟩]⟩, []⟩
  refine ⟨(hshared.2.1 _).mpr ⟨6, billing, ⟨?_, ?_⟩, rfl⟩, ?_, ?_⟩
  · exact ⟨rfl, by decide, 0, by decide, billing, rfl, by decide, rfl⟩
  · exact Extraction.not_repeats_of_pairwise (by decide)
  · exact (hplain.2.2.2 ⟨"app", ⟨[⟨"a.rs", [billing, ledger]⟩]⟩, []⟩ rfl (by decide)).symm
  · rw [← hname]
    refine hplain.2.2.1 fun d hd => ?_
    obtain ⟨j, c, hfirst, -⟩ := (hplain.2.1 d).mp hd
    obtain ⟨hj, -⟩ := List.getElem?_eq_some_iff.mp hfirst.repeats.at_position
    exact Extraction.not_repeats_of_pairwise (by decide) j hj c hfirst.repeats

end ServiceStubs
