import ServiceStubs.Proofs.Run.Phases
import ServiceStubs.Proofs.Service.Handlers

/-!
# The first service that is refused

The controller pipeline takes the services of a schema one by one.  A service is refused for its own
name, for the name of an operation, or for a name that an earlier service has taken, in this order.
The first service that is refused decides the outcome, and no controller of those before it is
kept; if none is refused, each service has its controller.
-/

namespace ServiceStubs

namespace FirstWithout

variable {α : Type} {P : α → Prop} {as : List α} {i j : Nat} {a b : α}

theorem le (h : FirstWithout P as i a) (h' : FirstWithout P as j b) : i ≤ j := by
  by_contra hlt
  have hb : b ∈ as.take i := by
    rw [List.mem_iff_getElem?]
    exact ⟨j, (List.getElem?_take_of_lt (Nat.lt_of_not_le hlt)).trans h'.1⟩
  exact h'.2.1 (h.2.2 b hb)

theorem unique (h : FirstWithout P as i a) (h' : FirstWithout P as j b) : a = b := by
  obtain rfl := Nat.le_antisymm (h.le h') (h'.le h)
  exact Option.some.inj (h.1.symm.trans h'.1)

end FirstWithout

/-! ## Names that are fit -/

namespace Naming

variable {name : String}

theorem isIdentifier_iff : isIdentifier name = true ↔ IsPlainName name := by
  constructor
  · intro h
    have hplain := isPlain_of_isWord (isWord_of_isIdentifier h)
    refine ⟨fun c hc => isAlphanum_or_eq_of_isIdentifierPart (hplain c hc), ?_, ?_⟩
    · cases hlist : name.toList with
      | nil =>
        rw [isIdentifier, hlist] at h
        cases h
      | cons c rest =>
        have hword := isWord_of_isIdentifier h
        rw [hlist, Rust.isWord, Bool.and_eq_true] at hword
        exact ⟨c, rfl, isDigit_of_isIdentifierStart hword.1⟩
    · rintro rfl
      exact absurd h (by decide)
  · rintro ⟨hchars, ⟨c, hhead, hdigit⟩, hne⟩
    have hplain : IsPlain name.toList := by
      intro d hd
      simpa only [isIdentifierPart, Bool.or_eq_true, beq_iff_eq] using hchars d hd
    obtain ⟨rest, hlist⟩ := List.head?_eq_some_iff.mp hhead
    have hrest : rest ≠ [] ∨ c ≠ '_' := by
      by_contra hunderscore
      obtain ⟨rfl, rfl⟩ := by simpa only [not_or, not_not, ne_eq] using hunderscore
      exact hne (String.toList_inj.mp hlist)
    rw [hlist] at hplain
    obtain ⟨hc, hparts⟩ := isPlain_cons.mp hplain
    have hstart := isIdentifierStart_of_isDigit_eq_false hc hdigit
    rw [isIdentifier, hlist]
    split
    · next h => cases h
    · next h =>
      obtain ⟨rfl, rfl⟩ := List.cons.inj h
      simp at hrest
    · next d tail _ h =>
      obtain ⟨rfl, rfl⟩ := List.cons.inj h
      rw [Bool.and_eq_true, List.all_eq_true]
      exact ⟨hstart, hparts⟩

instance (name : String) : Decidable (IsPlainName name) :=
  decidable_of_iff _ isIdentifier_iff

end Naming

/-- The operation has a plain name. -/
def Operation.IsFit (o : Operation) : Prop := Naming.IsPlainName o.name

instance (o : Operation) : Decidable o.IsFit :=
  inferInstanceAs (Decidable (Naming.IsPlainName o.name))

namespace Service

/-- The service and its operations have plain names. -/
structure IsFit (s : Service) : Prop where
  name : Naming.IsPlainName s.name
  operations : ∀ o ∈ s.operations, o.IsFit

/-- What is told of a service that cannot follow earlier ones: its own name comes before those of
its operations, and these before the name of its unit. -/
inductive Refused (earlier : List Service) (s : Service) : Diagnostic → Prop where
  | name (h : ¬ Naming.IsPlainName s.name) :
      Refused earlier s
        ⟨"SG0005", .error, "'" ++ s.name ++ "' is not a valid service identifier", none⟩
  | operation (h : Naming.IsPlainName s.name) {position : Nat} {o : Operation}
      (ho : FirstWithout Operation.IsFit s.operations position o) :
      Refused earlier s ⟨"SG0005", .error,
        "'" ++ (s.name ++ "." ++ o.name) ++ "' is not a valid operation identifier", none⟩
  | unit (h : s.IsFit) (hname : s.name ∈ earlier.map Service.name) :
      Refused earlier s
        ⟨"SG0004", .error, "Duplicate generated unit name: " ++ s.unitName, none⟩

theorem firstWithout_of_find? {operations : List Operation} {o : Operation}
    (h : operations.find? (!Naming.isIdentifier ·.name) = some o) :
    ∃ position, FirstWithout Operation.IsFit operations position o := by
  obtain ⟨hname, before, after, rfl, hbefore⟩ := List.find?_eq_some_iff_append.mp h
  refine ⟨before.length, ?_, ?_, ?_⟩
  · rw [List.getElem?_append_right (Nat.le_refl _), Nat.sub_self]
    rfl
  · rw [Operation.IsFit, ← Naming.isIdentifier_iff]
    simpa using hname
  · intro p hp
    rw [List.take_left' rfl] at hp
    rw [Operation.IsFit, ← Naming.isIdentifier_iff]
    simpa using hbefore p hp

/-- The role of the name only shows at the end of the message. -/
theorem toDiagnostic_invalidIdentifier (name : String) {role : Role} (ending : String)
    (h : "' is not a valid " ++ role.label ++ " identifier" = ending) :
    (Fault.invalidIdentifier name role).toDiagnostic =
      ⟨"SG0005", .error, "'" ++ name ++ ending, none⟩ := by
  have happend : ∀ a b c d e : String, a ++ b ++ c ++ d ++ e = a ++ b ++ (c ++ d ++ e) := by
    intro a b c d e
    simp only [String.append_assoc]
  have hmessage : (Fault.invalidIdentifier name role).message = "'" ++ name ++ ending := by
    rw [← h]
    exact happend "'" name _ _ _
  rw [Fault.toDiagnostic, hmessage]
  rfl

variable {earlier : List Service} {s : Service} {d d' : Diagnostic}

/-- Names are checked before anything earlier is looked at. -/
theorem checkIdentifiers_cases (s : Service) :
    s.IsFit ∧ s.checkIdentifiers = .ok () ∨
      ∃ fault, s.checkIdentifiers = .error fault ∧ ¬ s.IsFit ∧
        ∀ earlier, s.Refused earlier fault.toDiagnostic := by
  rw [checkIdentifiers]
  by_cases hname : Naming.isIdentifier s.name = true
  · have hplain := Naming.isIdentifier_iff.mp hname
    rw [if_neg (by rw [hname]; decide)]
    cases hfind : s.operations.find? (!Naming.isIdentifier ·.name) with
    | none =>
      left
      refine ⟨⟨hplain, fun o ho => ?_⟩, rfl⟩
      rw [Operation.IsFit, ← Naming.isIdentifier_iff]
      simpa using List.find?_eq_none.mp hfind o ho
    | some o =>
      right
      obtain ⟨position, ho⟩ := firstWithout_of_find? hfind
      refine ⟨_, rfl, ?_, fun earlier => ?_⟩
      · intro hfit
        exact ho.2.1 (hfit.operations o (List.mem_of_getElem? ho.1))
      · rw [toDiagnostic_invalidIdentifier _ "' is not a valid operation identifier" (by decide)]
        exact .operation hplain ho
  · have hplain := mt Naming.isIdentifier_iff.mpr hname
    right
    rw [if_pos (by simpa using hname)]
    refine ⟨_, rfl, fun hfit => hplain hfit.name, fun earlier => ?_⟩
    rw [toDiagnostic_invalidIdentifier _ "' is not a valid service identifier" (by decide)]
    exact .name hplain

namespace Refused

/-- There is one thing to tell. -/
theorem unique (h : s.Refused earlier d) (h' : s.Refused earlier d') : d = d' := by
  cases h with
  | name hname =>
    cases h' with
    | name => rfl
    | operation h => exact absurd h hname
    | unit h => exact absurd h.name hname
  | operation hname ho =>
    cases h' with
    | name h => exact absurd hname h
    | operation _ ho' => rw [ho.unique ho']
    | unit h => exact absurd (h.operations _ (List.mem_of_getElem? ho.1)) ho.2.1
  | unit hfit =>
    cases h' with
    | name h => exact absurd hfit.name h
    | operation _ ho => exact absurd (hfit.operations _ (List.mem_of_getElem? ho.1)) ho.2.1
    | unit => rfl

/-- A service with plain names is refused only for what an earlier one is called. -/
theorem mem_of_isFit (h : s.Refused earlier d) (hfit : s.IsFit) :
    s.name ∈ earlier.map Service.name := by
  cases h with
  | name hname => exact absurd hfit.name hname
  | operation _ ho => exact absurd (hfit.operations _ (List.mem_of_getElem? ho.1)) ho.2.1
  | unit _ hname => exact hname

end Refused

end Service

/-! ## The first of them -/

/-- None of so many services is refused. -/
def Accepted (services : List Service) (n : Nat) : Prop :=
  ∀ j < n, ∀ t, services[j]? = some t → ∀ d, ¬ t.Refused (services.take j) d

theorem Accepted.succ {services : List Service} {n : Nat} {s : Service}
    (h : Accepted services n) (hs : services[n]? = some s)
    (hnot : ∀ d, ¬ s.Refused (services.take n) d) : Accepted services (n + 1) := by
  intro j hj t ht
  rcases Nat.lt_succ_iff_lt_or_eq.mp hj with hlt | rfl
  · exact h j hlt t ht
  · obtain rfl := Option.some.inj (hs.symm.trans ht)
    exact hnot

/-- The service at this position is refused, and none before it is. -/
structure FirstRefused (services : List Service) (i : Nat) (s : Service) (d : Diagnostic) :
    Prop where
  at_position : services[i]? = some s
  refused : s.Refused (services.take i) d
  accepted : Accepted services i

namespace FirstRefused

variable {services : List Service} {i j : Nat} {s t : Service} {d e : Diagnostic}

theorem le (h : FirstRefused services i s d) (h' : FirstRefused services j t e) : i ≤ j := by
  by_contra hlt
  exact h.accepted j (Nat.lt_of_not_le hlt) t h'.at_position e h'.refused

theorem unique (h : FirstRefused services i s d) (h' : FirstRefused services j t e) : d = e := by
  obtain rfl := Nat.le_antisymm (h.le h') (h'.le h)
  obtain rfl := Option.some.inj (h.at_position.symm.trans h'.at_position)
  exact h.refused.unique h'.refused

theorem not_accepted (h : FirstRefused services i s d) : ¬ Accepted services services.length := by
  intro haccepted
  obtain ⟨hlt, -⟩ := List.getElem?_eq_some_iff.mp h.at_position
  exact haccepted i hlt s h.at_position d h.refused

end FirstRefused

/-! ## Staging controllers one by one -/

namespace Pipeline

variable {renderer : Renderer} {earlier services : List Service} {staging : Staging} {s : Service}

/-- The staged units are those of the services so far. -/
structure Staged (staging : Staging) (earlier : List Service) : Prop where
  consistent : staging.Consistent
  names : staging.units.map GeneratedUnit.name = earlier.map Service.unitName

theorem Staged.mem_iff (h : Staged staging earlier) :
    s.unitName ∈ staging.units.map GeneratedUnit.name ↔ s.name ∈ earlier.map Service.name := by
  rw [h.names]
  constructor
  · intro hmem
    obtain ⟨t, ht, hunit⟩ := List.mem_map.mp hmem
    exact List.mem_map.mpr ⟨t, ht, Service.unitName_injective hunit⟩
  · intro hmem
    obtain ⟨t, ht, hname⟩ := List.mem_map.mp hmem
    exact List.mem_map.mpr ⟨t, ht, by rw [Service.unitName, Service.unitName, hname]⟩

/-- The built-in template refuses a service for its names, with the fault of their check. -/
theorem controller_eq_error {fault : Fault} (h : s.checkIdentifiers = .error fault) :
    Renderer.builtIn.controller s = .error fault := by
  have hview : ControllerView.ofService s = .error fault := by
    rw [ControllerView.ofService, h]
    rfl
  have hrender : Renderer.builtIn.controller s = (ControllerView.ofService s).bind fun view =>
      Renderer.renderNamed "controller.rs.tera" ControllerView.template view.toScope := rfl
  rw [hrender, hview]
  rfl

/-- What one service leads to. -/
theorem stageControllers_step (h : Staged staging earlier) (s : Service) (rest : List Service) :
    (∃ fault, s.Refused earlier fault.toDiagnostic ∧
      stageControllers .builtIn staging (s :: rest) = .error fault) ∨
    (∀ d, ¬ s.Refused earlier d) ∧ ∃ staged unit, IsController .builtIn s unit ∧
      Staged staged (earlier ++ [s]) ∧ staged.units = staging.units ++ [unit] ∧
      stageControllers .builtIn staging (s :: rest) = stageControllers .builtIn staged rest := by
  rcases s.checkIdentifiers_cases with ⟨hfit, hcheck⟩ | ⟨fault, hcheck, -, hrefused⟩
  · obtain ⟨text, htext, -⟩ := ControllerView.controller_eq hcheck
    by_cases hname : s.name ∈ earlier.map Service.name
    · left
      refine ⟨.duplicateUnit s.unitName, .unit hfit hname, ?_⟩
      have hadd : staging.add ⟨s.unitName, text⟩ = .error (.duplicateUnit s.unitName) :=
        h.consistent.add_of_mem (h.mem_iff.mpr hname)
      rw [stageControllers, htext]
      simp only [bind, Except.bind, hadd]
    · right
      refine ⟨fun d hd => hname (hd.mem_of_isFit hfit), ?_⟩
      have hnew : (⟨s.unitName, text⟩ : GeneratedUnit).name ∉
          staging.units.map GeneratedUnit.name := mt h.mem_iff.mp hname
      obtain ⟨staged, hadd, hconsistent, hunits⟩ := h.consistent.add_of_not_mem hnew
      refine ⟨staged, ⟨s.unitName, text⟩, ⟨rfl, htext⟩, ⟨hconsistent, ?_⟩, hunits, ?_⟩
      · rw [hunits, List.map_append, List.map_append, h.names]
        rfl
      · rw [stageControllers, htext]
        simp only [bind, Except.bind, hadd]
  · left
    refine ⟨fault, hrefused earlier, ?_⟩
    rw [stageControllers, controller_eq_error hcheck]
    rfl

/-- What a row of services leads to, after earlier ones of which none was refused. -/
theorem stageControllers_run (h : Staged staging earlier)
    (haccepted : Accepted (earlier ++ services) earlier.length) :
    (∃ i s fault, FirstRefused (earlier ++ services) i s fault.toDiagnostic ∧
      stageControllers .builtIn staging services = .error fault) ∨
    Accepted (earlier ++ services) (earlier ++ services).length ∧
      ∃ staged units, stageControllers .builtIn staging services = .ok staged ∧
        List.Forall₂ (IsController .builtIn) services units ∧
        staged.units = staging.units ++ units := by
  induction services generalizing earlier staging with
  | nil =>
    right
    rw [List.append_nil] at haccepted ⊢
    exact ⟨haccepted, staging, [], rfl, .nil, (List.append_nil _).symm⟩
  | cons s rest ih =>
    have hposition : (earlier ++ s :: rest)[earlier.length]? = some s := by
      rw [List.getElem?_append_right (Nat.le_refl _), Nat.sub_self]
      rfl
    have htake : (earlier ++ s :: rest).take earlier.length = earlier := List.take_left' rfl
    rcases stageControllers_step h s rest with ⟨fault, hrefused, hrun⟩ |
      ⟨hnot, staged, unit, hunit, hstaged, hunits, hrun⟩
    · left
      exact ⟨earlier.length, s, fault, ⟨hposition, by rwa [htake], haccepted⟩, hrun⟩
    · have hnext := haccepted.succ hposition (by rwa [htake])
      rw [List.append_cons] at hnext ⊢
      have hlength : (earlier ++ [s]).length = earlier.length + 1 := List.length_append
      rcases ih hstaged (by rwa [hlength]) with ⟨i, t, fault, hrefused, hrest⟩ |
        ⟨hall, final, units, hrest, hcontrollers, hfinal⟩
      · left
        exact ⟨i, t, fault, hrefused, hrun.trans hrest⟩
      · right
        refine ⟨hall, final, unit :: units, hrun.trans hrest, .cons hunit hcontrollers, ?_⟩
        rw [hfinal, hunits, List.append_assoc]
        rfl

/-- The outcome, from what the row of all services leads to. -/
theorem controllerUnits_cases (services : List Service) :
    (∃ i s fault, FirstRefused services i s fault.toDiagnostic ∧
      controllerUnits .builtIn services = .error fault) ∨
    Accepted services services.length ∧ ∃ units, controllerUnits .builtIn services = .ok units ∧
      List.Forall₂ (IsController .builtIn) services units := by
  have hempty : Staged .empty [] := ⟨Staging.consistent_empty, rfl⟩
  have hnone : Accepted ([] ++ services) ([] : List Service).length :=
    fun j hj => absurd hj (Nat.not_lt_zero j)
  rcases stageControllers_run hempty hnone with ⟨i, s, fault, hrefused, hrun⟩ |
    ⟨hall, staged, units, hrun, hcontrollers, hunits⟩
  · left
    refine ⟨i, s, fault, hrefused, ?_⟩
    rw [controllerUnits, hrun]
    rfl
  · right
    refine ⟨hall, units, ?_, hcontrollers⟩
    rw [controllerUnits, hrun]
    exact congrArg Except.ok hunits

theorem isController_rightUnique (renderer : Renderer) :
    Relator.RightUnique (IsController renderer) := by
  rintro s ⟨name, text⟩ ⟨name', text'⟩ ⟨hname, htext⟩ ⟨hname', htext'⟩
  obtain rfl : name = name' := hname.trans hname'.symm
  obtain rfl : text = text' := Except.ok.inj (htext.symm.trans htext')
  rfl

end Pipeline

/-- Let a configuration name a schema, and let services be found in it.  The controller pipeline
fails exactly with what is told of the first service that is refused.  If none is, it registers
exactly the controllers of all services, in order. -/
theorem runControllers_refused {config : Config} {fileName : String} {request : Request}
    {services : List Service} (hconfig : config.schemaFileName = some fileName)
    (hload : Schema.load request.texts fileName = .ok (some services)) :
    let outcome := (Pipeline.runControllers .builtIn config request).value
    (∀ d, outcome = .failed d ↔ ∃ i s, FirstRefused services i s d) ∧
    (∀ units, outcome = .registered units ↔ Accepted services services.length ∧
      List.Forall₂ (Pipeline.IsController .builtIn) services units) ∧
    ∀ reason, outcome ≠ .idle reason := by
  intro outcome
  have houtcome : outcome =
      (Outcome.ofResult .controllers (Pipeline.controllerUnits .builtIn services)).value := by
    simp only [outcome, Pipeline.runControllers, hconfig, hload]
  rcases Pipeline.controllerUnits_cases services with ⟨i, s, fault, hrefused, hunits⟩ |
    ⟨haccepted, units, hunits, hcontrollers⟩
  · have hfailed : outcome = .failed fault.toDiagnostic := by
      rw [houtcome, hunits]
      rfl
    rw [hfailed]
    refine ⟨fun d => ⟨?_, ?_⟩, fun units => ⟨?_, ?_⟩, ?_⟩
    · rintro ⟨⟩
      exact ⟨i, s, hrefused⟩
    · rintro ⟨j, t, hother⟩
      rw [hrefused.unique hother]
    · rintro ⟨⟩
    · rintro ⟨haccepted, -⟩
      exact absurd haccepted hrefused.not_accepted
    · rintro reason ⟨⟩
  · have hregistered : outcome = .registered units := by
      rw [houtcome, hunits]
      rfl
    rw [hregistered]
    refine ⟨fun d => ⟨?_, ?_⟩, fun units' => ⟨?_, ?_⟩, ?_⟩
    · rintro ⟨⟩
    · rintro ⟨j, t, hother⟩
      exact absurd haccepted hother.not_accepted
    · rintro ⟨⟩
      exact ⟨haccepted, hcontrollers⟩
    · rintro ⟨-, hother⟩
      rw [List.right_unique_forall₂' (Pipeline.isController_rightUnique .builtIn) hcontrollers
        hother]
    · rintro reason ⟨⟩

/-- Services of one name in different namespaces clash, and a bad name behind them is not told. -/
theorem runControllers_refused_namespaces :
    let config : Config := ⟨some "api.json", none, none⟩
    let schema : AuxiliaryText := ⟨"app/api.json",
      "[\x7b\"Name\":\"Ledger\",\"Namespace\":\"a\"\x7d,"
        ++ "\x7b\"Name\":\"Ledger\",\"Namespace\":\"b\"\x7d,"
        ++ "\x7b\"Name\":\"1st\"\x7d]"⟩
    let request : Request := ⟨"app", ⟨[]⟩, [schema]⟩
    let services : List Service :=
      [⟨"Ledger", "a", "", []⟩, ⟨"Ledger", "b", "", []⟩, ⟨"1st", "", "", []⟩]
    config.schemaFileName = some "api.json" ∧
      Schema.load request.texts "api.json" = .ok (some services) ∧
      (Pipeline.runControllers .builtIn config request).value = .failed ⟨"SG0004", .error,
        "Duplicate generated unit name: LedgerController.generated.rs", none⟩ := by
  intro config schema request services
  have hconfig : config.schemaFileName = some "api.json" := by decide +kernel
  have hload : Schema.load request.texts "api.json" = .ok (some services) := by decide +kernel
  have hname : Naming.IsPlainName "Ledger" := by decide +kernel
  have hfit : ∀ scope, Service.IsFit ⟨"Ledger", scope, "", []⟩ :=
    fun scope => ⟨hname, List.forall_mem_nil _⟩
  have haccepted : Accepted services 1 := by
    rintro j hj t ht d hrefused
    obtain rfl := Nat.lt_one_iff.mp hj
    obtain rfl := Option.some.inj ht
    exact List.not_mem_nil (hrefused.mem_of_isFit (hfit "a"))
  refine ⟨hconfig, hload, ((runControllers_refused hconfig hload).1 _).mpr
    ⟨1, ⟨"Ledger", "b", "", []⟩, rfl, ?_, haccepted⟩⟩
  exact .unit (hfit "b") (List.mem_singleton.mpr rfl)

end ServiceStubs
