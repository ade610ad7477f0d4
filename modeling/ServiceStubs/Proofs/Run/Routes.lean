import ServiceStubs.Proofs.Run.Commit
import ServiceStubs.Proofs.Run.Phases

/-!
# Routes of a run

A route leads to one operation of a run.  No name has a slash in it, so a route falls into the names
that it was made of; an operation is told from others of its name by its number, and a service from
others by its name, since its controller needs a name of its own.
-/

namespace ServiceStubs

open ServiceStubs.Naming (IsPlain)

/-- What a route leads to: an operation of a service, by its number among those of its name. -/
structure Endpoint where
  service : String
  operation : String
  occurrence : Nat
  deriving DecidableEq, Repr

namespace Endpoint

/-- Reads a route, of which the first operation of a name has no number. -/
def ofRoute? (route : String) : Option Endpoint :=
  match Naming.splitAtAny (· == '/') route.toList with
  | [[], ['a', 'p', 'i'], service, operation] =>
    some ⟨String.ofList service, String.ofList operation, 1⟩
  | [[], ['a', 'p', 'i'], service, operation, digits] =>
    some ⟨String.ofList service, String.ofList operation, Nat.ofDigitChars 10 digits 0⟩
  | _ => none

theorem ne_slash_of_isPlain {name : List Char} (h : IsPlain name) :
    ∀ c ∈ name, (c == '/') = false := by
  intro c hc
  apply beq_eq_false_iff_ne.mpr
  rintro rfl
  exact absurd (h '/' hc) (by decide)

/-- The pieces of a route, up to the number. -/
theorem splitAtAny_route {service : String} (hservice : IsPlain service.toList)
    (rest : List Char) :
    Naming.splitAtAny (· == '/') (("/api/" ++ service ++ "/").toList ++ rest) =
      [] :: ['a', 'p', 'i'] :: service.toList :: Naming.splitAtAny (· == '/') rest := by
  have hlist : ("/api/" ++ service ++ "/").toList ++ rest =
      [] ++ '/' :: (['a', 'p', 'i'] ++ '/' :: (service.toList ++ '/' :: rest)) := by
    simp only [String.toList_append, List.append_assoc]
    rfl
  have hapi : IsPlain ['a', 'p', 'i'] := by decide
  rw [hlist, Naming.splitAtAny_append_cons (List.forall_mem_nil _) (by decide),
    Naming.splitAtAny_append_cons (ne_slash_of_isPlain hapi) (by decide),
    Naming.splitAtAny_append_cons (ne_slash_of_isPlain hservice) (by decide)]

/-- A route is read back. -/
theorem ofRoute?_routeOf {service name : String} (hservice : IsPlain service.toList)
    (hname : IsPlain name.toList) {n : Nat} (hn : 0 < n) :
    ofRoute? (ControllerView.routeOf service name n) = some ⟨service, name, n⟩ := by
  have hpiece := ne_slash_of_isPlain hname
  rw [ofRoute?, Routed.toList_routeOf, splitAtAny_route hservice, Routed.number]
  split_ifs with hnumber
  · have hdigits := Naming.splitAtAny_of_piece (ne_slash_of_isPlain (isPlain_toString n))
    have hvalue : Nat.ofDigitChars 10 (toString n).toList 0 = n := by
      rw [Nat.toString_eq_repr, Nat.toList_repr]
      simp
    rw [Naming.splitAtAny_append_cons hpiece (by decide), hdigits]
    simp only [String.ofList_toList, hvalue]
  · obtain rfl : n = 1 := by omega
    rw [List.append_nil, Naming.splitAtAny_of_piece hpiece]
    simp only [String.ofList_toList]

end Endpoint

/-! ## The operations of a service -/

/-- The operations of a service in order, numbered among those of their names. -/
def Service.endpoints (s : Service) : List Endpoint :=
  s.operations.mapIdx fun i o =>
    ⟨s.name, o.name, ((s.operations.take (i + 1)).map Operation.name).count o.name⟩

namespace Routed

/-- What the route of an operation leads to. -/
def endpoint (service : String) (r : Routed) : Endpoint :=
  ⟨service, r.operation.name, r.occurrence⟩

variable {earlier used : List String} {operations : List Operation}

/-- An operation is numbered by those of its name up to it. -/
theorem occurrence_eq {i : Nat} {r : Routed}
    (h : (listFrom earlier used operations)[i]? = some r) :
    r.occurrence = earlier.count r.operation.name +
      ((operations.take (i + 1)).map Operation.name).count r.operation.name := by
  induction operations generalizing earlier used i with
  | nil => simp [listFrom] at h
  | cons o operations ih =>
    rw [listFrom] at h
    cases i with
    | zero =>
      obtain rfl := Option.some.inj h
      simp
    | succ i =>
      have hcount := ih h
      rw [List.take_succ_cons, List.map_cons, List.count_cons]
      rw [List.count_cons] at hcount
      omega

end Routed

namespace Service

variable {s : Service}

theorem endpoints_eq (s : Service) : s.endpoints = s.routed.map (Routed.endpoint s.name) := by
  apply List.ext_getElem?
  intro i
  have hoperation : s.operations[i]? = s.routed[i]?.map Routed.operation := by
    rw [← List.getElem?_map, map_operation_routed]
  rw [endpoints, List.getElem?_mapIdx, List.getElem?_map, hoperation, Option.map_map]
  cases hrouted : s.routed[i]? with
  | none => rfl
  | some r =>
    have hoccurrence := Routed.occurrence_eq hrouted
    rw [List.count_nil, Nat.zero_add] at hoccurrence
    simp only [Option.map_some, Function.comp_apply, Routed.endpoint, hoccurrence]

theorem nodup_endpoints (s : Service) : s.endpoints.Nodup := by
  have hnodup := Routed.nodup_occurrence_listFrom [] reservedHandlers s.operations
  rw [endpoints_eq]
  refine List.Nodup.of_map (fun e : Endpoint => (e.operation, e.occurrence)) ?_
  rw [List.map_map]
  exact hnodup

/-- Services with different names share no operation. -/
theorem nodup_flatMap_endpoints {services : List Service}
    (h : (services.map Service.name).Nodup) : (services.flatMap endpoints).Nodup := by
  have hservice : ∀ {s : Service} {e : Endpoint}, e ∈ s.endpoints → e.service = s.name := by
    intro s e he
    rw [endpoints_eq] at he
    obtain ⟨r, -, rfl⟩ := List.mem_map.mp he
    rfl
  rw [List.Nodup, List.pairwise_map] at h
  refine List.nodup_flatMap.mpr ⟨fun s _ => s.nodup_endpoints, h.imp ?_⟩
  intro s t hne e hs ht
  exact hne ((hservice hs).symm.trans (hservice ht))

/-- The routes of a service with fit names are read back as its operations. -/
theorem map_ofRoute?_routes (h : s.checkIdentifiers = .ok ()) :
    (ControllerView.ofFit s).operations.map (fun o => Endpoint.ofRoute? o.route) =
      s.endpoints.map some := by
  have hname := Naming.isPlain_of_isWord
    (Naming.isWord_of_isIdentifier (isIdentifier_of_checkIdentifiers h).1)
  rw [endpoints_eq, List.map_map, ControllerView.ofFit, List.map_map]
  apply List.map_congr_left
  intro r hr
  have hmem : r.operation ∈ s.operations := by
    rw [← map_operation_routed s]
    exact List.mem_map_of_mem hr
  exact Endpoint.ofRoute?_routeOf hname (isPlain_of_checkIdentifiers h _ hmem)
    (Nat.zero_lt_of_lt (Routed.count_lt_occurrence hr))

end Service

/-! ## Runs -/

/-- The routes of a controller. -/
def ControllerView.routes (c : ControllerView) : List String :=
  c.operations.map OperationView.route

namespace ControllerView

/-- The built-in template only renders services with fit names. -/
theorem checkIdentifiers_of_controller {s : Service} {text : String}
    (h : Renderer.builtIn.controller s = .ok text) : s.checkIdentifiers = .ok () := by
  obtain ⟨view, hview, -⟩ := eq_ok_of_bind h
  obtain ⟨_, hfit, -⟩ := eq_ok_of_bind hview
  exact hfit

theorem map_ofRoute?_flatMap_routes {services : List Service}
    (h : ∀ s ∈ services, s.checkIdentifiers = .ok ()) :
    ((services.map ofFit).flatMap routes).map Endpoint.ofRoute? =
      (services.flatMap Service.endpoints).map some := by
  rw [List.flatMap_map, List.map_flatMap, List.map_flatMap]
  refine List.flatMap_congr fun s hs => ?_
  rw [← Service.map_ofRoute?_routes (h s hs), routes, List.map_map]
  rfl

end ControllerView

/-! ## What was registered -/

variable {renderer : Renderer} {request : Request} {units : List GeneratedUnit}

theorem Pipeline.controllerUnits_of_registered {config : Config}
    (h : (runControllers renderer config request).value = .registered units) :
    ∃ fileName services, config.schemaFileName = some fileName ∧
      Schema.load request.texts fileName = .ok (some services) ∧
      controllerUnits renderer services = .ok units := by
  rw [runControllers] at h
  split at h
  · cases h
  · next fileName hname =>
    split at h
    · cases h
    · next services hload =>
      exact ⟨fileName, services, hname, hload, Outcome.eq_ok_of_registered h⟩
    · next fault hload => cases h

namespace Request

theorem registered_of_runPipeline {pipeline : Config → Request → Noted Outcome}
    (h : (request.runPipeline pipeline).value = .registered units) :
    ∃ config, request.resolveConfig.value = .ok (some config) ∧
      (pipeline config request).value = .registered units := by
  rw [runPipeline, Noted.value_bind] at h
  split at h
  · next config hresolve => exact ⟨config, hresolve, h⟩
  · cases h
  · cases h

/-- The request is configured with a schema, and these are the services in it. -/
def Lists (request : Request) (services : List Service) : Prop :=
  ∃ config fileName, request.resolveConfig.value = .ok (some config) ∧
    config.schemaFileName = some fileName ∧
    Schema.load request.texts fileName = .ok (some services)

/-- Registered controllers are those of the services in the schema. -/
theorem lists_of_registered (h : (request.runControllers renderer).value = .registered units) :
    ∃ services, request.Lists services ∧
      Pipeline.controllerUnits renderer services = .ok units := by
  obtain ⟨config, hresolve, hpipeline⟩ := registered_of_runPipeline h
  obtain ⟨fileName, services, hname, hload, hunits⟩ :=
    Pipeline.controllerUnits_of_registered hpipeline
  exact ⟨services, ⟨config, fileName, hresolve, hname, hload⟩, hunits⟩

end Request

/-- Let the controllers of a run be registered.  They are those of the services in the schema, and
all their routes differ; each route can be read as the name of its service, the name of its
operation, and the number of the operation among those of that name. -/
theorem routes_told_apart {request : Request} {units : List GeneratedUnit}
    (h : (request.runControllers Renderer.builtIn).value = .registered units) :
    ∃ services views, request.Lists services ∧
      List.Forall₂ (Pipeline.IsController Renderer.builtIn) services units ∧
      List.Forall₂ (fun s view => ControllerView.ofService s = .ok view) services views ∧
      (views.flatMap ControllerView.routes).Nodup ∧
      (views.flatMap ControllerView.routes).map Endpoint.ofRoute? =
        (services.flatMap Service.endpoints).map some := by
  obtain ⟨services, hlists, hstaged⟩ := Request.lists_of_registered h
  obtain ⟨hunits, hnodup⟩ := Pipeline.isController_of_controllerUnits hstaged
  have hfit : ∀ s ∈ services, s.checkIdentifiers = .ok () :=
    ((List.forall₂_and_left _ _).mp (hunits.imp fun _ _ hunit =>
      ⟨ControllerView.checkIdentifiers_of_controller hunit.text, hunit⟩)).1
  have hnames : (services.map Service.name).Nodup := by
    rw [List.Nodup, List.pairwise_map] at hnodup ⊢
    exact hnodup.imp fun hne hname => hne (by rw [Service.unitName, Service.unitName, hname])
  have hroutes := ControllerView.map_ofRoute?_flatMap_routes hfit
  refine ⟨services, services.map ControllerView.ofFit, hlists, hunits, ?_, ?_, hroutes⟩
  · rw [List.forall₂_map_right_iff, List.forall₂_same]
    exact fun s hs => ControllerView.ofService_eq (hfit s hs)
  · have hendpoints := Service.nodup_flatMap_endpoints hnames
    refine List.Nodup.of_map Endpoint.ofRoute? ?_
    rw [hroutes]
    exact hendpoints.map (Option.some_injective _)

/-- Overloads, in services whose names and operations look alike. -/
theorem routes_told_apart_overloads :
    let schema := "[\x7b\"Name\":\"A\",\"Operations\":" ++
      "[\x7b\"Name\":\"b\"\x7d,\x7b\"Name\":\"b\"\x7d,\x7b\"Name\":\"b_2\"\x7d]\x7d," ++
      "\x7b\"Name\":\"A_b\",\"Operations\":[\x7b\"Name\":\"B\"\x7d,\x7b\"Name\":\"b\"\x7d]\x7d]"
    let request : Request := ⟨"app", ⟨[]⟩,
      [⟨"analyzer.config.json", "\x7b\"JsonSchema\":\"services.json\"\x7d"⟩,
       ⟨"services.json", schema⟩]⟩
    ∃ units, (request.runControllers Renderer.builtIn).value = .registered units ∧
      units.map GeneratedUnit.name =
        ["AController.generated.rs", "A_bController.generated.rs"] ∧
      ∃ services views, request.Lists services ∧
        List.Forall₂ (Pipeline.IsController Renderer.builtIn) services units ∧
        List.Forall₂ (fun s view => ControllerView.ofService s = .ok view) services views ∧
        (views.flatMap ControllerView.routes).Nodup ∧
        (views.flatMap ControllerView.routes).map Endpoint.ofRoute? =
          (services.flatMap Service.endpoints).map some := by
  intro schema request
  have hregistered : (request.runControllers Renderer.builtIn).value.isRegistered = true := by
    decide +kernel
  have hvalue := Outcome.eq_registered hregistered
  exact ⟨_, hvalue, by decide +kernel, routes_told_apart hvalue⟩

end ServiceStubs
