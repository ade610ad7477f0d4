import ServiceStubs.Proofs.Service.ControllerTrees

/-!
# Controllers dispatch

A controller is read back from its token trees: the rows of its route table, the arms of its
dispatcher from top to bottom, and its entry points with the texts they answer with.  Run on a path,
the arms find the operation whose route it is, and nothing for any other path.
-/

namespace ServiceStubs

open ServiceStubs.Rust (Literal.stringValue? Token Tree tokens?)

/-- What the code of a controller does, with its string literals decoded. -/
structure Dispatcher where
  /-- The rows of the route table. -/
  rows : List (String × String)
  /-- The patterns that a path is matched against, with the functions called on a match. -/
  arms : List (String × String)
  /-- The other functions, with the texts they give. -/
  functions : List (String × String)

namespace Dispatcher

/-! ## Reading the code -/

/-- The value of a string literal. -/
def value? : Tree → Option String
  | .literal spelling => (Rust.Literal.stringValue? spelling.toList).map String.ofList
  | _ => none

/-- Reads pairs of string literals, each with a comma after it. -/
def rows? : List Tree → Option (List (String × String))
  | [] => some []
  | .group .parenthesis [first, .punct ',' _, second] :: .punct ',' _ :: ts => do
    let first ← value? first
    let second ← value? second
    let rows ← rows? ts
    return (first, second) :: rows
  | _ => none

/-- Reads arms that call a function without arguments, and a last one that gives nothing. -/
def arms? : List Tree → Option (List (String × String))
  | [.ident "_", .punct '=' true, .punct '>' _, .ident "None", .punct ',' _] => some []
  | pattern :: .punct '=' true :: .punct '>' _ :: .ident "Some" ::
      .group .parenthesis
        [.ident "Self", .punct ':' true, .punct ':' _, .ident function, .group .parenthesis []] ::
      .punct ',' _ :: ts => do
    let pattern ← value? pattern
    let arms ← arms? ts
    return (pattern, function) :: arms
  | _ => none

/-- Reads public functions that give the value of a string literal, each after an attribute. -/
def functions? : List Tree → Option (List (String × String))
  | [] => some []
  | .punct '#' _ :: .group .bracket _ :: .ident "pub" :: .ident "fn" :: .ident name ::
      .group .parenthesis [] :: .punct '-' true :: .punct '>' _ :: .punct '&' _ ::
      .lifetime "'static" :: .ident "str" :: .group .brace [body] :: ts => do
    let body ← value? body
    let functions ← functions? ts
    return (name, body) :: functions
  | _ => none

/-- Reads the content of an implementation: the route table, the dispatcher, and functions. -/
def members? : List Tree → Option Dispatcher
  | .punct '#' _ :: .group .bracket _ :: .ident "pub" :: .ident "const" :: .ident "ROUTES" ::
      .punct ':' _ :: .punct '&' _ :: .lifetime "'static" :: .group .bracket _ :: .punct '=' _ ::
      .punct '&' _ :: .group .bracket rows :: .punct ';' _ ::
      .punct '#' _ :: .group .bracket _ :: .ident "pub" :: .ident "fn" :: .ident "dispatch" ::
      .group .parenthesis [.ident "path", .punct ':' _, .punct '&' _, .ident "str"] ::
      .punct '-' true :: .punct '>' _ :: .ident "Option" :: .punct '<' _ :: .punct '&' _ ::
      .lifetime "'static" :: .ident "str" :: .punct '>' _ ::
      .group .brace [.ident "match", .ident "path", .group .brace arms] :: functions => do
    let rows ← rows? rows
    let arms ← arms? arms
    let functions ← functions? functions
    return ⟨rows, arms, functions⟩
  | _ => none

/-- Reads a structure without fields and its implementation. -/
def ofTrees? : List Tree → Option Dispatcher
  | [.punct '#' _, .group .bracket _, .ident "pub", .ident "struct", .ident declared, .punct ';' _,
     .ident "impl", .ident implemented, .group .brace members] =>
    if declared = implemented then members? members else none
  | _ => none

/-- Reads the text of a controller. -/
def ofText? (text : String) : Option Dispatcher := do
  let tokens ← tokens? text.toList
  let trees ← Token.nest [] [] tokens
  ofTrees? trees

/-! ## Running it -/

/-- The function that the first matching arm calls. -/
def select (d : Dispatcher) (path : String) : Option String :=
  (d.arms.find? (·.1 == path)).map Prod.snd

/-- What the dispatcher gives for a path. -/
def dispatch (d : Dispatcher) (path : String) : Option String := do
  let function ← d.select path
  let (_, body) ← d.functions.find? (·.1 == function)
  return body

/-! ## The controller of a service -/

/-- What the controller of a service does. -/
def ofService (s : Service) : Dispatcher where
  rows := s.routed.map fun r => ((r.view s.name).route, r.handler)
  arms := s.routed.map fun r => ((r.view s.name).route, r.handler)
  functions := s.routed.map fun r => (r.handler, r.operation.placeholder)

theorem value?_quoted (v : String) : value? (.literal (Text.quoted v)) = some v := by
  rw [value?, Text.quoted, String.toList_ofList, Rust.Literal.stringValue?_encode, Option.map_some,
    String.ofList_toList]

theorem rows?_routed (service : String) (rs : List Routed) :
    rows? (rs.flatMap (Routed.rowTrees service)) =
      some (rs.map fun r => ((r.view service).route, r.handler)) := by
  induction rs with
  | nil => rfl
  | cons r rs ih =>
    have hstep (ts : List Tree) : rows? (r.rowTrees service ++ ts) = do
        let route ← value? (.literal (Text.quoted (r.view service).route))
        let handler ← value? (.literal (Text.quoted r.handler))
        let rows ← rows? ts
        return (route, handler) :: rows := rfl
    rw [List.flatMap_cons, hstep, value?_quoted, value?_quoted, ih]
    rfl

theorem arms?_routed (service : String) (rs : List Routed) :
    arms? (rs.flatMap (Routed.armTrees service) ++ ControllerView.lastArmTrees) =
      some (rs.map fun r => ((r.view service).route, r.handler)) := by
  induction rs with
  | nil => rfl
  | cons r rs ih =>
    have hstep (ts : List Tree) : arms? (r.armTrees service ++ ts) = do
        let route ← value? (.literal (Text.quoted (r.view service).route))
        let arms ← arms? ts
        return (route, r.handler) :: arms := rfl
    rw [List.flatMap_cons, List.append_assoc, hstep, value?_quoted, ih]
    rfl

theorem functions?_routed (service : String) (rs : List Routed) :
    functions? (rs.flatMap (Routed.entryTrees service)) =
      some (rs.map fun r => (r.handler, r.operation.placeholder)) := by
  induction rs with
  | nil => rfl
  | cons r rs ih =>
    have hstep (ts : List Tree) : functions? (r.entryTrees service ++ ts) = do
        let body ← value? (.literal (Text.quoted r.operation.placeholder))
        let functions ← functions? ts
        return (r.handler, body) :: functions := rfl
    rw [List.flatMap_cons, hstep, value?_quoted, ih]
    rfl

/-- The reader finds what the controller was made of. -/
theorem ofTrees?_trees (s : Service) :
    ofTrees? (ControllerView.trees s) = some (ofService s) := by
  have hmembers : members? (ControllerView.memberTrees s) = do
      let rows ← rows? (s.routed.flatMap (Routed.rowTrees s.name))
      let arms ← arms? (s.routed.flatMap (Routed.armTrees s.name) ++ ControllerView.lastArmTrees)
      let functions ← functions? (s.routed.flatMap (Routed.entryTrees s.name))
      return ⟨rows, arms, functions⟩ := rfl
  have htrees : ofTrees? (ControllerView.trees s) =
      if s.name ++ "Controller" = s.name ++ "Controller" then
        members? (ControllerView.memberTrees s)
      else none := rfl
  rw [htrees, if_pos rfl, hmembers, rows?_routed, arms?_routed, functions?_routed]
  rfl

/-! ## Looking up by a key -/

section Keys

variable {α : Type} (key value : α → String) {rs : List α}

/-- Where keys differ, exactly one pair has the key of a given element. -/
theorem filter_key (hnodup : (rs.map key).Nodup) {r : α} (hr : r ∈ rs) :
    (rs.map fun r => (key r, value r)).filter (·.1 == key r) = [(key r, value r)] := by
  induction rs with
  | nil => cases hr
  | cons a rs ih =>
    rw [List.map_cons, List.nodup_cons] at hnodup
    rw [List.map_cons, List.filter_cons]
    rcases List.mem_cons.mp hr with rfl | hr
    · have hrest : (rs.map fun r => (key r, value r)).filter (·.1 == key r) = [] := by
        apply List.filter_eq_nil_iff.mpr
        intro p hp hkey
        obtain ⟨b, hb, rfl⟩ := List.mem_map.mp hp
        have heq : key b = key r := eq_of_beq hkey
        exact hnodup.1 (heq ▸ List.mem_map_of_mem hb)
      rw [if_pos (beq_self_eq_true _), hrest]
    · have hne : (key a == key r) = false := by
        apply beq_eq_false_iff_ne.mpr
        intro heq
        exact hnodup.1 (heq ▸ List.mem_map_of_mem hr)
      rw [hne]
      exact ih hnodup.2 hr

theorem find?_key (hnodup : (rs.map key).Nodup) {r : α} (hr : r ∈ rs) :
    (rs.map fun r => (key r, value r)).find? (·.1 == key r) = some (key r, value r) := by
  rw [← List.head?_filter, filter_key key value hnodup hr]
  rfl

end Keys

variable {s : Service}

theorem select_route (h : s.checkIdentifiers = .ok ()) {r : Routed} (hr : r ∈ s.routed) :
    (ofService s).select (r.view s.name).route = some r.handler := by
  have hfind := find?_key (fun r => (r.view s.name).route) Routed.handler
    (Service.nodup_route h) hr
  simp only [select, ofService, hfind, Option.map_some]

theorem dispatch_route (h : s.checkIdentifiers = .ok ()) {r : Routed} (hr : r ∈ s.routed) :
    (ofService s).dispatch (r.view s.name).route = some r.operation.placeholder := by
  have hfind := find?_key Routed.handler (fun r => r.operation.placeholder)
    (Service.nodup_handler s).1 hr
  rw [dispatch, select_route h hr]
  simp only [ofService, Option.bind_eq_bind, Option.bind_some, hfind]
  rfl

/-- A path that is no route matches no pattern. -/
theorem dispatch_eq_none {path : String} (hpath : ∀ r ∈ s.routed, (r.view s.name).route ≠ path) :
    (∀ arm ∈ (ofService s).arms, arm.1 ≠ path) ∧ (ofService s).dispatch path = none := by
  have harms : ∀ arm ∈ (ofService s).arms, arm.1 ≠ path := by
    intro arm harm
    obtain ⟨r, hr, rfl⟩ := List.mem_map.mp harm
    exact hpath r hr
  have hselect : (ofService s).select path = none := by
    rw [select, Option.map_eq_none_iff, List.find?_eq_none]
    intro arm harm
    simpa using harms arm harm
  refine ⟨harms, ?_⟩
  rw [dispatch, hselect]
  rfl

theorem ofText?_eq (h : s.checkIdentifiers = .ok ()) {text : String}
    (htext : text.toList = (ControllerView.ofFit s).chars) :
    ofText? text = some (ofService s) := by
  obtain ⟨tokens, htokens, hnest⟩ := ControllerView.nest_tokens h
  rw [ofText?, htext, htokens]
  simp only [Option.bind_eq_bind, Option.bind_some, hnest, ofTrees?_trees]

end Dispatcher

/-- The controller of a service with fit names answers each route with the placeholder of its own
operation, by a function that no other one shares its name with, and answers nothing else. -/
theorem controller_dispatches {s : Service} (h : s.checkIdentifiers = .ok ()) :
    ∃ view text d,
      ControllerView.ofService s = .ok view ∧
      Renderer.builtIn.controller s = .ok text ∧
      Dispatcher.ofText? text = some d ∧
      view.operations.map OperationView.name = s.operations.map Operation.name ∧
      d.rows = view.operations.map (fun o => (o.route, o.handler)) ∧
      (∀ (i : Nat) (v : OperationView) (o : Operation),
        view.operations[i]? = some v → s.operations[i]? = some o →
          d.select v.route = some v.handler ∧
          v.handler ≠ "dispatch" ∧
          d.functions.filter (·.1 == v.handler) = [(v.handler, o.placeholder)] ∧
          d.dispatch v.route = some o.placeholder) ∧
      ∀ path, (∀ v ∈ view.operations, v.route ≠ path) →
        (∀ arm ∈ d.arms, arm.1 ≠ path) ∧ d.dispatch path = none := by
  obtain ⟨text, htext, hchars⟩ := ControllerView.controller_eq h
  refine ⟨ControllerView.ofFit s, text, Dispatcher.ofService s, ControllerView.ofService_eq h,
    htext, Dispatcher.ofText?_eq h hchars, ?_, ?_, ?_, ?_⟩
  · simp only [ControllerView.ofFit, List.map_map, ← Service.map_operation_routed s]
    rfl
  · simp only [ControllerView.ofFit, Dispatcher.ofService, List.map_map]
    rfl
  · intro i v o hv ho
    simp only [ControllerView.ofFit, List.getElem?_map, Option.map_eq_some_iff] at hv
    obtain ⟨r, hr, rfl⟩ := hv
    rw [← Service.map_operation_routed s, List.getElem?_map, hr] at ho
    obtain rfl := Option.some.inj ho
    have hmem := List.mem_of_getElem? hr
    exact ⟨Dispatcher.select_route h hmem, (Service.nodup_handler s).2 r hmem,
      Dispatcher.filter_key Routed.handler _ (Service.nodup_handler s).1 hmem,
      Dispatcher.dispatch_route h hmem⟩
  · intro path hpath
    refine Dispatcher.dispatch_eq_none fun r hr => ?_
    exact hpath (r.view s.name) (List.mem_map_of_mem hr)

/-- Two operations of one name; the second placeholder would end the literal that it is put into. -/
theorem controller_dispatches_overloads :
    ∃ text d,
      Renderer.builtIn.controller ⟨"Orders", "shop", "", [⟨"list", "Page", "ok"⟩,
        ⟨"list", "Page", "\"\n\\"⟩]⟩ = .ok text ∧
      Dispatcher.ofText? text = some d ∧
      d.dispatch "/api/Orders/list" = some "ok" ∧
      d.dispatch "/api/Orders/list/2" = some "\"\n\\" ∧
      d.dispatch "/api/Orders/list/3" = none := by
  have hfit : (⟨"Orders", "shop", "", [⟨"list", "Page", "ok"⟩,
      ⟨"list", "Page", "\"\n\\"⟩]⟩ : Service).checkIdentifiers = .ok () := rfl
  obtain ⟨view, text, d, hview, htext, hd, -, -, hoperations, hnone⟩ := controller_dispatches hfit
  obtain rfl := Except.ok.inj hview
  exact ⟨text, d, htext, hd, (hoperations 0 _ _ rfl rfl).2.2.2, (hoperations 1 _ _ rfl rfl).2.2.2,
    (hnone _ (by decide)).2⟩

end ServiceStubs
