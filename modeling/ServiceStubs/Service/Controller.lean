import ServiceStubs.Service.Basic
import ServiceStubs.Template.Basic
import ServiceStubs.Text.Comment
import ServiceStubs.Text.Quoted

/-!
# Controllers

A controller routes each operation of a service to a handler of its own.  What the template
sees is worked out here, with every text already fit for its position in the generated code.
Routes and handler names depend only on the operations before, so appending an operation
changes none that is there.
-/

namespace ServiceStubs

/-- The route of an operation. -/
def routePath (service operation : String) : String :=
  "/api/" ++ service ++ "/" ++ operation

/-- Handler names that every controller uses for itself. -/
def reservedHandlers : List String := ["dispatch"]

/-- One routed operation. -/
structure OperationView where
  name : String
  handler : String
  route : String
  routeLiteral : String
  handlerLiteral : String
  returnTypeDoc : String
  resultLiteral : String
  deriving DecidableEq, Repr

/-- A controller before it is rendered. -/
structure ControllerView where
  serviceName : String
  controllerName : String
  sourceDoc : String
  targetDoc : String
  operations : List OperationView
  deriving DecidableEq, Repr

namespace ControllerView

/-- The route of the `occurrence`-th operation of that name; from the second on it is
numbered. -/
def routeOf (service operation : String) (occurrence : Nat) : String :=
  let route := routePath service operation
  if 1 < occurrence then route ++ "/" ++ toString occurrence else route

/-- The first of `base`, `base_2`, `base_3` and so on that is not used, from a suffix on.  The suffix
is unbounded here; a counter of 32 signed bits gives the same names while fewer than `2 ^ 31 - 1`
are used. -/
def freeFrom (base : String) (used : List String) : Nat → Nat → String
  | 0, suffix => base ++ "_" ++ toString suffix
  | fuel + 1, suffix =>
    let candidate := if suffix ≤ 1 then base else base ++ "_" ++ toString suffix
    if used.contains candidate then freeFrom base used fuel (suffix + 1) else candidate

/-- The first free handler name.  One more attempt than there are used names always finds
one. -/
def freeHandler (operation : String) (used : List String) : String :=
  freeFrom (Naming.handlerName operation) used (used.length + 1) 1

/-- The view of an operation, given its occurrence and handler. -/
def viewOf (service : String) (o : Operation) (occurrence : Nat) (handler : String) :
    OperationView :=
  let route := routeOf service o.name occurrence
  { name := o.name
    handler := handler
    route := route
    routeLiteral := Text.quoted route
    handlerLiteral := Text.quoted handler
    returnTypeDoc := Text.Comment.codeSpan o.returnType
    resultLiteral := Text.quoted o.placeholder }

/-- The views of operations, given the names of the operations before and the handler names
already used. -/
def viewsFrom (service : String) (earlier used : List String) :
    List Operation → List OperationView
  | [] => []
  | o :: rest =>
    let handler := freeHandler o.name used
    viewOf service o (earlier.count o.name + 1) handler ::
      viewsFrom service (o.name :: earlier) (handler :: used) rest

/-- The view of a service whose names are fit for generated code. -/
def ofService (s : Service) : Except Fault ControllerView := do
  s.checkIdentifiers
  let source :=
    if s.sourceNamespace.isEmpty then s.name else s.sourceNamespace ++ "::" ++ s.name
  return {
    serviceName := s.name
    controllerName := s.name ++ "Controller"
    sourceDoc := Text.Comment.singleLine source
    targetDoc := Text.Comment.singleLine s.targetNamespace
    operations := viewsFrom s.name [] reservedHandlers s.operations }

end ControllerView

open ServiceStubs.Template (Data Part)

/-- An operation as the template sees it. -/
def OperationView.toData (o : OperationView) : Data :=
  .record
    [("name", .text o.name), ("fn_name", .text o.handler), ("route", .text o.route),
     ("route_literal", .text o.routeLiteral), ("fn_literal", .text o.handlerLiteral),
     ("return_type_doc", .text o.returnTypeDoc), ("result_literal", .text o.resultLiteral)]

/-- The names that the controller template can refer to. -/
def ControllerView.toScope (c : ControllerView) : Template.Scope :=
  [("service_name", .text c.serviceName), ("controller_name", .text c.controllerName),
   ("source_doc", .text c.sourceDoc), ("target_doc", .text c.targetDoc),
   ("operations", .list (c.operations.map OperationView.toData))]

/-- The built-in controller: a route table, a dispatcher that tries the routes in order, and
one handler for each operation. -/
def ControllerView.template : List Part :=
  [.text "// <auto-generated>\n// Generated by servicegen from ",
   .value ["source_doc"],
   .text ". Do not edit.",
   .choice ["target_doc"] [.text "\n// Target: ", .value ["target_doc"]] [],
   .text "\n// </auto-generated>\n\n/// Routed entry points for the `",
   .value ["service_name"],
   .text "` service.\npub struct ",
   .value ["controller_name"],
   .text ";\n\nimpl ",
   .value ["controller_name"],
   .text " \x7b\n    /// Route paths and handler names in declaration order.\n",
   .text "    pub const ROUTES: &'static [(&'static str, &'static str)] = &[",
   .each "op" ["operations"]
     [.text "\n        (", .value ["op", "route_literal"], .text ", ",
      .value ["op", "fn_literal"], .text "),"],
   .text "\n    ];\n\n    /// Resolves a route path to its handler's response.\n",
   .text "    pub fn dispatch(path: &str) -> Option<&'static str> \x7b\n        match path \x7b",
   .each "op" ["operations"]
     [.text "\n            ", .value ["op", "route_literal"], .text " => Some(Self::",
      .value ["op", "fn_name"], .text "()),"],
   .text "\n            _ => None,\n        \x7d\n    \x7d",
   .each "op" ["operations"]
     [.text "\n\n    /// `GET ", .value ["op", "route"], .text "`",
      .choice ["op", "return_type_doc"]
        [.text " standing in for `", .value ["op", "return_type_doc"], .text "`"] [],
      .text ".\n    pub fn ", .value ["op", "fn_name"],
      .text "() -> &'static str \x7b\n        ", .value ["op", "result_literal"],
      .text "\n    \x7d"],
   .text "\n\x7d\n"]

end ServiceStubs
