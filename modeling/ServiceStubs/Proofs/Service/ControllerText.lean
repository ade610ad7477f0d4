import ServiceStubs.Proofs.Service.Routing
import ServiceStubs.Proofs.Template.Rendering
import ServiceStubs.Renderer

/-!
# The text of a controller

The built-in template always renders, and its text is a fixed frame around the names of the service,
with one row, one arm and one entry point for each operation.
-/

namespace ServiceStubs

open ServiceStubs.Template (Renders)

namespace OperationView

/-- The row of an operation in the route table. -/
def rowChars (o : OperationView) : List Char :=
  "\n        (".toList ++ (o.routeLiteral.toList ++ (", ".toList ++ (o.handlerLiteral.toList ++
    "),".toList)))

/-- The arm of an operation in the dispatcher. -/
def armChars (o : OperationView) : List Char :=
  "\n            ".toList ++ (o.routeLiteral.toList ++ (" => Some(Self::".toList ++
    (o.handler.toList ++ "()),".toList)))

/-- What the doc comment of an entry point says of its type, if it says anything. -/
def typeChars (o : OperationView) : List Char :=
  if o.returnTypeDoc.isEmpty then []
  else " standing in for \x60".toList ++ (o.returnTypeDoc.toList ++ "\x60".toList)

/-- The entry point of an operation. -/
def entryChars (o : OperationView) : List Char :=
  "\n\n    /// \x60GET ".toList ++ (o.route.toList ++ ("\x60".toList ++ (o.typeChars ++
    (".\n    pub fn ".toList ++ (o.handler.toList ++
      ("() -> &'static str \x7b\n        ".toList ++ (o.resultLiteral.toList ++
        "\n    \x7d".toList)))))))

end OperationView

namespace ControllerView

/-- The line that names the target namespace, if there is one. -/
def targetChars (c : ControllerView) : List Char :=
  if c.targetDoc.isEmpty then [] else "\n// Target: ".toList ++ c.targetDoc.toList

/-- The characters of a controller. -/
def chars (c : ControllerView) : List Char :=
  "// <auto-generated>\n// Generated by servicegen from ".toList ++ (c.sourceDoc.toList ++
    (". Do not edit.".toList ++ (c.targetChars ++
      ("\n// </auto-generated>\n\n/// Routed entry points for the \x60".toList ++
        (c.serviceName.toList ++ ("\x60 service.\npub struct ".toList ++
          (c.controllerName.toList ++ (";\n\nimpl ".toList ++ (c.controllerName.toList ++
  (" \x7b\n    /// Route paths and handler names in declaration order.\n".toList ++
    ("    pub const ROUTES: &'static [(&'static str, &'static str)] = &[".toList ++
      (c.operations.flatMap OperationView.rowChars ++
  ("\n    ];\n\n    /// Resolves a route path to its handler's response.\n".toList ++
    ("    pub fn dispatch(path: &str) -> Option<&'static str> \x7b\n        match path \x7b".toList
      ++ (c.operations.flatMap OperationView.armChars ++
  ("\n            _ => None,\n        \x7d\n    \x7d".toList ++
    (c.operations.flatMap OperationView.entryChars ++ "\n\x7d\n".toList)))))))))))))))))

/-! ## Rendering -/

variable {scope : Template.Scope}

theorem renders_row (o : OperationView) :
    Renders (("op", o.toData) :: scope)
      [.text "\n        (", .value ["op", "route_literal"], .text ", ",
       .value ["op", "fn_literal"], .text "),"] o.rowChars :=
  .text _ (.value rfl (.text _ (.value rfl (.lastText _))))

theorem renders_arm (o : OperationView) :
    Renders (("op", o.toData) :: scope)
      [.text "\n            ", .value ["op", "route_literal"], .text " => Some(Self::",
       .value ["op", "fn_name"], .text "()),"] o.armChars :=
  .text _ (.value rfl (.text _ (.value rfl (.lastText _))))

theorem renders_entry (o : OperationView) :
    Renders (("op", o.toData) :: scope)
      [.text "\n\n    /// \x60GET ", .value ["op", "route"], .text "\x60",
       .choice ["op", "return_type_doc"]
        [.text " standing in for \x60", .value ["op", "return_type_doc"], .text "\x60"] [],
       .text ".\n    pub fn ", .value ["op", "fn_name"],
       .text "() -> &'static str \x7b\n        ", .value ["op", "result_literal"],
       .text "\n    \x7d"] o.entryChars := by
  refine .text _ (.value rfl (.text _ (.choice (s := o.returnTypeDoc) rfl ?_ (.text _ (.value rfl
    (.text _ (.value rfl (.lastText _))))))))
  rw [OperationView.typeChars]
  split_ifs
  · exact .nil
  · exact .text _ (.value rfl (.lastText _))

theorem renders_template (c : ControllerView) : Renders c.toScope template c.chars := by
  have htarget : Renders c.toScope
      (if c.targetDoc.isEmpty then [] else [.text "\n// Target: ", .value ["target_doc"]])
      c.targetChars := by
    rw [targetChars]
    split_ifs
    · exact .nil
    · exact .text _ (.lastValue rfl)
  refine .text _ (.value rfl (.text _ (.choice rfl htarget ?_)))
  refine .text _ (.value rfl (.text _ (.value rfl (.text _ (.value rfl ?_)))))
  refine .text _ (.text _ (.each rfl (fun o _ => renders_row o) ?_))
  refine .text _ (.text _ (.each rfl (fun o _ => renders_arm o) ?_))
  exact .text _ (.each rfl (fun o _ => renders_entry o) (.lastText _))

/-- The view of a service with fit names. -/
def ofFit (s : Service) : ControllerView :=
  { serviceName := s.name
    controllerName := s.name ++ "Controller"
    sourceDoc := Text.Comment.singleLine
      (if s.sourceNamespace.isEmpty then s.name else s.sourceNamespace ++ "::" ++ s.name)
    targetDoc := Text.Comment.singleLine s.targetNamespace
    operations := s.routed.map (Routed.view s.name) }

theorem ofService_eq {s : Service} (h : s.checkIdentifiers = .ok ()) :
    ofService s = .ok (ofFit s) := by
  rw [ofService, h, Routed.viewsFrom_eq]
  rfl

/-- A service with fit names gets a controller, with these characters. -/
theorem controller_eq {s : Service} (h : s.checkIdentifiers = .ok ()) :
    ∃ text, Renderer.builtIn.controller s = .ok text ∧ text.toList = (ofFit s).chars := by
  obtain ⟨text, htext, hchars⟩ := renders_template (ofFit s)
  refine ⟨text, ?_, hchars⟩
  have hrender : Renderer.builtIn.controller s = (ofService s).bind fun view =>
      Renderer.renderNamed "controller.rs.tera" template view.toScope := rfl
  rw [hrender, ofService_eq h]
  simp only [Except.bind, Renderer.renderNamed, htext]

end ControllerView

end ServiceStubs
