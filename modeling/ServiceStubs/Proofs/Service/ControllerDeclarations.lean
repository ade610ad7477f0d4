import ServiceStubs.Declarations.OfRust
import ServiceStubs.Proofs.Service.ControllerItems

/-!
# The declarations of a controller

A generated controller is source text like any other.  Read back, it declares one class whose
members are the dispatcher and the entry points of the operations.
-/

namespace ServiceStubs

open ServiceStubs.Rust

namespace ControllerView

variable {s : Service}

/-- The members of a controller's class. -/
def members (s : Service) : List Member :=
  ⟨"dispatch", .ordinary, .everywhere, "Option"⟩ ::
    s.routed.map fun r => ⟨r.handler, .ordinary, .everywhere, "str"⟩

theorem controllerName_ne_option (name : String) : name ++ "Controller" ≠ "Option" := by
  intro h
  have hlength := congrArg String.length h
  rw [String.length_append] at hlength
  have hcontroller : "Controller".length = 10 := by decide
  have hoption : "Option".length = 6 := by decide
  omega

/-- The dispatcher would be a constructor if the class were named like the type of its answers. -/
theorem toMember_dispatch (name : String) :
    Method.toMember (name ++ "Controller") none
        (methodOf "dispatch" (.applied false "Option" textTy)) =
      ⟨"dispatch", .ordinary, .everywhere, "Option"⟩ := by
  have hne : ("Option" == name ++ "Controller") = false :=
    beq_eq_false_iff_ne.mpr (controllerName_ne_option name).symm
  have hmakes : (Ty.applied false "Option" textTy).makes (name ++ "Controller") = false := by
    simp [Ty.makes, textTy, hne]
  simp only [Method.toMember, Method.kind, Method.returnType, methodOf, hmakes, Ty.label,
    Bool.not_false, Bool.true_and, Bool.false_eq_true, if_false]

theorem toMember_methods (s : Service) :
    (methods s).map (Method.toMember (s.name ++ "Controller") none) = members s := by
  rw [methods, members, List.map_cons, List.map_map, toMember_dispatch]
  rfl

theorem allFindings_items (scope : String) :
    Item.allFindings scope (items s) =
      [.declared (s.name ++ "Controller") scope .everywhere,
       .members (s.name ++ "Controller") scope (members s)] := by
  rw [← toMember_methods]
  rfl

/-- One class and one set of members for it. -/
theorem snapshotOf_single (path name scope : String) (ms : List Member) :
    snapshotOf [(path, [.declared name scope .everywhere, .members name scope ms])] =
      ⟨[⟨path, [⟨name, scope, .everywhere, ms⟩]⟩]⟩ := by
  have hclasses : placeMembers [.declared name scope .everywhere, .members name scope ms] []
      [⟨name, scope, .everywhere, []⟩] = [⟨name, scope, .everywhere, ms⟩] := by
    simp [placeMembers, Finding.membersOf]
  show Snapshot.mk [⟨path, placeMembers _ [] _⟩] = _
  rw [List.flatMap_cons, List.flatMap_nil, List.append_nil]
  exact congrArg (fun classes => Snapshot.mk [⟨path, classes⟩]) hclasses

theorem ofRust_controller (h : s.checkIdentifiers = .ok ()) {text : String}
    (htext : text.toList = (ofFit s).chars) (path scope : String) :
    Snapshot.ofRust [⟨path, scope, text⟩] =
      .ok ⟨[⟨path, [⟨s.name ++ "Controller", scope, .everywhere, members s⟩]⟩]⟩ := by
  have hfindings : findingsOf ⟨path, scope, text⟩ = .ok (path,
      [.declared (s.name ++ "Controller") scope .everywhere,
       .members (s.name ++ "Controller") scope (members s)]) := by
    rw [findingsOf, items?_eq h htext, ← allFindings_items]
  rw [Snapshot.ofRust, List.mapM_cons, hfindings]
  exact congrArg Except.ok (snapshotOf_single path _ scope _)

end ControllerView

/-- The controller of a service with fit names is read back, from a file of any path and for any
module path, as one public class of the controller's name.  Its members are the dispatcher and then
the handlers of the operations in their order. -/
theorem controller_readsBack {s : Service} (h : s.checkIdentifiers = .ok ())
    (path scope : String) :
    ∃ view text,
      ControllerView.ofService s = .ok view ∧
      Renderer.builtIn.controller s = .ok text ∧
      view.operations.map OperationView.name = s.operations.map Operation.name ∧
      Snapshot.ofRust [⟨path, scope, text⟩] = .ok
        ⟨[⟨path, [⟨s.name ++ "Controller", scope, .everywhere,
          ⟨"dispatch", .ordinary, .everywhere, "Option"⟩ ::
            view.operations.map fun o => ⟨o.handler, .ordinary, .everywhere, "str"⟩⟩]⟩]⟩ := by
  obtain ⟨text, htext, hchars⟩ := ControllerView.controller_eq h
  refine ⟨ControllerView.ofFit s, text, ControllerView.ofService_eq h, htext, ?_, ?_⟩
  · simp only [ControllerView.ofFit, List.map_map, ← Service.map_operation_routed s]
    rfl
  · rw [ControllerView.ofRust_controller h hchars]
    simp only [ControllerView.ofFit, List.map_map]
    rfl

/-- Two operations of one name, with texts that would end the comments and the literals they are put
into. -/
theorem controller_readsBack_overloads :
    ∃ text,
      Renderer.builtIn.controller ⟨"Orders", "shop\n*/ fn", "api\r", [⟨"list", "Page", "ok"⟩,
        ⟨"list", "a `\u2028 b", "\" //\n\\"⟩]⟩ = .ok text ∧
      Snapshot.ofRust [⟨"orders.rs", "api", text⟩] = .ok
        ⟨[⟨"orders.rs", [⟨"OrdersController", "api", .everywhere,
          [⟨"dispatch", .ordinary, .everywhere, "Option"⟩,
           ⟨"list", .ordinary, .everywhere, "str"⟩,
           ⟨"list_2", .ordinary, .everywhere, "str"⟩]⟩]⟩]⟩ := by
  obtain ⟨view, text, hview, htext, -, hread⟩ := controller_readsBack
    (s := ⟨"Orders", "shop\n*/ fn", "api\r", [⟨"list", "Page", "ok"⟩,
      ⟨"list", "a `\u2028 b", "\" //\n\\"⟩]⟩) rfl "orders.rs" "api"
  obtain rfl := Except.ok.inj hview
  exact ⟨text, htext, hread⟩

end ServiceStubs
