import ServiceStubs.Proofs.Service.ControllerText

/-!
# Handlers in order

The handler of an operation is settled by the operations before it.  It is the first of the
candidates for its name that neither the dispatcher nor an earlier operation has, and the search
for it makes at most one more attempt than there are names taken.  So operations that are appended
leave the views of all others as they are.
-/

namespace ServiceStubs

open ServiceStubs.ControllerView (Search FirstFree freeHandler)

/-- A search asks only which names are used. -/
theorem ControllerView.Search.congr {base name : String} {used used' : List String}
    {n attempts : Nat} (h : Search base used n attempts name)
    (hused : ∀ name, name ∈ used ↔ name ∈ used') : Search base used' n attempts name := by
  induction h with
  | free h => exact .free (mt (hused _).mpr h)
  | taken h _ ih => exact .taken ((hused _).mp h) ih

namespace Routed

variable {earlier used : List String} {operations : List Operation} {i : Nat} {r : Routed}

/-- What is appended does not change what is there. -/
theorem listFrom_prefix (earlier used : List String) (operations more : List Operation) :
    listFrom earlier used operations <+: listFrom earlier used (operations ++ more) := by
  induction operations generalizing earlier used with
  | nil => exact List.nil_prefix
  | cons o rest ih => exact List.cons_prefix_cons.mpr ⟨rfl, ih _ _⟩

/-- The names that are used when the handler of an operation is searched for: those used from the
start and the handlers before. -/
theorem handler_eq_of_getElem? (hr : (listFrom earlier used operations)[i]? = some r) :
    ∃ taken, r.handler = freeHandler r.operation.name taken ∧ taken.length = used.length + i ∧
      ∀ name, name ∈ taken ↔
        name ∈ used ++ ((listFrom earlier used operations).take i).map Routed.handler := by
  induction operations generalizing earlier used i with
  | nil => cases hr
  | cons o rest ih =>
    cases i with
    | zero =>
      obtain rfl := Option.some.inj hr
      refine ⟨used, rfl, rfl, fun name => ?_⟩
      rw [List.take_zero, List.map_nil, List.append_nil]
    | succ i =>
      obtain ⟨taken, hhandler, hlength, htaken⟩ := ih hr
      refine ⟨taken, hhandler, by rw [hlength, List.length_cons]; omega, fun name => ?_⟩
      rw [htaken, listFrom, List.take_succ_cons, List.map_cons]
      simp only [List.mem_append, List.mem_cons]
      tauto

end Routed

namespace ControllerView

/-- The names that are taken when the handler of the `i`-th operation is searched for: that of the
dispatcher and the handlers before. -/
def takenBefore (view : ControllerView) (i : Nat) : List String :=
  "dispatch" :: (view.operations.take i).map OperationView.handler

variable {s : Service} {i : Nat}

theorem search_handler {v : OperationView} (hv : (ofFit s).operations[i]? = some v) :
    ∃ attempts ≤ ((ofFit s).takenBefore i).length + 1,
      Search (Naming.handlerName v.name) ((ofFit s).takenBefore i) 1 attempts v.handler := by
  have hoperations : (ofFit s).operations = s.routed.map (Routed.view s.name) := rfl
  have hi : i < (ofFit s).operations.length := (List.getElem?_eq_some_iff.mp hv).1
  rw [hoperations, List.getElem?_map, Option.map_eq_some_iff] at hv
  obtain ⟨r, hr, rfl⟩ := hv
  obtain ⟨taken, hhandler, hlength, htaken⟩ := Routed.handler_eq_of_getElem? hr
  obtain ⟨attempts, hle, hsearch⟩ := search_freeHandler r.operation.name taken
  have hbefore : (ofFit s).takenBefore i =
      reservedHandlers ++ (s.routed.take i).map Routed.handler := by
    rw [takenBefore, hoperations, ← List.map_take, List.map_map]
    rfl
  refine ⟨attempts, ?_, ?_⟩
  · rw [takenBefore, List.length_cons, List.length_map, List.length_take_of_le hi.le]
    rw [hlength] at hle
    exact hle.trans_eq (by rw [reservedHandlers, List.length_singleton]; omega)
  · rw [hbefore]
    show Search (Naming.handlerName r.operation.name) _ 1 attempts r.handler
    rw [hhandler]
    exact hsearch.congr htaken

/-- The views of the first operations do not depend on what follows them. -/
theorem operations_prefix (s : Service) (more : List Operation) :
    (ofFit s).operations <+: (ofFit { s with operations := s.operations ++ more }).operations :=
  (Routed.listFrom_prefix [] reservedHandlers s.operations more).map (Routed.view s.name)

end ControllerView

theorem Service.checkIdentifiers_append {s : Service} {more : List Operation}
    (h : s.checkIdentifiers = .ok ())
    (hmore : ∀ o ∈ more, Naming.isIdentifier o.name = true) :
    checkIdentifiers { s with operations := s.operations ++ more } = .ok () := by
  obtain ⟨hname, hoperations⟩ := isIdentifier_of_checkIdentifiers h
  have hfind : (s.operations ++ more).find? (!Naming.isIdentifier ·.name) = none := by
    rw [List.find?_eq_none]
    intro o ho
    rcases List.mem_append.mp ho with ho | ho
    · simp [hoperations o ho]
    · simp [hmore o ho]
  simp only [checkIdentifiers, hname, hfind, Bool.not_true, Bool.false_eq_true, if_false]

/-- A service with fit names gets a view of each of its operations, in order.  The handler of each
is the first of the candidates for its name that is neither the name of the dispatcher nor the
handler of an operation before it; the search for it ends, with at most one more attempt than there
are such names.  If operations are appended, and their names are fit, the views of those that were
there stay as they are. -/
theorem handlers_first_free {s : Service} (h : s.checkIdentifiers = .ok ()) :
    ∃ view, ControllerView.ofService s = .ok view ∧
      view.operations.map OperationView.name = s.operations.map Operation.name ∧
      (∀ (i : Nat) (v : OperationView), view.operations[i]? = some v →
        FirstFree (Naming.handlerName v.name) (view.takenBefore i) v.handler ∧
          ∃ attempts ≤ (view.takenBefore i).length + 1,
            Search (Naming.handlerName v.name) (view.takenBefore i) 1 attempts v.handler) ∧
      ∀ more : List Operation, (∀ o ∈ more, Naming.isIdentifier o.name = true) →
        ∃ extended,
          ControllerView.ofService { s with operations := s.operations ++ more } = .ok extended ∧
            view.operations <+: extended.operations := by
  refine ⟨.ofFit s, ControllerView.ofService_eq h, ?_, ?_, ?_⟩
  · simp only [ControllerView.ofFit, List.map_map, ← Service.map_operation_routed s]
    rfl
  · intro i v hv
    obtain ⟨attempts, hle, hsearch⟩ := ControllerView.search_handler hv
    exact ⟨hsearch.firstFree, attempts, hle, hsearch⟩
  · intro more hmore
    have hextended := Service.checkIdentifiers_append h hmore
    exact ⟨_, ControllerView.ofService_eq hextended, ControllerView.operations_prefix s more⟩

/-- The third operation passes its own name and a candidate that is another's name. -/
theorem handlers_first_free_third :
    let s : Service := ⟨"Orders", "shop", "", [⟨"foo", "", ""⟩, ⟨"foo_2", "", ""⟩, ⟨"Foo", "", ""⟩]⟩
    s.checkIdentifiers = .ok () ∧ ∃ view, ControllerView.ofService s = .ok view ∧
      view.operations.map OperationView.handler = ["foo", "foo_2", "foo_3"] ∧
      (∃ attempts ≤ 4, Search "foo" ["dispatch", "foo", "foo_2"] 1 attempts "foo_3") ∧
      ∃ extended,
        ControllerView.ofService { s with operations := s.operations ++ [⟨"FOO", "", ""⟩] } =
          .ok extended ∧ view.operations <+: extended.operations := by
  intro s
  have h : s.checkIdentifiers = .ok () := by decide +kernel
  obtain ⟨view, hview, -, hsearch, happend⟩ := handlers_first_free h
  obtain rfl := Except.ok.inj ((ControllerView.ofService_eq h).symm.trans hview)
  have htaken : (ControllerView.ofFit s).takenBefore 2 = ["dispatch", "foo", "foo_2"] := by
    decide +kernel
  have hthird : (ControllerView.ofFit s).operations[2]?.map
      (fun v => (Naming.handlerName v.name, v.handler)) = some ("foo", "foo_3") := by
    decide +kernel
  obtain ⟨v, hv, hnames⟩ := Option.map_eq_some_iff.mp hthird
  obtain ⟨hbase, hhandler⟩ := Prod.mk.inj hnames
  have hattempts := (hsearch 2 v hv).2
  rw [htaken, hbase, hhandler] at hattempts
  exact ⟨h, _, hview, by decide +kernel, hattempts, happend [⟨"FOO", "", ""⟩] (by decide)⟩

end ServiceStubs
