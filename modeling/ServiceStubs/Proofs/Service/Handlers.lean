import ServiceStubs.Proofs.Service.ControllerText

/-!
# Handlers are usable

Whatever its operations are called, a controller that is made has one handler for each of them,
under a name that generated code can declare: a plain name that is no keyword, is not the name of
the dispatcher, and is not shared.
-/

namespace ServiceStubs

namespace Naming

/-- A plain name: ASCII letters, digits and underscores, with no digit first, and more than an
underscore alone. -/
structure IsPlainName (name : String) : Prop where
  chars : ∀ c ∈ name.toList, c.isAlphanum = true ∨ c = '_'
  head : ∃ c ∈ name.toList.head?, c.isDigit = false
  ne_underscore : name ≠ "_"

theorem isAlphanum_or_eq_of_isIdentifierPart {c : Char} (h : isIdentifierPart c = true) :
    c.isAlphanum = true ∨ c = '_' := by
  simpa only [isIdentifierPart, Bool.or_eq_true, beq_iff_eq] using h

theorem isDigit_of_isIdentifierStart {c : Char} (h : isIdentifierStart c = true) :
    c.isDigit = false :=
  Rust.forall_isIdentifierPart
    (p := fun c => isIdentifierStart c = true → c.isDigit = false) (by decide)
    (Rust.isIdentifierPart_of_isIdentifierStart h) h

/-- A fit word is a plain name. -/
theorem isPlainName_of_isWord {name : String} (hword : Rust.isWord name.toList = true)
    (hfit : name ∉ unfit) : IsPlainName name := by
  have hplain := isPlain_of_isWord hword
  refine ⟨fun c hc => isAlphanum_or_eq_of_isIdentifierPart (hplain c hc), ?_, ?_⟩
  · cases hlist : name.toList with
    | nil =>
      rw [hlist] at hword
      cases hword
    | cons c rest =>
      rw [hlist, Rust.isWord, Bool.and_eq_true] at hword
      exact ⟨c, rfl, isDigit_of_isIdentifierStart hword.1⟩
  · rintro rfl
    exact hfit (by decide)

end Naming

/-- A service with fit names gets a handler for each of its operations, in order.  The handlers
differ from one another and from the dispatcher, and each is a plain name and no keyword. -/
theorem handlers_usable {s : Service} (h : s.checkIdentifiers = .ok ()) :
    ∃ view, ControllerView.ofService s = .ok view ∧
      view.operations.map OperationView.name = s.operations.map Operation.name ∧
      (view.operations.map OperationView.handler).Nodup ∧
      ∀ o ∈ view.operations, o.handler ≠ "dispatch" ∧ Naming.IsPlainName o.handler ∧
        o.handler ∉ Naming.keywords := by
  obtain ⟨hnodup, hdispatch⟩ := Service.nodup_handler s
  refine ⟨ControllerView.ofFit s, ControllerView.ofService_eq h, ?_, ?_, ?_⟩
  · simp only [ControllerView.ofFit, List.map_map, ← Service.map_operation_routed s]
    rfl
  · simp only [ControllerView.ofFit, List.map_map]
    exact hnodup
  · intro o ho
    simp only [ControllerView.ofFit, List.mem_map] at ho
    obtain ⟨r, hr, rfl⟩ := ho
    obtain ⟨hword, hfit⟩ := Service.isWord_handler h hr
    refine ⟨hdispatch r hr, Naming.isPlainName_of_isWord hword hfit, ?_⟩
    exact fun hmem => hfit (List.mem_cons_of_mem _ (List.mem_cons_of_mem _ hmem))

/-- Names that run into each other, into keywords, into numbered names and into nothing. -/
theorem handlers_usable_clashes :
    ∃ view, ControllerView.ofService ⟨"Orders", "shop", "", [⟨"foo", "", ""⟩, ⟨"foo_2", "", ""⟩,
        ⟨"Foo", "", ""⟩, ⟨"__", "", ""⟩, ⟨"_2", "", ""⟩, ⟨"op_2", "", ""⟩, ⟨"type", "", ""⟩,
        ⟨"Type", "", ""⟩, ⟨"Gen", "", ""⟩, ⟨"DISPATCH", "", ""⟩]⟩ = .ok view ∧
      view.operations.map OperationView.handler =
        ["foo", "foo_2", "foo_3", "op_", "op_2", "op_2_2", "type_", "type__2", "gen_",
          "dispatch_2"] ∧
      (view.operations.map OperationView.handler).Nodup ∧
      ∀ o ∈ view.operations, o.handler ≠ "dispatch" ∧ Naming.IsPlainName o.handler ∧
        o.handler ∉ Naming.keywords := by
  obtain ⟨view, hview, -, hnodup, hall⟩ := handlers_usable (s := ⟨"Orders", "shop", "",
    [⟨"foo", "", ""⟩, ⟨"foo_2", "", ""⟩, ⟨"Foo", "", ""⟩, ⟨"__", "", ""⟩, ⟨"_2", "", ""⟩,
      ⟨"op_2", "", ""⟩, ⟨"type", "", ""⟩, ⟨"Type", "", ""⟩, ⟨"Gen", "", ""⟩,
      ⟨"DISPATCH", "", ""⟩]⟩) rfl
  refine ⟨view, hview, ?_, hnodup, hall⟩
  obtain rfl := Except.ok.inj hview
  rfl

end ServiceStubs
