import ServiceStubs.Proofs.Service.ControllerLexemes

/-!
# Foreign text is confined

Namespaces and return types occur in the line comments of a controller only, and placeholders in the
string literals that are the bodies of its entry points.  So of two services that agree on their
names, the controllers have the same tokens up to the values of these literals.
-/

namespace ServiceStubs

open ServiceStubs.Rust (Lexeme Token lexemes?)

/-! ## Tokens with their values -/

namespace Rust

/-- A token of code; a string literal is taken by its value. -/
inductive Code where
  | text (value : String)
  | token (t : Token)

/-- A token by its value, if it is a string literal. -/
def Token.code : Token → Code
  | .leaf (.literal spelling) =>
    match Literal.stringValue? spelling.toList with
    | some value => .text (String.ofList value)
    | none => .token (.leaf (.literal spelling))
  | t => .token t

/-- The tokens of lexemes by their values.  Blanks and comments are passed, doc comments too. -/
def codeOf (ls : List Lexeme) : List Code :=
  ls.filterMap fun l => l.code?.map Token.code

/-- Takes out the values of the literals that stand alone between braces, in order. -/
def takeBodies : List Code → List Code × List String
  | .token (.opening .brace) :: .text value :: .token (.closing .brace) :: cs =>
    (.token (.opening .brace) :: .text "" :: .token (.closing .brace) :: (takeBodies cs).1,
      value :: (takeBodies cs).2)
  | c :: cs => (c :: (takeBodies cs).1, (takeBodies cs).2)
  | [] => ([], [])

theorem code_quoted (v : String) : Token.code (.leaf (.literal (Text.quoted v))) = .text v := by
  have hvalue : Literal.stringValue? (Text.quoted v).toList = some v.toList := by
    rw [Text.quoted, String.toList_ofList, Literal.stringValue?_encode]
  simp only [Token.code, hvalue, String.ofList_toList]

theorem codeOf_append (ls ms : List Lexeme) : codeOf (ls ++ ms) = codeOf ls ++ codeOf ms :=
  List.filterMap_append

theorem codeOf_flatMap {α : Type} (as : List α) (f : α → List Lexeme) :
    codeOf (as.flatMap f) = as.flatMap fun a => codeOf (f a) := by
  induction as with
  | nil => rfl
  | cons a as ih => rw [List.flatMap_cons, codeOf_append, ih, List.flatMap_cons]

/-- Code that has no such literal and does not end in the beginning of one. -/
def HasNoBody (code : List Code) : Prop :=
  ∀ cs, takeBodies (code ++ cs) = (code ++ (takeBodies cs).1, (takeBodies cs).2)

theorem HasNoBody.append {code code' : List Code} (h : HasNoBody code) (h' : HasNoBody code') :
    HasNoBody (code ++ code') := by
  intro cs
  rw [List.append_assoc, h, h', List.append_assoc]

theorem HasNoBody.flatMap {α : Type} {f : α → List Code} (h : ∀ a, HasNoBody (f a))
    (as : List α) : HasNoBody (as.flatMap f) := by
  induction as with
  | nil => exact fun _ => rfl
  | cons a as ih =>
    rw [List.flatMap_cons]
    exact (h a).append ih

end Rust

open ServiceStubs.Rust (Code HasNoBody codeOf codeOf_append codeOf_flatMap code_quoted takeBodies)

/-! ## Services without foreign text -/

/-- The operation with its name alone. -/
def Operation.bare (o : Operation) : Operation := ⟨o.name, "", ""⟩

/-- The service with its names alone. -/
def Service.bare (s : Service) : Service := ⟨s.name, "", "", s.operations.map Operation.bare⟩

/-- The routed operation with its name alone. -/
def Routed.bare (r : Routed) : Routed := { r with operation := r.operation.bare }

namespace Routed

theorem listFrom_bare (earlier used : List String) (operations : List Operation) :
    listFrom earlier used (operations.map Operation.bare) =
      (listFrom earlier used operations).map bare := by
  induction operations generalizing earlier used with
  | nil => rfl
  | cons o rest ih =>
    simp only [List.map_cons, listFrom, ih]
    rfl

end Routed

theorem Service.routed_bare (s : Service) : s.bare.routed = s.routed.map Routed.bare :=
  Routed.listFrom_bare [] reservedHandlers s.operations

theorem Service.bare_eq {s₁ s₂ : Service} (hname : s₁.name = s₂.name)
    (hoperations : s₁.operations.map Operation.name = s₂.operations.map Operation.name) :
    s₁.bare = s₂.bare := by
  have hbare (s : Service) : s.operations.map Operation.bare =
      (s.operations.map Operation.name).map fun name => ⟨name, "", ""⟩ := by
    rw [List.map_map]
    rfl
  rw [bare, bare, hbare, hbare, hname, hoperations]

/-! ## The tokens of a controller -/

namespace Routed

variable (service : String) (r : Routed)

theorem codeOf_row : codeOf (r.rowLexemes service) =
    [.token (.opening .parenthesis), .text (r.view service).route,
     .token (.leaf (.punct ',' false)), .text r.handler, .token (.closing .parenthesis),
     .token (.leaf (.punct ',' false))] := by
  rw [← code_quoted (r.view service).route, ← code_quoted r.handler]
  rfl

theorem codeOf_arm : codeOf (r.armLexemes service) =
    [.text (r.view service).route, .token (.leaf (.punct '=' true)),
     .token (.leaf (.punct '>' false)), .token (.leaf (.ident "Some")),
     .token (.opening .parenthesis), .token (.leaf (.ident "Self")),
     .token (.leaf (.punct ':' true)), .token (.leaf (.punct ':' false)),
     .token (.leaf (.ident r.handler)), .token (.opening .parenthesis),
     .token (.closing .parenthesis), .token (.closing .parenthesis),
     .token (.leaf (.punct ',' false))] := by
  rw [← code_quoted (r.view service).route]
  rfl

theorem codeOf_entry : codeOf (r.entryLexemes service) =
    [.token (.leaf (.ident "pub")), .token (.leaf (.ident "fn")),
     .token (.leaf (.ident r.handler)), .token (.opening .parenthesis),
     .token (.closing .parenthesis), .token (.leaf (.punct '-' true)),
     .token (.leaf (.punct '>' false)), .token (.leaf (.punct '&' true)),
     .token (.leaf (.lifetime "'static")), .token (.leaf (.ident "str")),
     .token (.opening .brace), .text r.operation.placeholder, .token (.closing .brace)] := by
  rw [← code_quoted r.operation.placeholder]
  rfl

/-- The placeholder of an operation is all that is taken out of its entry point. -/
theorem takeBodies_entries (rs : List Routed) (cs : List Code) :
    takeBodies (rs.flatMap (fun r => codeOf (r.entryLexemes service)) ++ cs) =
      (rs.flatMap (fun r => codeOf (r.bare.entryLexemes service)) ++ (takeBodies cs).1,
        rs.map (fun r => r.operation.placeholder) ++ (takeBodies cs).2) := by
  induction rs with
  | nil => rfl
  | cons r rs ih =>
    have hstep (ts : List Code) : takeBodies (codeOf (r.entryLexemes service) ++ ts) =
        (codeOf (r.bare.entryLexemes service) ++ (takeBodies ts).1,
          r.operation.placeholder :: (takeBodies ts).2) := by
      rw [codeOf_entry, codeOf_entry]
      rfl
    rw [List.flatMap_cons, List.append_assoc, hstep, ih, List.flatMap_cons, List.append_assoc]
    rfl

end Routed

namespace ControllerView

theorem hasNoBody_arms (service : String) (rs : List Routed) :
    HasNoBody (codeOf dispatchLexemes ++
      (rs.flatMap (fun r => codeOf (r.armLexemes service)) ++ codeOf lastArmLexemes)) := by
  have harm (r : Routed) : HasNoBody (codeOf (r.armLexemes service)) := by
    rw [Routed.codeOf_arm]
    exact fun _ => rfl
  have hlast : HasNoBody (codeOf lastArmLexemes) := fun _ => rfl
  -- The brace before the arms begins no body, for a pattern goes on after its literal.
  cases rs with
  | nil => exact fun _ => rfl
  | cons r rs =>
    have hfirst : HasNoBody (codeOf dispatchLexemes ++ codeOf (r.armLexemes service)) := by
      rw [Routed.codeOf_arm]
      exact fun _ => rfl
    rw [List.flatMap_cons, List.append_assoc, ← List.append_assoc]
    exact hfirst.append ((HasNoBody.flatMap harm rs).append hlast)

theorem codeOf_header (s : Service) : codeOf (headerLexemes s) = [] := by
  rw [headerLexemes, targetLexemes]
  split_ifs <;> rfl

theorem codeOf_lexemes (s : Service) :
    codeOf (lexemes s) = codeOf (structLexemes s) ++ (codeOf tableLexemes ++
      (s.routed.flatMap (fun r => codeOf (r.rowLexemes s.name)) ++ ((codeOf dispatchLexemes ++
        (s.routed.flatMap (fun r => codeOf (r.armLexemes s.name)) ++ codeOf lastArmLexemes)) ++
          (s.routed.flatMap (fun r => codeOf (r.entryLexemes s.name)) ++
            [.token (.closing .brace)])))) := by
  rw [lexemes]
  simp only [codeOf_append, codeOf_flatMap, codeOf_header, List.nil_append, List.append_assoc]
  rfl

/-- Without its foreign text, a controller has the tokens of the service's names, and what is taken
out are the placeholders. -/
theorem takeBodies_lexemes (s : Service) :
    takeBodies (codeOf (lexemes s)) =
      (codeOf (lexemes s.bare), s.operations.map Operation.placeholder) := by
  have hstruct : HasNoBody (codeOf (structLexemes s)) := fun _ => rfl
  have htable : HasNoBody (codeOf tableLexemes) := fun _ => rfl
  have hrows : HasNoBody (s.routed.flatMap fun r => codeOf (r.rowLexemes s.name)) := by
    refine HasNoBody.flatMap (fun r => ?_) s.routed
    rw [Routed.codeOf_row]
    exact fun _ => rfl
  have hend : takeBodies [.token (.closing .brace)] = ([.token (.closing .brace)], []) := rfl
  have hplaceholders : s.routed.map (fun r => r.operation.placeholder) =
      s.operations.map Operation.placeholder := by
    rw [← Service.map_operation_routed s, List.map_map]
    rfl
  have hname : s.bare.name = s.name := rfl
  rw [codeOf_lexemes, hstruct, htable, hrows, hasNoBody_arms, Routed.takeBodies_entries, hend,
    hplaceholders, codeOf_lexemes, Service.routed_bare, hname]
  simp only [List.flatMap_map, List.append_nil]
  rfl

theorem isBlock_header (s : Service) :
    (headerLexemes s).all (fun l => !l.isBlock) = true := by
  rw [headerLexemes, targetLexemes]
  split_ifs <;> rfl

/-- A controller has no comment between delimiters. -/
theorem isBlock_lexemes (s : Service) : ∀ l ∈ lexemes s, l.isBlock = false := by
  have hall : (lexemes s).all (fun l => !l.isBlock) = true := by
    rw [lexemes]
    simp only [List.all_append, List.all_flatMap, Bool.and_eq_true]
    have hrows := List.all_eq_true.mpr fun (r : Routed) (_ : r ∈ s.routed) =>
      (rfl : (r.rowLexemes s.name).all (fun l => !l.isBlock) = true)
    have harms := List.all_eq_true.mpr fun (r : Routed) (_ : r ∈ s.routed) =>
      (rfl : (r.armLexemes s.name).all (fun l => !l.isBlock) = true)
    have hentries := List.all_eq_true.mpr fun (r : Routed) (_ : r ∈ s.routed) =>
      (rfl : (r.entryLexemes s.name).all (fun l => !l.isBlock) = true)
    exact ⟨isBlock_header s, rfl, rfl, hrows, rfl, harms, rfl, hentries, rfl⟩
  intro l hl
  simpa using List.all_eq_true.mp hall l hl

end ControllerView

/-- For services that agree on all names, the controllers have the same tokens, save for the values
of the literals that are the bodies of entry points.  In either, these are the placeholders in
order, and no comment goes on beyond its line. -/
theorem controller_confines {s₁ s₂ : Service} (h₁ : s₁.checkIdentifiers = .ok ())
    (h₂ : s₂.checkIdentifiers = .ok ()) (hname : s₁.name = s₂.name)
    (hoperations : s₁.operations.map Operation.name = s₂.operations.map Operation.name) :
    ∃ text₁ text₂ ls₁ ls₂,
      Renderer.builtIn.controller s₁ = .ok text₁ ∧ lexemes? text₁.toList = some ls₁ ∧
      Renderer.builtIn.controller s₂ = .ok text₂ ∧ lexemes? text₂.toList = some ls₂ ∧
      (takeBodies (codeOf ls₁)).1 = (takeBodies (codeOf ls₂)).1 ∧
      (takeBodies (codeOf ls₁)).2 = s₁.operations.map Operation.placeholder ∧
      (takeBodies (codeOf ls₂)).2 = s₂.operations.map Operation.placeholder ∧
      (∀ l ∈ ls₁, l.isBlock = false) ∧ ∀ l ∈ ls₂, l.isBlock = false := by
  obtain ⟨text₁, htext₁, hchars₁⟩ := ControllerView.controller_eq h₁
  obtain ⟨text₂, htext₂, hchars₂⟩ := ControllerView.controller_eq h₂
  refine ⟨text₁, text₂, ControllerView.lexemes s₁, ControllerView.lexemes s₂, htext₁, ?_, htext₂,
    ?_, ?_, ?_, ?_, ControllerView.isBlock_lexemes s₁, ControllerView.isBlock_lexemes s₂⟩
  · rw [hchars₁, ControllerView.lexemes?_chars h₁]
  · rw [hchars₂, ControllerView.lexemes?_chars h₂]
  · rw [ControllerView.takeBodies_lexemes, ControllerView.takeBodies_lexemes,
      Service.bare_eq hname hoperations]
  · rw [ControllerView.takeBodies_lexemes]
  · rw [ControllerView.takeBodies_lexemes]

/-- Texts that would end the comments and the literals that they are put into. -/
theorem controller_confines_hostile :
    ∃ text₁ text₂ ls₁ ls₂,
      Renderer.builtIn.controller ⟨"Orders", "", "", [⟨"list", "Page", "ok"⟩]⟩ = .ok text₁ ∧
      Renderer.builtIn.controller
        ⟨"Orders", "a\nfn b", "c\r*/", [⟨"list", "d `\u2028", "\" //\\"⟩]⟩ = .ok text₂ ∧
      lexemes? text₁.toList = some ls₁ ∧ lexemes? text₂.toList = some ls₂ ∧
      (takeBodies (codeOf ls₁)).1 = (takeBodies (codeOf ls₂)).1 ∧
      (takeBodies (codeOf ls₁)).2 = ["ok"] ∧ (takeBodies (codeOf ls₂)).2 = ["\" //\\"] := by
  have hplain : (⟨"Orders", "", "", [⟨"list", "Page", "ok"⟩]⟩ : Service).checkIdentifiers =
      .ok () := rfl
  have hhostile : (⟨"Orders", "a\nfn b", "c\r*/",
      [⟨"list", "d `\u2028", "\" //\\"⟩]⟩ : Service).checkIdentifiers = .ok () := rfl
  obtain ⟨text₁, text₂, ls₁, ls₂, htext₁, hls₁, htext₂, hls₂, hcode, hbodies₁, hbodies₂, -, -⟩ :=
    controller_confines hplain hhostile rfl rfl
  exact ⟨text₁, text₂, ls₁, ls₂, htext₁, htext₂, hls₁, hls₂, hcode, hbodies₁, hbodies₂⟩

end ServiceStubs
