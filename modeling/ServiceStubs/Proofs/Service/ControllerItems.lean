import ServiceStubs.Proofs.Rust.Phrases
import ServiceStubs.Proofs.Service.ControllerTrees

/-!
# The items of a controller

The grammar reads a controller as a public structure and as an implementation of functions that have
no receiver.  Where all tokens but texts are fixed the grammar is run; where a name is tested, the
phrase is taken apart up to the test.
-/

namespace ServiceStubs

open ServiceStubs.Rust ServiceStubs.Rust.Parser ServiceStubs.Rust.Grammar

variable {rest content : List Tree} {n : Nat}

/-- A documented phrase is one with an attribute before it. -/
theorem reads_docTrees {doc : List Char} {t : Tree}
    (h : Tree.startsPunct "#" (t :: rest) = false) :
    Reads (grammar (n + 2)).outerAttributes (docTrees doc ++ t :: rest) () (t :: rest) := by
  have hone : ReadsAll (Tree.startsPunct "#") (grammar (n + 2)).outerAttribute
      (docTrees doc ++ t :: rest) [()] (t :: rest) :=
    .cons_append (List.cons_ne_nil _ _) rfl (fun _ => ⟨_, rfl⟩) (.nil h)
  rw [outerAttributes]
  exact .bind hone.whileAhead .pure

/-- The type of a text. -/
def textTy : Ty := .reference (.path false "str")

/-- A public function without parameters. -/
def methodOf (name : String) (output : Ty) : Method := ⟨name, .everywhere, false, some output⟩

namespace Routed

variable {service : String} {r : Routed} {rs : List Routed}

/-! ## The route table -/

theorem reads_row :
    Reads ((grammar (n + 2)).expr true) (r.rowTrees service ++ rest) .plain
      (.punct ',' false :: rest) :=
  fun _ => ⟨_, rfl⟩

/-- The first element of an array is read before it is known that there is no count. -/
theorem reads_rows :
    Reads (grammar (n + 2)).arrayExpr (.group .bracket (rs.flatMap (rowTrees service)) :: rest) ()
      rest := by
  rw [arrayExpr]
  apply Reads.inGroup
  cases rs with
  | nil => exact fun _ => ⟨_, rfl⟩
  | cons r rs =>
    have hrows : Reads (commaSeparated ((grammar (n + 2)).expr true))
        (rs.flatMap (rowTrees service)) (rs.map fun _ => .plain) [] :=
      .commaSeparated fun _ _ _ => reads_row
    refine .bind (.peek _) (.ite_of_false rfl ?_)
    refine .bind reads_row ?_
    refine .bind (.punct?_of_ne rfl) (.ite_of_false rfl ?_)
    refine .bind (.peek _) (.ite_of_false rfl ?_)
    exact .bind (fun _ => ⟨_, rfl⟩) (.bind hrows .pure)

theorem reads_tableValue :
    Reads ((grammar (n + 4)).expr true)
      (.punct '&' false :: .group .bracket (rs.flatMap (rowTrees service)) :: .punct ';' false ::
        rest) .plain (.punct ';' false :: rest) := by
  have hatom : Reads (phrase .plain (grammar (n + 2)).arrayExpr)
      (.group .bracket (rs.flatMap (rowTrees service)) :: .punct ';' false :: rest) .plain
      (.punct ';' false :: rest) :=
    .bind reads_rows .pure
  have htarget : Reads ((grammar (n + 3)).unary true)
      (.group .bracket (rs.flatMap (rowTrees service)) :: .punct ';' false :: rest) .plain
      (.punct ';' false :: rest) := by
    show Reads ((grammar (n + 2)).unaryExpr true) _ _ _
    exact reads_unaryExpr _ rfl hatom fun _ => ⟨_, rfl⟩
  have hreference : Reads ((grammar (n + 3)).referenceExpr true)
      (.punct '&' false :: .group .bracket (rs.flatMap (rowTrees service)) :: .punct ';' false ::
        rest) () (.punct ';' false :: rest) := by
    rw [referenceExpr]
    refine .bind (fun _ => ⟨_, rfl⟩) (.bind .ahead (.ite_of_false rfl ?_))
    exact .bind (.word?_of_ne rfl) (.bind htarget .pure)
  have hunary : Reads ((grammar (n + 3)).unaryExpr true)
      (.punct '&' false :: .group .bracket (rs.flatMap (rowTrees service)) :: .punct ';' false ::
        rest) .plain (.punct ';' false :: rest) := by
    rw [unaryExpr]
    refine .bind (fun _ => ⟨_, rfl⟩) (.bind .ahead (.ite_of_true rfl ?_))
    exact .bind hreference .pure
  show Reads ((grammar (n + 3)).expression true) _ _ _
  rw [expression]
  exact .bind hunary fun _ => ⟨_, rfl⟩

/-! ## The dispatcher -/

/-- What an arm gives. -/
def answerTrees (r : Routed) : List Tree :=
  [.ident "Some", .group .parenthesis (ownCall r.handler)]

theorem reads_answer (h : isName r.handler = true) :
    Reads (grammar (n + 3)).leadingExpr (r.answerTrees ++ .punct ',' false :: rest) .plain
      (.punct ',' false :: rest) := by
  have hvalues : Reads (grammar (n + 3)).callValues
      (.group .parenthesis (ownCall r.handler) :: .punct ',' false :: rest) ()
      (.punct ',' false :: rest) := by
    have hlist : Reads (commaSeparated ((grammar (n + 3)).expr true)) (ownCall r.handler)
        [.plain] [] := by
      rw [commaSeparated, separatedUntil]
      refine .bind .ahead (.bind (.peek _) (.ite_of_false rfl ?_))
      exact .bind (reads_ownCall h) (.bind (.peek _) .pure)
    rw [callValues]
    exact .bind (.inGroup hlist) .pure
  have htrailed : Reads ((grammar (n + 3)).trailed .plain)
      (.group .parenthesis (ownCall r.handler) :: .punct ',' false :: rest) .plain
      (.punct ',' false :: rest) := by
    rw [trailed]
    refine .bind .ahead (.bind .ahead (.ite_of_true rfl ?_))
    exact .bind hvalues fun _ => ⟨_, rfl⟩
  have hunary : Reads ((grammar (n + 3)).unaryExpr true)
      (r.answerTrees ++ .punct ',' false :: rest) .plain (.punct ',' false :: rest) :=
    reads_unaryExpr _ rfl (fun _ => ⟨_, rfl⟩) htrailed
  rw [leadingExpr]
  refine .bind (fun _ => ⟨_, rfl⟩) (.bind .ahead ?_)
  exact .bind hunary fun _ => ⟨_, rfl⟩

theorem reads_arm (h : isName r.handler = true) :
    Reads (grammar (n + 4)).arm (r.armTrees service ++ rest) () rest := by
  show Reads (grammar (n + 3)).matchArm _ _ _
  rw [matchArm]
  refine .bind (fun _ => ⟨_, rfl⟩) (.bind (fun _ => ⟨_, rfl⟩) ?_)
  refine .bind (.word?_of_ne rfl) (.ite_of_false rfl ?_)
  refine .bind (fun _ => ⟨_, rfl⟩) ?_
  refine .bind (reads_answer h) ?_
  cases rest <;> exact fun _ => ⟨_, rfl⟩

theorem readsAll_arms (h : ∀ r ∈ rs, isName r.handler = true) :
    ReadsAll (!·.isEmpty) (grammar (n + 4)).arm
      (rs.flatMap (armTrees service) ++ ControllerView.lastArmTrees)
      (rs.map (fun _ => ()) ++ [()]) [] := by
  refine .flatMap (fun r hr _ => ⟨rfl, reads_arm (h r hr)⟩) (fun _ _ => List.cons_ne_nil _ _) ?_
  exact .cons rfl (fun _ => ⟨_, rfl⟩) (by decide) (.nil rfl)

/-- The content of the dispatcher's body. -/
def matchTrees (service : String) (rs : List Routed) : List Tree :=
  [.ident "match", .ident "path",
    .group .brace (rs.flatMap (armTrees service) ++ ControllerView.lastArmTrees)]

theorem reads_match (h : ∀ r ∈ rs, isName r.handler = true) :
    Reads (grammar (n + 4)).matchExpr (matchTrees service rs) () [] := by
  have hinner : Reads (grammar (n + 4)).innerAttributes
      (rs.flatMap (armTrees service) ++ ControllerView.lastArmTrees) ()
      (rs.flatMap (armTrees service) ++ ControllerView.lastArmTrees) := by
    refine .bind (.whileAhead_of_false ?_) .pure
    cases rs <;> rfl
  rw [matchExpr]
  refine .bind (fun _ => ⟨_, rfl⟩) (.bind (fun _ => ⟨_, rfl⟩) (.inGroup ?_))
  exact .bind hinner (.bind (readsAll_arms h).whileAhead .pure)

/-- The match is the only statement of the body, so nothing has to end it. -/
theorem reads_dispatchBody (h : ∀ r ∈ rs, isName r.handler = true) :
    Reads (grammar (n + 5)).body (.group .brace (matchTrees service rs) :: rest) () rest := by
  have hexpr : Reads (grammar (n + 4)).leadingExpr (matchTrees service rs) .block [] := by
    rw [leadingExpr]
    refine .bind (fun _ => ⟨_, rfl⟩) (.bind .ahead ?_)
    exact .bind (reads_match h) fun _ => ⟨_, rfl⟩
  have hstatement : Reads (grammar (n + 4)).statement (matchTrees service rs) false [] := by
    rw [statement]
    refine .bind (fun _ => ⟨_, rfl⟩) (.bind (fun _ => ⟨_, rfl⟩) ?_)
    refine .bind .ahead (.ite_of_false rfl (.ite_of_false rfl ?_))
    exact .bind hexpr fun _ => ⟨_, rfl⟩
  have hstatements : Reads (grammar (n + 5)).statements (matchTrees service rs) () [] := by
    show Reads (grammar (n + 4)).blockContent _ _ _
    rw [blockContent]
    refine .bind .ahead (.bind (fun _ => ⟨_, rfl⟩) ?_)
    refine .bind (.peek _) (.ite_of_false rfl ?_)
    exact .bind hstatement fun _ => ⟨_, rfl⟩
  rw [body]
  exact .inGroup (.bind (fun _ => ⟨_, rfl⟩) hstatements)

/-! ## Entry points -/

theorem reads_signature (h : isName r.handler = true) :
    Reads ((grammar (n + 4)).signature false)
      (.ident "fn" :: .ident r.handler :: .group .parenthesis [] :: .punct '-' true ::
        .punct '>' false :: textType ++ .group .brace content :: rest)
      (r.handler, false, some textTy) (.group .brace content :: rest) := by
  rw [signature]
  refine .bind (.word?_of_ne rfl) (.bind (.word?_of_ne rfl) (.bind .ahead ?_))
  refine .ite_of_false rfl (.bind (.word?_of_ne rfl) ?_)
  refine .bind (fun _ => ⟨_, rfl⟩) (.bind (fun _ => ⟨_, rfl⟩) ?_)
  refine .bind (.identWhere h) ?_
  exact fun _ => ⟨_, rfl⟩

theorem reads_entry (h : isName r.handler = true) :
    Reads (grammar (n + 4)).implItem (r.entryTrees service ++ rest)
      (some (methodOf r.handler textTy)) rest := by
  rw [implItem, entryTrees]
  rw [List.append_assoc]
  refine .bind (reads_docTrees rfl) (.bind (fun _ => ⟨_, rfl⟩) ?_)
  refine .bind .ahead (.ite_of_false rfl (.bind .ahead (.ite_of_true rfl ?_)))
  refine .bind (reads_signature h) ?_
  exact fun _ => ⟨_, rfl⟩

end Routed

namespace ControllerView

open Routed

/-! ## The functions of the implementation -/

theorem reads_tableTy :
    Reads ((grammar (n + 5)).ty true)
      (.punct '&' true :: .lifetime "'static" ::
        .group .bracket [.group .parenthesis (textType ++ [.punct ',' false] ++ textType)] ::
        .punct '=' false :: rest)
      ⟨.reference (.other [.group .bracket [.group .parenthesis
        [.punct '&' false, .lifetime "'static", .ident "str", .punct ',' false,
         .punct '&' false, .lifetime "'static", .ident "str"]]]), false, false⟩
      (.punct '=' false :: rest) :=
  fun _ => ⟨_, rfl⟩

variable {s : Service}

/-- The route table is no function. -/
theorem reads_table : Reads (grammar (n + 5)).implItem (tableTrees s ++ rest) none rest := by
  have hcontent : Reads (grammar (n + 5)).constContent
      (.ident "ROUTES" :: .punct ':' false :: .punct '&' true :: .lifetime "'static" ::
        .group .bracket [.group .parenthesis (textType ++ [.punct ',' false] ++ textType)] ::
        .punct '=' false :: .punct '&' false ::
        .group .bracket (s.routed.flatMap (rowTrees s.name)) :: .punct ';' false :: rest)
      () rest := by
    rw [constContent]
    refine .bind (fun _ => ⟨_, rfl⟩) (.bind (fun _ => ⟨_, rfl⟩) (.bind (fun _ => ⟨_, rfl⟩) ?_))
    refine .bind reads_tableTy ?_
    refine .bind (fun _ => ⟨_, rfl⟩) (.ite_of_true rfl ?_)
    refine .bind reads_tableValue ?_
    exact fun _ => ⟨_, rfl⟩
  rw [implItem, tableTrees]
  rw [List.append_assoc]
  refine .bind (reads_docTrees rfl) (.bind (fun _ => ⟨_, rfl⟩) ?_)
  refine .bind .ahead (.ite_of_false rfl (.bind .ahead (.ite_of_false rfl (.ite_of_true rfl ?_))))
  exact .bind (fun _ => ⟨_, rfl⟩) (.bind hcontent .pure)

theorem reads_dispatchSignature :
    Reads ((grammar (n + 5)).signature false)
      ([.ident "fn", .ident "dispatch",
        .group .parenthesis [.ident "path", .punct ':' false, .punct '&' false, .ident "str"],
        .punct '-' true, .punct '>' false, .ident "Option", .punct '<' true] ++ textType ++
        .punct '>' false :: .group .brace content :: rest)
      ("dispatch", false, some (.applied false "Option" textTy)) (.group .brace content :: rest) :=
  fun _ => ⟨_, rfl⟩

theorem reads_dispatch (h : ∀ r ∈ s.routed, isName r.handler = true) :
    Reads (grammar (n + 5)).implItem (dispatchTrees s ++ rest)
      (some (methodOf "dispatch" (.applied false "Option" textTy))) rest := by
  rw [implItem, dispatchTrees]
  rw [List.append_assoc]
  refine .bind (reads_docTrees rfl) (.bind (fun _ => ⟨_, rfl⟩) ?_)
  refine .bind .ahead (.ite_of_false rfl (.bind .ahead (.ite_of_true rfl ?_)))
  refine .bind reads_dispatchSignature ?_
  refine .bind (.punct?_of_ne rfl) (.ite_of_false rfl ?_)
  exact .bind (reads_dispatchBody h) .pure

/-- The functions of a controller. -/
def methods (s : Service) : List Method :=
  methodOf "dispatch" (.applied false "Option" textTy) ::
    s.routed.map fun r => methodOf r.handler textTy

theorem readsAll_members (h : ∀ r ∈ s.routed, isName r.handler = true) :
    ReadsAll (!·.isEmpty) (grammar (n + 5)).implItem (memberTrees s)
      (none :: (methods s).map some) [] := by
  rw [memberTrees, methods]
  refine .cons_append (List.cons_ne_nil _ _) rfl reads_table ?_
  refine .cons_append (List.cons_ne_nil _ _) rfl (reads_dispatch h) ?_
  rw [← List.append_nil (s.routed.flatMap _), List.map_map, ← List.append_nil (s.routed.map _)]
  refine .flatMap (fun r hr _ => ⟨rfl, reads_entry (h r hr)⟩) (fun _ _ => List.cons_ne_nil _ _) ?_
  exact .nil rfl

/-! ## Items -/

theorem reads_struct (hname : isName (s.name ++ "Controller") = true) :
    Reads (grammar (n + 3)).item (structTrees s ++ rest)
      (.declared (s.name ++ "Controller") .everywhere) rest := by
  have hdeclaration : Reads (grammar (n + 2)).typeDeclaration
      (.ident "struct" :: .ident (s.name ++ "Controller") :: .punct ';' false :: rest)
      (s.name ++ "Controller") rest := by
    rw [typeDeclaration]
    refine .bind .ahead (.bind (fun _ => ⟨_, rfl⟩) ?_)
    refine .bind (.identWhere hname) ?_
    exact fun _ => ⟨_, rfl⟩
  show Reads (grammar (n + 2)).itemPhrase _ _ _
  rw [itemPhrase, structTrees]
  rw [List.append_assoc]
  refine .bind (reads_docTrees rfl) (.bind (fun _ => ⟨_, rfl⟩) ?_)
  refine .ite_of_false rfl <| .ite_of_false rfl <| .ite_of_false rfl <| .ite_of_false rfl <|
    .ite_of_false rfl <| .ite_of_false rfl <| .ite_of_false rfl <| .ite_of_false rfl <|
    .ite_of_true rfl ?_
  refine .bind (fun _ => ⟨_, rfl⟩) ?_
  exact .bind hdeclaration .pure

/-- The block that a controller's functions stand in. -/
def implBlock (s : Service) : ImplBlock :=
  { selfType := .path false (s.name ++ "Controller"), trait? := none, methods := methods s }

theorem reads_implementation (hname : isName (s.name ++ "Controller") = true)
    (h : ∀ r ∈ s.routed, isName r.handler = true) :
    Reads (grammar (n + 5)).implementation (implTrees s) (.implBlock (implBlock s)) [] := by
  have hmembers : Reads (do
      (grammar (n + 5)).innerAttributes
      untilEnd (grammar (n + 5)).implItem) (memberTrees s) (none :: (methods s).map some) [] :=
    .bind (fun _ => ⟨_, rfl⟩) (readsAll_members h).whileAhead
  have hmethods : (none :: (methods s).map some).filterMap id = methods s := by simp
  rw [implementation, implTrees]
  refine .bind (fun _ => ⟨_, rfl⟩) ?_
  refine .bind (.word?_of_ne rfl) (.bind (.word?_of_ne rfl) (.bind (fun _ => ⟨_, rfl⟩) ?_))
  refine .bind (.peek _) (.ite_of_false rfl ?_)
  refine .bind .ahead (.bind (.ite_of_false ?_ .pure) ?_)
  · rw [Tree.startsWord_of_isName hname (by decide)]
    rfl
  refine .bind .ahead (.bind (reads_ty hname) ?_)
  refine .bind (.bind (.word?_of_ne rfl) .pure) (.bind (fun _ => ⟨_, rfl⟩) ?_)
  refine .bind (.inGroup hmembers) (.ite_of_false rfl ?_)
  rw [hmethods]
  exact .pure

theorem reads_impl (hname : isName (s.name ++ "Controller") = true)
    (h : ∀ r ∈ s.routed, isName r.handler = true) :
    Reads (grammar (n + 6)).item (implTrees s) (.implBlock (implBlock s)) [] := by
  show Reads (grammar (n + 5)).itemPhrase _ _ _
  rw [itemPhrase]
  refine .bind (fun _ => ⟨_, rfl⟩) (.bind (fun _ => ⟨_, rfl⟩) ?_)
  refine .ite_of_false rfl <| .ite_of_false rfl <| .ite_of_false rfl <| .ite_of_false rfl <|
    .ite_of_false rfl <| .ite_of_false rfl <| .ite_of_false rfl <| .ite_of_false rfl <|
    .ite_of_false rfl <| .ite_of_false rfl <| .ite_of_false rfl <| .ite_of_false rfl <|
    .ite_of_true rfl ?_
  exact reads_implementation hname h

/-! ## The file -/

/-- The items of a controller. -/
def items (s : Service) : List Item :=
  [.declared (s.name ++ "Controller") .everywhere, .implBlock (implBlock s)]

theorem reads_file (hname : isName (s.name ++ "Controller") = true)
    (h : ∀ r ∈ s.routed, isName r.handler = true) :
    Reads (grammar (n + 6)).file (trees s) (items s) [] := by
  have hitems : ReadsAll (!·.isEmpty) (grammar (n + 6)).item (trees s) (items s) [] := by
    refine .cons_append (List.cons_ne_nil _ _) rfl (reads_struct hname) ?_
    exact .cons rfl (reads_impl hname h) (Nat.zero_lt_succ _) (.nil rfl)
  rw [file]
  exact .bind (fun _ => ⟨_, rfl⟩) hitems.whileAhead

/-- The text of a controller starts with a comment, so neither a mark of byte order nor a line for
an interpreter is dropped. -/
theorem items?_eq (h : s.checkIdentifiers = .ok ()) {text : String}
    (htext : text.toList = (ofFit s).chars) : items? text = some (items s) := by
  obtain ⟨tokens, htokens, hnest⟩ := nest_tokens h
  have hmark : dropMark (dropInterpreter (dropMark (ofFit s).chars)) = (ofFit s).chars := rfl
  have hfile := reads_file (n := 4 * tokens.length + 10) (Service.isName_controllerName h).2
    fun r hr => (Service.isName_handler h hr).2
  obtain ⟨passed, hpassed⟩ := hfile []
  rw [items?, htext, hmark, htokens]
  simp only [Option.bind_eq_bind, Option.bind_some, hnest]
  rw [hpassed]

end ControllerView

end ServiceStubs
