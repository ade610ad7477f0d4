import ServiceStubs.Proofs.Rust.Layout
import ServiceStubs.Proofs.Service.ControllerText

/-!
# The lexemes of a controller

Whatever the namespaces, return types and placeholders of a service with fit names hold, its
controller is cut at the seams of the template.  Foreign text stays inside the comment or the
literal that it was put into.
-/

namespace ServiceStubs

open ServiceStubs.Naming (IsPlain isIdentifierPart)
open ServiceStubs.Rust (Lexeme lexemes? isWord endsWord)
open ServiceStubs.Rust.Lexeme (Cuts)
open ServiceStubs.Text (isControl)
open ServiceStubs.Text.Comment (IsLine isLine_append isLine_codeSpan isLine_singleLine)

theorem isLine_of_isPlain {s : List Char} (h : IsPlain s) : IsLine s := by
  intro c hc
  exact Rust.forall_isIdentifierPart (p := fun c => isControl c = false) (by decide) (h c hc)

namespace Routed

variable (service : String) (r : Routed)

/-! ## One operation -/

/-- The lexemes of a row in the route table. -/
def rowLexemes : List Lexeme :=
  [.space "\n        ", .opening .parenthesis, .quoted (r.view service).route, .sign ',' false,
   .space " ", .quoted r.handler, .closing .parenthesis, .sign ',' false]

/-- The lexemes of an arm in the dispatcher. -/
def armLexemes : List Lexeme :=
  [.space "\n            ", .quoted (r.view service).route, .space " ", .sign '=' true,
   .sign '>' false, .space " ", .word "Some", .opening .parenthesis, .word "Self", .sign ':' true,
   .sign ':' false, .word r.handler, .opening .parenthesis, .closing .parenthesis,
   .closing .parenthesis, .sign ',' false]

/-- The doc comment of an entry point. -/
def doc : List Char :=
  " \x60GET ".toList ++ ((r.view service).route.toList ++ ("\x60".toList ++
    ((r.view service).typeChars ++ ".".toList)))

/-- The lexemes of an entry point. -/
def entryLexemes : List Lexeme :=
  [.space "\n\n    ", .lineDoc false (r.doc service), .space "\n    ", .word "pub", .space " ",
   .word "fn", .space " ", .word r.handler, .opening .parenthesis, .closing .parenthesis,
   .space " ", .sign '-' true, .sign '>' false, .space " ", .sign '&' true, .lifetime "'static",
   .space " ", .word "str", .space " ", .opening .brace, .space "\n        ",
   .quoted r.operation.placeholder, .space "\n    ", .closing .brace]

variable {service} {r}

theorem cuts_row (rest : List Char) :
    Cuts ((r.view service).rowChars ++ '\n' :: rest) (r.rowLexemes service) ('\n' :: rest) := by
  obtain ⟨handler, hhandler⟩ := Lexeme.exists_quoted_eq r.handler
  have hopen (t : List Char) : Cuts ("\n        (".toList ++ t)
      [.space "\n        ", .opening .parenthesis] t := .of_cutOff rfl
  have hcomma (t : List Char) : Cuts (", ".toList ++ ((Text.quoted r.handler).toList ++ t))
      [.sign ',' false, .space " "] ((Text.quoted r.handler).toList ++ t) := by
    rw [hhandler]
    exact .of_cutOff rfl
  have hclose : Cuts ("),".toList ++ '\n' :: rest) [.closing .parenthesis, .sign ',' false]
      ('\n' :: rest) := .of_cutOff rfl
  unfold OperationView.rowChars
  simp only [List.append_assoc]
  exact (hopen _).append ((Lexeme.cuts_quoted _ rfl).append
    ((hcomma _).append ((Lexeme.cuts_quoted _ rfl).append hclose)))

theorem cuts_arm (hhandler : isWord r.handler.toList = true) (rest : List Char) :
    Cuts ((r.view service).armChars ++ '\n' :: rest) (r.armLexemes service) ('\n' :: rest) := by
  obtain ⟨route, hroute⟩ := Lexeme.exists_quoted_eq (r.view service).route
  have hopen (t : List Char) : Cuts
      ("\n            ".toList ++ ((Text.quoted (r.view service).route).toList ++ t))
      [.space "\n            "] ((Text.quoted (r.view service).route).toList ++ t) := by
    rw [hroute]
    exact .of_cutOff rfl
  have harrow (t : List Char) : Cuts (" => Some(Self::".toList ++ (r.handler.toList ++ t))
      [.space " ", .sign '=' true, .sign '>' false, .space " ", .word "Some",
       .opening .parenthesis, .word "Self", .sign ':' true, .sign ':' false]
      (r.handler.toList ++ t) := by
    have h : Cuts (" => Some(Self::".toList ++ (r.handler.toList ++ t))
        [.space " ", .sign '=' true, .sign '>' false, .space " ", .word "Some",
         .opening .parenthesis, .word "Self", .sign ':' true,
         .sign ':' (Rust.Token.startsPunct (r.handler.toList ++ t))] (r.handler.toList ++ t) :=
      .of_cutOff rfl
    rwa [Rust.Token.startsPunct_word hhandler t] at h
  have hclose : Cuts ("()),".toList ++ '\n' :: rest)
      [.opening .parenthesis, .closing .parenthesis, .closing .parenthesis, .sign ',' false]
      ('\n' :: rest) := .of_cutOff rfl
  unfold OperationView.armChars
  simp only [List.append_assoc]
  exact (hopen _).append ((Lexeme.cuts_quoted _ rfl).append
    ((harrow _).append ((Lexeme.cuts_word hhandler rfl).append hclose)))

theorem isLine_route (hservice : IsPlain service.toList)
    (hname : IsPlain r.operation.name.toList) : IsLine (r.view service).route.toList := by
  have hlead : IsLine "/api/".toList ∧ IsLine "/".toList := by decide
  have hnumber : IsLine (number r.occurrence) := by
    unfold number
    split_ifs
    · exact isLine_append.mpr ⟨hlead.2, isLine_of_isPlain (isPlain_toString _)⟩
    · simp [IsLine]
  have hroute : (r.view service).route = ControllerView.routeOf service r.operation.name
      r.occurrence := rfl
  rw [hroute, toList_routeOf, String.toList_append, String.toList_append]
  simp only [isLine_append]
  exact ⟨⟨⟨hlead.1, isLine_of_isPlain hservice⟩, hlead.2⟩, isLine_of_isPlain hname, hnumber⟩

theorem isLine_doc (hservice : IsPlain service.toList) (hname : IsPlain r.operation.name.toList) :
    IsLine (r.doc service) := by
  have hframe : IsLine " \x60GET ".toList ∧ IsLine "\x60".toList ∧ IsLine ".".toList ∧
      IsLine " standing in for \x60".toList := by decide
  have htype : IsLine (r.view service).typeChars := by
    unfold OperationView.typeChars
    split_ifs
    · simp [IsLine]
    · simp only [isLine_append]
      exact ⟨hframe.2.2.2, isLine_codeSpan r.operation.returnType, hframe.2.1⟩
  unfold doc
  simp only [isLine_append]
  exact ⟨hframe.1, isLine_route hservice hname, hframe.2.1, htype, hframe.2.2.1⟩

/-- The doc comment of an entry point ends with its line. -/
theorem cuts_doc (hdoc : IsLine (r.doc service)) (rest : List Char) :
    Cuts ('/' :: '/' :: '/' :: (r.doc service ++ '\n' :: rest)) [.lineDoc false (r.doc service)]
      ('\n' :: rest) :=
  Lexeme.cuts_lineDoc hdoc (fun h => absurd (Option.some.inj h) (by decide))

theorem entryChars_eq (rest : List Char) :
    (r.view service).entryChars ++ '\n' :: rest =
      "\n\n    ///".toList ++ (r.doc service ++ '\n' :: ("    pub fn".toList ++
        ' ' :: (r.handler.toList ++ ("() -> &'static str \x7b\n        ".toList ++
          ((Text.quoted r.operation.placeholder).toList ++
            ("\n    \x7d".toList ++ '\n' :: rest)))))) := by
  have hbegin : "\n\n    /// \x60GET ".toList = "\n\n    ///".toList ++ " \x60GET ".toList := by
    decide
  have hmiddle :
      ".\n    pub fn ".toList = ".".toList ++ '\n' :: ("    pub fn".toList ++ [' ']) := by decide
  unfold OperationView.entryChars doc
  simp only [hbegin, hmiddle, List.append_assoc, List.cons_append, List.nil_append]
  rfl

theorem cuts_entry (hhandler : isWord r.handler.toList = true) (hdoc : IsLine (r.doc service))
    (rest : List Char) :
    Cuts ((r.view service).entryChars ++ '\n' :: rest) (r.entryLexemes service)
      ('\n' :: rest) := by
  obtain ⟨result, hresult⟩ := Lexeme.exists_quoted_eq r.operation.placeholder
  have hbefore (t : List Char) : Cuts ("\n\n    ///".toList ++ t) [.space "\n\n    "]
      ('/' :: '/' :: '/' :: t) := .of_cutOff rfl
  have hfn (t : List Char) : Cuts ('\n' :: ("    pub fn".toList ++ ' ' :: t))
      [.space "\n    ", .word "pub", .space " ", .word "fn"] (' ' :: t) := .of_cutOff rfl
  have hname (t : List Char) (ht : endsWord t = true) : Cuts (' ' :: (r.handler.toList ++ t))
      [.space " ", .word r.handler] t :=
    Lexeme.cuts_space_word " " (by decide) rfl hhandler ht
  have hoption (t : List Char) : Cuts ("() -> &'static str \x7b\n        ".toList ++
      ((Text.quoted r.operation.placeholder).toList ++ t))
      [.opening .parenthesis, .closing .parenthesis, .space " ", .sign '-' true, .sign '>' false,
       .space " ", .sign '&' true, .lifetime "'static", .space " ", .word "str", .space " ",
       .opening .brace, .space "\n        "]
      ((Text.quoted r.operation.placeholder).toList ++ t) := by
    rw [hresult]
    exact .of_cutOff rfl
  have hend : Cuts ("\n    \x7d".toList ++ '\n' :: rest) [.space "\n    ", .closing .brace]
      ('\n' :: rest) := .of_cutOff rfl
  rw [entryChars_eq]
  exact (hbefore _).append ((cuts_doc hdoc _).append ((hfn _).append ((hname _ rfl).append
    ((hoption _).append ((Lexeme.cuts_quoted _ rfl).append hend)))))

end Routed

namespace ControllerView

/-! ## The frame -/

variable (s : Service)

/-- The comment that names the source of a service. -/
def sourceComment : List Char :=
  " Generated by servicegen from ".toList ++ ((ofFit s).sourceDoc.toList ++
    ". Do not edit.".toList)

/-- The comment that names the target namespace of a service, if it has one. -/
def targetLexemes : List Lexeme :=
  if (ofFit s).targetDoc.isEmpty then []
  else [.space "\n", .line (" Target: ".toList ++ (ofFit s).targetDoc.toList)]

/-- The doc comment of a controller. -/
def controllerDoc : List Char :=
  " Routed entry points for the \x60".toList ++ (s.name.toList ++ "\x60 service.".toList)

/-- The lexemes before the declarations. -/
def headerLexemes : List Lexeme :=
  [.line " <auto-generated>".toList, .space "\n", .line (sourceComment s)] ++
    (targetLexemes s ++ [.space "\n", .line " </auto-generated>".toList, .space "\n\n"])

/-- The lexemes of the declaration, and of the implementation up to its brace. -/
def structLexemes : List Lexeme :=
  [.lineDoc false (controllerDoc s), .space "\n", .word "pub", .space " ", .word "struct",
   .space " ", .word (s.name ++ "Controller"), .sign ';' false, .space "\n\n", .word "impl",
   .space " ", .word (s.name ++ "Controller")]

/-- The lexemes of the route table up to its first row. -/
def tableLexemes : List Lexeme :=
  [.space " ", .opening .brace, .space "\n    ",
   .lineDoc false " Route paths and handler names in declaration order.".toList, .space "\n    ",
   .word "pub", .space " ", .word "const", .space " ", .word "ROUTES", .sign ':' false, .space " ",
   .sign '&' true, .lifetime "'static", .space " ", .opening .bracket, .opening .parenthesis,
   .sign '&' true, .lifetime "'static", .space " ", .word "str", .sign ',' false, .space " ",
   .sign '&' true, .lifetime "'static", .space " ", .word "str", .closing .parenthesis,
   .closing .bracket, .space " ", .sign '=' false, .space " ", .sign '&' false, .opening .bracket]

/-- The lexemes of the dispatcher up to its first arm. -/
def dispatchLexemes : List Lexeme :=
  [.space "\n    ", .closing .bracket, .sign ';' false, .space "\n\n    ",
   .lineDoc false " Resolves a route path to its handler's response.".toList, .space "\n    ",
   .word "pub", .space " ", .word "fn", .space " ", .word "dispatch", .opening .parenthesis,
   .word "path", .sign ':' false, .space " ", .sign '&' false, .word "str", .closing .parenthesis,
   .space " ", .sign '-' true, .sign '>' false, .space " ", .word "Option", .sign '<' true,
   .sign '&' true, .lifetime "'static", .space " ", .word "str", .sign '>' false, .space " ",
   .opening .brace, .space "\n        ", .word "match", .space " ", .word "path", .space " ",
   .opening .brace]

/-- The lexemes of the last arm, up to the end of the dispatcher. -/
def lastArmLexemes : List Lexeme :=
  [.space "\n            ", .word "_", .space " ", .sign '=' true, .sign '>' false, .space " ",
   .word "None", .sign ',' false, .space "\n        ", .closing .brace, .space "\n    ",
   .closing .brace]

/-- The lexemes of a controller. -/
def lexemes : List Lexeme :=
  headerLexemes s ++ (structLexemes s ++ (tableLexemes ++
    (s.routed.flatMap (Routed.rowLexemes s.name) ++ (dispatchLexemes ++
      (s.routed.flatMap (Routed.armLexemes s.name) ++ (lastArmLexemes ++
        (s.routed.flatMap (Routed.entryLexemes s.name) ++
          [.space "\n", .closing .brace, .space "\n"])))))))

variable {s}

theorem isLine_sourceComment : IsLine (sourceComment s) := by
  have hframe :
      IsLine " Generated by servicegen from ".toList ∧ IsLine ". Do not edit.".toList := by decide
  unfold sourceComment
  simp only [isLine_append]
  exact ⟨hframe.1, isLine_singleLine _, hframe.2⟩

/-- The target is named on a line of its own or not at all. -/
theorem cuts_target (rest : List Char) :
    Cuts ((ofFit s).targetChars ++ '\n' :: rest) (targetLexemes s) ('\n' :: rest) := by
  have hbegin (t : List Char) : Cuts ("\n// Target: ".toList ++ t) [.space "\n"]
      ('/' :: '/' :: (" Target: ".toList ++ t)) := .of_cutOff rfl
  have hframe : IsLine " Target: ".toList := by decide
  have hline : IsLine (" Target: ".toList ++ (ofFit s).targetDoc.toList) :=
    isLine_append.mpr ⟨hframe, isLine_singleLine s.targetNamespace⟩
  unfold targetChars targetLexemes
  split_ifs
  · exact .nil _
  · have hcomment := Lexeme.cuts_line hline (rfl : Rust.Token.isPlainLine
      (" Target: ".toList ++ (ofFit s).targetDoc.toList ++ '\n' :: rest) = true)
    rw [List.append_assoc]
    refine (hbegin _).append ?_
    simpa only [List.cons_append, List.append_assoc] using hcomment

theorem exists_target_eq (rest : List Char) :
    ∃ t, (ofFit s).targetChars ++ '\n' :: rest = '\n' :: t := by
  unfold targetChars
  split_ifs
  · exact ⟨rest, rfl⟩
  · exact ⟨_, rfl⟩

theorem cuts_header (rest : List Char) :
    Cuts ("// <auto-generated>\n// Generated by servicegen from ".toList ++
        ((ofFit s).sourceDoc.toList ++ (". Do not edit.".toList ++ ((ofFit s).targetChars ++
          ("\n// </auto-generated>\n\n/// Routed entry points for the \x60".toList ++ rest)))))
      (headerLexemes s)
      ('/' :: '/' :: '/' :: (" Routed entry points for the \x60".toList ++ rest)) := by
  have hbegin (t : List Char) :
      Cuts ("// <auto-generated>\n// Generated by servicegen from ".toList ++ t)
        [.line " <auto-generated>".toList, .space "\n"]
        ('/' :: '/' :: (" Generated by servicegen from ".toList ++ t)) := .of_cutOff rfl
  have hend : Cuts
      ('\n' :: ("// </auto-generated>\n\n/// Routed entry points for the \x60".toList ++ rest))
      [.space "\n", .line " </auto-generated>".toList, .space "\n\n"]
      ('/' :: '/' :: '/' :: (" Routed entry points for the \x60".toList ++ rest)) :=
    .of_cutOff rfl
  obtain ⟨t, ht⟩ := exists_target_eq (s := s)
    ("// </auto-generated>\n\n/// Routed entry points for the \x60".toList ++ rest)
  have hsource := Lexeme.cuts_line (isLine_sourceComment (s := s)) (rfl : Rust.Token.isPlainLine
    (sourceComment s ++ '\n' :: t) = true)
  have htarget := cuts_target (s := s)
    ("// </auto-generated>\n\n/// Routed entry points for the \x60".toList ++ rest)
  rw [← ht] at hsource
  unfold sourceComment at hsource
  simp only [List.cons_append, List.append_assoc] at hsource
  exact (hbegin _).append (hsource.append (htarget.append hend))

theorem isLine_controllerDoc (h : s.checkIdentifiers = .ok ()) : IsLine (controllerDoc s) := by
  have hframe : IsLine " Routed entry points for the \x60".toList ∧
      IsLine "\x60 service.".toList := by decide
  have hname := Naming.isWord_of_isIdentifier (Service.isIdentifier_of_checkIdentifiers h).1
  unfold controllerDoc
  simp only [isLine_append]
  exact ⟨hframe.1, isLine_of_isPlain (Naming.isPlain_of_isWord hname), hframe.2⟩

theorem cuts_struct (h : s.checkIdentifiers = .ok ()) {rest : List Char}
    (hrest : endsWord rest = true) :
    Cuts ('/' :: '/' :: '/' :: (" Routed entry points for the \x60".toList ++ (s.name.toList ++
        ("\x60 service.\npub struct ".toList ++ ((s.name ++ "Controller").toList ++
          (";\n\nimpl ".toList ++ ((s.name ++ "Controller").toList ++ rest)))))))
      (structLexemes s) rest := by
  have hword := (Service.isName_controllerName h).1
  have hname (t : List Char) (ht : endsWord t = true) :
      Cuts (' ' :: ((s.name ++ "Controller").toList ++ t))
        [.space " ", .word (s.name ++ "Controller")] t :=
    Lexeme.cuts_space_word " " (by decide) rfl hword ht
  have hstruct (t : List Char) : Cuts ('\n' :: ("pub struct".toList ++ ' ' :: t))
      [.space "\n", .word "pub", .space " ", .word "struct"] (' ' :: t) := .of_cutOff rfl
  have himpl (t : List Char) : Cuts (";\n\nimpl".toList ++ ' ' :: t)
      [.sign ';' false, .space "\n\n", .word "impl"] (' ' :: t) := .of_cutOff rfl
  have hdoc (t : List Char) : Cuts ('/' :: '/' :: '/' :: (controllerDoc s ++ '\n' :: t))
      [.lineDoc false (controllerDoc s)] ('\n' :: t) :=
    Lexeme.cuts_lineDoc (isLine_controllerDoc h)
      (fun h => absurd (Option.some.inj h) (by decide))
  have hmiddle : "\x60 service.\npub struct ".toList =
      "\x60 service.".toList ++ '\n' :: ("pub struct".toList ++ [' ']) := by decide
  have hsemicolon : ";\n\nimpl ".toList = ";\n\nimpl".toList ++ [' '] := by decide
  have hcuts := (hdoc _).append ((hstruct _).append ((hname _ rfl).append
    ((himpl _).append (hname rest hrest))))
  unfold controllerDoc at hcuts
  simp only [List.cons_append, List.append_assoc] at hcuts
  rw [hmiddle, hsemicolon]
  simp only [List.cons_append, List.append_assoc, List.nil_append]
  exact hcuts

theorem cuts_table (rest : List Char) :
    Cuts (" \x7b\n    /// Route paths and handler names in declaration order.\n".toList ++
        ("    pub const ROUTES: &'static [(&'static str, &'static str)] = &[".toList ++ rest))
      tableLexemes rest :=
  .of_cutOff rfl

theorem cuts_dispatch (rest : List Char) :
    Cuts ("\n    ];\n\n    /// Resolves a route path to its handler's response.\n".toList ++
        ("    pub fn dispatch(path: &str) -> Option<&'static str> \x7b\n        match path \x7b".toList
          ++ rest)) dispatchLexemes rest :=
  .of_cutOff rfl

theorem cuts_lastArm (rest : List Char) :
    Cuts ("\n            _ => None,\n        \x7d\n    \x7d".toList ++ rest) lastArmLexemes rest :=
  .of_cutOff rfl

theorem cuts_operations {f : OperationView → List Char} {g : Routed → List Lexeme}
    (hstart : ∀ o, ∃ t, f o = '\n' :: t)
    (hcut : ∀ r ∈ s.routed, ∀ t, Cuts (f (r.view s.name) ++ '\n' :: t) (g r) ('\n' :: t))
    (rest : List Char) :
    Cuts ((ofFit s).operations.flatMap f ++ '\n' :: rest) (s.routed.flatMap g)
      ('\n' :: rest) := by
  have hcuts := Lexeme.cuts_flatMap (fun r _ => hstart (r.view s.name)) hcut rest
  have hoperations : (ofFit s).operations = s.routed.map (Routed.view s.name) := rfl
  rw [hoperations, List.flatMap_map]
  exact hcuts

theorem isLine_doc_routed (h : s.checkIdentifiers = .ok ()) {r : Routed} (hr : r ∈ s.routed) :
    IsLine (r.doc s.name) := by
  have hname := Naming.isWord_of_isIdentifier (Service.isIdentifier_of_checkIdentifiers h).1
  have hmem : r.operation ∈ s.operations := by
    rw [← Service.map_operation_routed s]
    exact List.mem_map_of_mem hr
  exact Routed.isLine_doc (Naming.isPlain_of_isWord hname)
    (Service.isPlain_of_checkIdentifiers h _ hmem)

theorem lexemes?_chars (h : s.checkIdentifiers = .ok ()) :
    lexemes? (ofFit s).chars = some (lexemes s) := by
  have hrows := cuts_operations (s := s) (f := OperationView.rowChars) (fun _ => ⟨_, rfl⟩)
    fun r _ t => Routed.cuts_row t
  have harms := cuts_operations (s := s) (f := OperationView.armChars) (fun _ => ⟨_, rfl⟩)
    fun r hr t => Routed.cuts_arm (Service.isName_handler h hr).1 t
  have hentries := cuts_operations (s := s) (f := OperationView.entryChars) (fun _ => ⟨_, rfl⟩)
    fun r hr t => Routed.cuts_entry (Service.isName_handler h hr).1 (isLine_doc_routed h hr) t
  have hend : Cuts "\n\x7d\n".toList [.space "\n", .closing .brace, .space "\n"] [] :=
    .of_cutOff rfl
  refine Lexeme.Cuts.lexemes?_eq ?_
  refine (cuts_header _).append ((cuts_struct h rfl).append ((cuts_table _).append ?_))
  refine (hrows _).append ((cuts_dispatch _).append ?_)
  refine (harms _).append ((cuts_lastArm _).append ?_)
  exact (hentries _).append hend

end ControllerView

end ServiceStubs
