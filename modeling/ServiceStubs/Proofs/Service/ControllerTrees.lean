import ServiceStubs.Proofs.Rust.Nesting
import ServiceStubs.Proofs.Service.ControllerLexemes

/-!
# The token trees of a controller

A controller is one structure and one implementation.  Each doc comment stands as an attribute
before what it documents.
-/

namespace ServiceStubs

open ServiceStubs.Rust (Lexeme Token Tree tokens?)
open ServiceStubs.Rust.Tree (flatten flattenAll_append flattenAll_flatMap)
open ServiceStubs.Rust.Tree.flatten (flattenAll)

/-! ## Pieces -/

/-- The attribute that a doc comment stands for. -/
def docTrees (content : List Char) : List Tree :=
  [.punct '#' false,
   .group .bracket
    [.ident "doc", .punct '=' false, .literal (String.ofList (Text.Quoted.encode content))]]

/-- The type of a text that lives as long as the program. -/
def textType : List Tree := [.punct '&' true, .lifetime "'static", .ident "str"]

namespace Routed

variable (service : String) (r : Routed)

/-- A row of the route table. -/
def rowTrees : List Tree :=
  [.group .parenthesis
    [.literal (Text.quoted (r.view service).route), .punct ',' false,
     .literal (Text.quoted r.handler)],
   .punct ',' false]

/-- An arm of the dispatcher. -/
def armTrees : List Tree :=
  [.literal (Text.quoted (r.view service).route), .punct '=' true, .punct '>' false,
   .ident "Some",
   .group .parenthesis
    [.ident "Self", .punct ':' true, .punct ':' false, .ident r.handler, .group .parenthesis []],
   .punct ',' false]

/-- An entry point without its doc comment. -/
def fnTrees : List Tree :=
  [.ident "pub", .ident "fn", .ident r.handler, .group .parenthesis [], .punct '-' true,
   .punct '>' false] ++ textType ++
    [.group .brace [.literal (Text.quoted r.operation.placeholder)]]

/-- An entry point. -/
def entryTrees : List Tree := docTrees (r.doc service) ++ r.fnTrees

end Routed

namespace ControllerView

/-- The last arm of the dispatcher. -/
def lastArmTrees : List Tree :=
  [.ident "_", .punct '=' true, .punct '>' false, .ident "None", .punct ',' false]

variable (s : Service)

/-- The route table. -/
def tableTrees : List Tree :=
  docTrees " Route paths and handler names in declaration order.".toList ++
    ([.ident "pub", .ident "const", .ident "ROUTES", .punct ':' false, .punct '&' true,
      .lifetime "'static",
      .group .bracket [.group .parenthesis (textType ++ [.punct ',' false] ++ textType)],
      .punct '=' false, .punct '&' false,
      .group .bracket (s.routed.flatMap (Routed.rowTrees s.name)), .punct ';' false])

/-- The dispatcher. -/
def dispatchTrees : List Tree :=
  docTrees " Resolves a route path to its handler's response.".toList ++
    ([.ident "pub", .ident "fn", .ident "dispatch",
      .group .parenthesis [.ident "path", .punct ':' false, .punct '&' false, .ident "str"],
      .punct '-' true, .punct '>' false, .ident "Option", .punct '<' true] ++ textType ++
     [.punct '>' false,
      .group .brace
       [.ident "match", .ident "path",
        .group .brace (s.routed.flatMap (Routed.armTrees s.name) ++ lastArmTrees)]])

/-- The content of the implementation. -/
def memberTrees : List Tree :=
  tableTrees s ++ (dispatchTrees s ++ s.routed.flatMap (Routed.entryTrees s.name))

/-- The structure. -/
def structTrees : List Tree :=
  docTrees (controllerDoc s) ++
    [.ident "pub", .ident "struct", .ident (s.name ++ "Controller"), .punct ';' false]

/-- The implementation. -/
def implTrees : List Tree :=
  [.ident "impl", .ident (s.name ++ "Controller"), .group .brace (memberTrees s)]

/-- The trees of a controller. -/
def trees : List Tree := structTrees s ++ implTrees s

variable {s}

theorem tokens_header : (headerLexemes s).flatMap Lexeme.tokens = [] := by
  rw [headerLexemes, targetLexemes]
  split_ifs <;> rfl

theorem tokens_lexemes : (lexemes s).flatMap Lexeme.tokens = flattenAll (trees s) := by
  have hrow : (fun r => (Routed.rowLexemes s.name r).flatMap Lexeme.tokens) =
      fun r => flattenAll (Routed.rowTrees s.name r) := rfl
  have harm : (fun r => (Routed.armLexemes s.name r).flatMap Lexeme.tokens) =
      fun r => flattenAll (Routed.armTrees s.name r) := rfl
  have hentry : (fun r => (Routed.entryLexemes s.name r).flatMap Lexeme.tokens) =
      fun r => flattenAll (Routed.entryTrees s.name r) := rfl
  rw [lexemes]
  simp only [List.flatMap_append, List.flatMap_assoc, hrow, harm, hentry, tokens_header,
    List.nil_append]
  rw [trees, structTrees, implTrees, memberTrees, tableTrees, dispatchTrees]
  simp only [flattenAll_append, flattenAll_flatMap, flattenAll, flatten, List.append_assoc,
    List.cons_append, List.nil_append, List.append_nil]
  rfl

/-- The token trees of a controller's text. -/
theorem nest_tokens (h : s.checkIdentifiers = .ok ()) :
    ∃ ts, tokens? (ofFit s).chars = some ts ∧ Token.nest [] [] ts = some (trees s) := by
  refine ⟨flattenAll (trees s), ?_, Token.nest_flattenAll_eq _⟩
  rw [Rust.tokens?_eq_lexemes?, lexemes?_chars h, Option.map_some, tokens_lexemes]

end ControllerView

end ServiceStubs
