import ServiceStubs.Proofs.Rust.BlockComment
import ServiceStubs.Renderer

/-!
# The aggregate unit never runs

Whatever a module is called and whatever its model says, the unit that carries the model is three
line comments and one block comment.  The module name cannot leave its line.  The model can neither
close the block comment nor open another one inside it, not even together with the marker lines
around it.
-/

namespace ServiceStubs

open ServiceStubs.Rust (Lexeme lexemes? tokens? depths)
open ServiceStubs.Rust.Lexeme (Cuts)
open ServiceStubs.Text.Comment (IsApart IsLine embed escapeBlock isApart_escapeBlock
  isDelimiterPair isLine_append isLine_singleLine quote_not_mem_escapeBlock singleLine)

namespace ModelView

/-- What the block comment of a model holds between its delimiters. -/
def blockContent (model : String) : List Char :=
  " Auto Generated\n===JSON BEGIN===\n".toList ++ (escapeBlock model).toList ++
    "\n===JSON END===\n".toList

theorem toList_embed (model : String) :
    (embed model).toList = '/' :: '*' :: blockContent model ++ ['*', '/'] := by
  unfold embed Text.Comment.blockBegin Text.Comment.blockEnd blockContent
  simp only [String.toList_append, List.append_assoc, List.cons_append]
  rfl

/-- A line feed on either side keeps away from everything. -/
theorem isApart_blockContent (model : String) : IsApart (blockContent model ++ ['*']) := by
  have hbefore : IsApart " Auto Generated\n===JSON BEGIN===\n".toList := by
    rw [IsApart]
    decide
  have hafter : IsApart ("\n===JSON END===\n".toList ++ ['*']) := by
    rw [IsApart]
    decide
  have hseam : ∀ c, isDelimiterPair c '\n' = false ∧ isDelimiterPair '\n' c = false := by
    simp [isDelimiterPair]
  unfold blockContent IsApart
  rw [List.append_assoc, List.isChain_append]
  refine ⟨List.isChain_append.mpr ⟨hbefore, isApart_escapeBlock model, ?_⟩, hafter, ?_⟩
  · intro c hc d _
    obtain rfl : '\n' = c := by simpa using hc
    exact (hseam d).2
  · intro c _ d hd
    obtain rfl : '\n' = d := by simpa using hd
    exact (hseam c).1

theorem quote_not_mem_embed (model : String) : '"' ∉ (embed model).toList := by
  have hbefore : '"' ∉ "/* Auto Generated\n===JSON BEGIN===\n".toList := by decide
  have hafter : '"' ∉ "\n===JSON END===\n*/".toList := by decide
  have hembed : (embed model).toList = "/* Auto Generated\n===JSON BEGIN===\n".toList ++
      (escapeBlock model).toList ++ "\n===JSON END===\n*/".toList := by
    rw [toList_embed]
    unfold blockContent
    simp only [List.append_assoc, List.cons_append]
    rfl
  rw [hembed, List.mem_append, List.mem_append]
  rintro ((h | h) | h)
  · exact hbefore h
  · exact quote_not_mem_escapeBlock model h
  · exact hafter h

/-- The depth rises to one with the opener of an embedded model and falls with its closer. -/
theorem depths_embed (model : String) :
    depths 0 (embed model).toList =
      List.replicate ((blockContent model).length + 1) 1 ++ [0] := by
  rw [toList_embed]
  simp only [List.cons_append]
  rw [depths, Rust.depths_of_isApart 1 (isApart_blockContent model), List.replicate_succ]
  rfl

/-- The comment that names the module. -/
def moduleComment (moduleName : String) : List Char :=
  " Service model extracted from ".toList ++ (singleLine moduleName).toList ++
    ". Do not edit.".toList

theorem isLine_moduleComment (moduleName : String) : IsLine (moduleComment moduleName) := by
  have hbefore : IsLine " Service model extracted from ".toList := by decide
  have hafter : IsLine ". Do not edit.".toList := by decide
  unfold moduleComment
  exact isLine_append.mpr ⟨isLine_append.mpr ⟨hbefore, isLine_singleLine moduleName⟩, hafter⟩

/-- The lexemes of the aggregate unit. -/
def lexemes (moduleName model : String) : List Lexeme :=
  [.line " <auto-generated>".toList, .space "\n", .line (moduleComment moduleName), .space "\n",
   .line " </auto-generated>".toList, .space "\n", .block (blockContent model), .space "\n"]

theorem cuts_modelHeader (moduleName : String) (rest : List Char) :
    Cuts ("// <auto-generated>\n//".toList ++ (moduleComment moduleName ++
        ("\n// </auto-generated>\n".toList ++ '/' :: '*' :: rest)))
      [.line " <auto-generated>".toList, .space "\n", .line (moduleComment moduleName),
       .space "\n", .line " </auto-generated>".toList, .space "\n"]
      ('/' :: '*' :: rest) := by
  have hbefore (t : List Char) : Cuts ("// <auto-generated>\n//".toList ++ t)
      [.line " <auto-generated>".toList, .space "\n"] ('/' :: '/' :: t) :=
    .of_cutOff rfl
  have hline (t : List Char) : Cuts ('/' :: '/' :: moduleComment moduleName ++ '\n' :: t)
      [.line (moduleComment moduleName)] ('\n' :: t) :=
    Lexeme.cuts_line (isLine_moduleComment moduleName) rfl
  have hafter : Cuts ("\n// </auto-generated>\n".toList ++ '/' :: '*' :: rest)
      [.space "\n", .line " </auto-generated>".toList, .space "\n"] ('/' :: '*' :: rest) :=
    .of_cutOff rfl
  exact (hbefore _).append ((hline _).append hafter)

/-- The lines before the comment that carries the model. -/
def header (moduleName : String) : String :=
  "// <auto-generated>\n// Service model extracted from " ++ singleLine moduleName ++
    ". Do not edit.\n// </auto-generated>\n"

/-- The text of the aggregate unit. -/
def text (moduleName model : String) : String :=
  header moduleName ++ embed model ++ "\n"

theorem serviceModel_eq (moduleName model : String) :
    Renderer.builtIn.serviceModel moduleName model = .ok (text moduleName model) := by
  have hrender : Renderer.builtIn.serviceModel moduleName model =
      .ok ("// <auto-generated>\n// Service model extracted from " ++ (singleLine moduleName ++
        (". Do not edit.\n// </auto-generated>\n" ++ (embed model ++ ("\n" ++ ""))))) := rfl
  rw [hrender]
  unfold text header
  simp only [String.append_assoc, String.append_empty]

theorem lexemes?_serviceModel (moduleName model : String) :
    ∃ text, Renderer.builtIn.serviceModel moduleName model = .ok text ∧
      lexemes? text.toList = some (lexemes moduleName model) := by
  refine ⟨text moduleName model, serviceModel_eq moduleName model, Lexeme.Cuts.lexemes?_eq ?_⟩
  have htext : (text moduleName model).toList =
      "// <auto-generated>\n//".toList ++ (moduleComment moduleName ++
        ("\n// </auto-generated>\n".toList ++
          '/' :: '*' :: (blockContent model ++ ['*', '/', '\n']))) := by
    have hbegin : "// <auto-generated>\n// Service model extracted from ".toList =
        "// <auto-generated>\n//".toList ++ " Service model extracted from ".toList := by decide
    have hmiddle : ". Do not edit.\n// </auto-generated>\n".toList =
        ". Do not edit.".toList ++ "\n// </auto-generated>\n".toList := by decide
    have hend : ['*', '/'] ++ "\n".toList = ['*', '/', '\n'] := rfl
    unfold text header moduleComment
    simp only [String.toList_append, toList_embed, hbegin, hmiddle, hend, List.append_assoc,
      List.cons_append]
  have hblock : Cuts ('/' :: '*' :: blockContent model ++ ['*', '/', '\n'])
      [.block (blockContent model)] ['\n'] :=
    Lexeme.cuts_block (isApart_blockContent model) rfl
  have hend : Cuts ['\n'] [.space "\n"] [] := .of_cutOff rfl
  rw [htext]
  exact (cuts_modelHeader moduleName _).append (hblock.append hend)

end ModelView

/-- The unit has no token.  It is line comments and one block comment, whose content stays one
level deep up to the closer that ends it, and which holds no double quote. -/
theorem serviceModel_never_runs (moduleName model : String) :
    ∃ (text : String) (before : List Lexeme) (content : List Char),
      Renderer.builtIn.serviceModel moduleName model = .ok text ∧
      tokens? text.toList = some [] ∧
      lexemes? text.toList = some (before ++ [.block content, .gap ['\n']]) ∧
      (∀ l ∈ before, (∃ comment, l = .line comment) ∨ ∃ blanks, l = .gap blanks) ∧
      (embed model).toList = '/' :: '*' :: content ++ ['*', '/'] ∧
      depths 0 (embed model).toList = List.replicate (content.length + 1) 1 ++ [0] ∧
      '"' ∉ (embed model).toList := by
  obtain ⟨text, htext, hlexemes⟩ := ModelView.lexemes?_serviceModel moduleName model
  have htokens : tokens? text.toList = some [] := by
    rw [Rust.tokens?_eq_lexemes?, hlexemes]
    rfl
  refine ⟨text, (ModelView.lexemes moduleName model).take 6, ModelView.blockContent model, htext,
    htokens, hlexemes, ?_, ModelView.toList_embed model, ModelView.depths_embed model,
    ModelView.quote_not_mem_embed model⟩
  intro l hl
  simp only [ModelView.lexemes, Lexeme.space, List.take_succ_cons, List.take_zero, List.mem_cons,
    List.not_mem_nil, or_false] at hl
  rcases hl with rfl | rfl | rfl | rfl | rfl | rfl
  · exact .inl ⟨_, rfl⟩
  · exact .inr ⟨_, rfl⟩
  · exact .inl ⟨_, rfl⟩
  · exact .inr ⟨_, rfl⟩
  · exact .inl ⟨_, rfl⟩
  · exact .inr ⟨_, rfl⟩

end ServiceStubs
