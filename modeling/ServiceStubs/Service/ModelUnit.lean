import ServiceStubs.Template.Basic
import ServiceStubs.Text.Comment

/-!
# The aggregate unit

One unit carries the whole service model of a module, inside a block comment, so that it can be
read back but never runs.
-/

namespace ServiceStubs

/-- The aggregate unit before it is rendered. -/
structure ModelView where
  moduleDoc : String
  commentBlock : String
  deriving DecidableEq, Repr

namespace ModelView

/-- The view of a module's model text. -/
def of (moduleName model : String) : ModelView :=
  ⟨Text.Comment.singleLine moduleName, Text.Comment.embed model⟩

/-- The names that the model template can refer to. -/
def toScope (m : ModelView) : Template.Scope :=
  [("module_doc", .text m.moduleDoc), ("comment_block", .text m.commentBlock)]

/-- The built-in aggregate unit. -/
def template : List Template.Part :=
  [.text "// <auto-generated>\n// Service model extracted from ",
   .value ["module_doc"],
   .text ". Do not edit.\n// </auto-generated>\n",
   .value ["comment_block"],
   .text "\n"]

end ModelView

end ServiceStubs
