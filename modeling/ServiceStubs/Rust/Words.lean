/-!
# Reserved words

Words that no item, field, binding or type may have as its plain name.  Some further words have
a meaning in places and are names elsewhere; those are not in the list.
-/

namespace ServiceStubs.Rust

/-- The reserved words, and the underscore. -/
def reservedWords : List String :=
  ["_", "abstract", "as", "async", "await", "become", "box", "break", "const", "continue",
   "crate", "do", "dyn", "else", "enum", "extern", "false", "final", "fn", "for", "if", "impl",
   "in", "let", "loop", "macro", "match", "mod", "move", "mut", "override", "priv", "pub", "ref",
   "return", "Self", "self", "static", "struct", "super", "trait", "true", "try", "type",
   "typeof", "unsafe", "unsized", "use", "virtual", "where", "while", "yield"]

/-- Whether a word may be a plain name.  The empty word is none. -/
def isName (word : String) : Bool := word != "" && !reservedWords.contains word

end ServiceStubs.Rust
