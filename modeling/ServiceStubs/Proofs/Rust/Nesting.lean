import ServiceStubs.Rust.Lexer

/-!
# Trees written out

Nesting takes the tokens of a sequence of trees back to the trees.
-/

namespace ServiceStubs.Rust

namespace Tree

/-- The tokens of a tree. -/
def flatten : Tree → List Token
  | .group d content => .opening d :: (flattenAll content ++ [.closing d])
  | t => [.leaf t]
where
  /-- The tokens of a sequence of trees. -/
  flattenAll : List Tree → List Token
    | [] => []
    | t :: ts => flatten t ++ flattenAll ts

open flatten (flattenAll)

@[simp] theorem flattenAll_append (ts us : List Tree) :
    flattenAll (ts ++ us) = flattenAll ts ++ flattenAll us := by
  induction ts with
  | nil => rfl
  | cons t ts ih => simp only [List.cons_append, flattenAll, ih, List.append_assoc]

theorem flattenAll_flatMap {α : Type} (as : List α) (f : α → List Tree) :
    flattenAll (as.flatMap f) = as.flatMap fun a => flattenAll (f a) := by
  induction as with
  | nil => rfl
  | cons a as ih => simp only [List.flatMap_cons, flattenAll_append, ih]

end Tree

namespace Token

open ServiceStubs.Rust.Tree (flatten)
open ServiceStubs.Rust.Tree.flatten (flattenAll)

theorem nest_leaf (t : Tree) (frames : List (Delimiter × List Tree)) (done : List Tree)
    (rest : List Token) : nest frames done (.leaf t :: rest) = nest frames (t :: done) rest := by
  cases frames <;> rfl

theorem nest_opening (d : Delimiter) (frames : List (Delimiter × List Tree)) (done : List Tree)
    (rest : List Token) :
    nest frames done (.opening d :: rest) = nest ((d, done) :: frames) [] rest := by
  cases frames <;> rfl

mutual

/-- The tokens of a tree add the tree to those that are done. -/
theorem nest_flatten (t : Tree) (frames : List (Delimiter × List Tree)) (done : List Tree)
    (rest : List Token) : nest frames done (flatten t ++ rest) = nest frames (t :: done) rest := by
  cases t with
  | group d content =>
    have hcontent := nest_flattenAll content ((d, done) :: frames) [] (.closing d :: rest)
    simp only [flatten, List.cons_append, List.append_assoc, List.nil_append]
    rw [nest_opening, hcontent, nest]
    simp
  | ident name => exact nest_leaf (.ident name) frames done rest
  | lifetime name => exact nest_leaf (.lifetime name) frames done rest
  | punct c joined => exact nest_leaf (.punct c joined) frames done rest
  | literal spelling => exact nest_leaf (.literal spelling) frames done rest

/-- The tokens of trees add the trees to those that are done. -/
theorem nest_flattenAll (ts : List Tree) (frames : List (Delimiter × List Tree))
    (done : List Tree) (rest : List Token) :
    nest frames done (flattenAll ts ++ rest) = nest frames (ts.reverse ++ done) rest := by
  cases ts with
  | nil => rfl
  | cons t ts =>
    rw [flattenAll, List.append_assoc, nest_flatten t, nest_flattenAll ts]
    simp

end

/-- The tokens of trees nest into the trees. -/
theorem nest_flattenAll_eq (ts : List Tree) : nest [] [] (flattenAll ts) = some ts := by
  have h := nest_flattenAll ts [] [] []
  simpa [nest] using h

end Token

end ServiceStubs.Rust
