import ServiceStubs.Proofs.Rust.Reading
import ServiceStubs.Rust.File

/-!
# Phrases around a plain name

A plain name is no reserved word, so every test for such a word fails on it.  The phrases below hold
a name that is known only to be plain: paths of one name, types of one name, and calls of a function
of the own type.
-/

namespace ServiceStubs.Rust

open ServiceStubs.Rust.Parser ServiceStubs.Rust.Tree

variable {name : String} {content ts ts' rest : List Tree} {n : Nat}

namespace Tree

theorem startsWord_of_isName (h : isName name = true) {w : String} (hw : w ∈ reservedWords) :
    startsWord w (.ident name :: rest) = false := by
  have hne : name ≠ w := by
    rintro rfl
    simp [isName, hw] at h
  simpa only [startsWord, beq_eq_false_iff_ne] using hne

theorem startsWordOf_of_isName (h : isName name = true) {ws : List String}
    (hws : ws ⊆ reservedWords) : startsWordOf ws (.ident name :: rest) = false := by
  have hnot : name ∉ ws := by
    intro hmem
    simp [isName, hws hmem] at h
  simpa [startsWordOf] using hnot

end Tree

namespace Grammar

variable (g : Grammar)

/-! ## Paths -/

theorem reads_segment (h : isName name = true) (d : Delimiter) (inExpr : Bool) :
    Reads (g.segment inExpr) (.ident name :: .group d content :: rest) (name, none)
      (.group d content :: rest) := by
  rw [segment]
  refine .bind .ahead (.ite_of_false (startsWordOf_of_isName h (by decide)) ?_)
  refine .bind (.identWhere (by rw [h]; rfl)) ?_
  cases inExpr <;> exact fun _ => ⟨_, rfl⟩

/-- A path of one name. -/
theorem reads_qualifiedPath (h : isName name = true) (d : Delimiter) (inExpr : Bool) :
    Reads (g.qualifiedPath inExpr) (.ident name :: .group d content :: rest)
      ⟨false, name, none, true, false, true⟩ (.group d content :: rest) := by
  rw [qualifiedPath]
  refine .bind (.punct?_of_ne rfl) (.ite_of_false rfl ?_)
  rw [path]
  refine .bind (.punct?_of_ne rfl) ?_
  refine .bind (reads_segment g h d inExpr) ?_
  exact .bind (.whileAhead_of_false rfl) .pure

/-- The path of a function of the own type. -/
theorem reads_ownPath (h : isName name = true) :
    Reads (g.qualifiedPath true)
      (.ident "Self" :: .punct ':' true :: .punct ':' false :: .ident name ::
        .group .parenthesis content :: rest)
      ⟨false, name, none, true, false, false⟩ (.group .parenthesis content :: rest) := by
  have hsteps : Reads (g.steps true)
      (.punct ':' true :: .punct ':' false :: .ident name :: .group .parenthesis content :: rest)
      [(name, none)] (.group .parenthesis content :: rest) := by
    refine ReadsAll.whileAhead (.cons rfl ?_ (by simp) (.nil rfl))
    exact .bind (fun _ => ⟨_, rfl⟩) (reads_segment g h .parenthesis true)
  rw [qualifiedPath]
  refine .bind (.punct?_of_ne rfl) (.ite_of_false rfl ?_)
  rw [path]
  refine .bind (.punct?_of_ne rfl) (.bind (fun _ => ⟨_, rfl⟩) ?_)
  exact .bind hsteps .pure

/-! ## Types -/

theorem reads_pathTy (h : isName name = true) :
    Reads (g.pathTy false true) (.ident name :: .group .brace content :: rest)
      ⟨.path false name, true, true⟩ (.group .brace content :: rest) := by
  rw [pathTy, tyPath]
  refine .bind (.bind (reads_qualifiedPath g h .brace false) (.bind .ahead .pure)) ?_
  exact fun _ => ⟨_, rfl⟩

theorem reads_tyStart (h : isName name = true) :
    Reads (g.tyStart true) (.ident name :: .group .brace content :: rest)
      ⟨.path false name, true, true⟩ (.group .brace content :: rest) := by
  have hbinder : Reads g.binder? (.ident name :: .group .brace content :: rest) false
      (.ident name :: .group .brace content :: rest) := by
    rw [binder?]
    exact .bind (.word?_of_ne (startsWord_of_isName h (by decide))) .pure
  rw [tyStart]
  refine .bind hbinder (.bind .ahead (.ite_of_false rfl ?_))
  refine .ite_of_false (startsWordOf_of_isName h (by decide)) (.ite_of_true ?_ ?_)
  · simp [startsName, h]
  · exact reads_pathTy g h

/-- A type of one name before a block. -/
theorem reads_ty (h : isName name = true) :
    Reads ((grammar (n + 1)).ty true) (.ident name :: .group .brace content :: rest)
      ⟨.path false name, true, true⟩ (.group .brace content :: rest) := by
  show Reads ((grammar n).typePhrase true) _ _ _
  rw [typePhrase]
  exact .recorded (reads_tyStart _ h) fun _ => .pure

/-! ## Expressions -/

/-- An expression that starts with neither an attribute nor a sign. -/
theorem reads_unaryExpr {allowStruct : Bool} {e e' : ExprPhrase}
    (h : startsPunctOf ["#", "&", "*", "!", "-"] ts = false)
    (hatom : Reads (g.atom allowStruct) ts e ts') (htrailed : Reads (g.trailed e) ts' e' rest) :
    Reads (g.unaryExpr allowStruct) ts e' rest := by
  have hsign : ∀ sign ∈ ["#", "&", "*", "!", "-"], startsPunct sign ts = false := by
    simpa [startsPunctOf] using h
  have hattributes : Reads g.outerAttributes ts () ts :=
    .bind (.whileAhead_of_false (hsign "#" (by decide))) .pure
  rw [unaryExpr]
  refine .bind hattributes (.bind .ahead ?_)
  refine .ite_of_false (hsign "&" (by decide)) (.ite_of_false (hsign "*" (by decide)) ?_)
  refine .ite_of_false (hsign "!" (by decide)) (.ite_of_false (hsign "-" (by decide)) ?_)
  exact .bind hatom htrailed

/-- The call of a function of the own type. -/
def ownCall (name : String) : List Tree :=
  [.ident "Self", .punct ':' true, .punct ':' false, .ident name, .group .parenthesis []]

theorem reads_ownCall (h : isName name = true) :
    Reads ((grammar (n + 2)).expr true) (ownCall name) .plain [] := by
  have hpath : Reads ((grammar (n + 1)).pathExpr true) (ownCall name) .plain
      [.group .parenthesis []] := by
    rw [pathExpr]
    exact .bind (reads_ownPath _ h) fun _ => ⟨_, rfl⟩
  have hunary : Reads ((grammar (n + 1)).unaryExpr true) (ownCall name) .plain [] :=
    reads_unaryExpr _ rfl hpath fun _ => ⟨_, rfl⟩
  show Reads ((grammar (n + 1)).expression true) _ _ _
  rw [expression]
  exact .bind hunary fun _ => ⟨_, rfl⟩

end Grammar

end ServiceStubs.Rust
