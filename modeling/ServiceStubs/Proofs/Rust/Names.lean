import Mathlib.Tactic.SplitIfs
import ServiceStubs.Rust.File

/-!
# Declared names

A parser may be asked for what all its values have in common.  Every type that the grammar finds,
however deep in modules it is declared, has a name.
-/

namespace ServiceStubs.Rust

/-! ## What a parser may give -/

namespace Parser

/-- All values that the parser may give have the property. -/
def Gives {α : Type} (p : Parser α) (P : α → Prop) : Prop :=
  ∀ i a j, p i = some (a, j) → P a

namespace Gives

variable {α β : Type} {P : α → Prop} {Q : β → Prop} {p : Parser α} {a : α}

theorem pure (h : P a) : Gives (pure a) P := by
  intro i b j hb
  cases hb
  exact h

theorem failure : Gives (failure : Parser α) P := by
  intro i a j h
  cases h

theorem bind {f : α → Parser β} (hp : Gives p P) (hf : ∀ a, P a → Gives (f a) Q) :
    Gives (p >>= f) Q := by
  intro i b j h
  obtain ⟨⟨a, k⟩, hk, hrest⟩ := Option.bind_eq_some_iff.mp h
  exact hf a (hp i a k hk) k b j hrest

/-- The last part alone may decide. -/
theorem after {f : α → Parser β} (hf : ∀ a, Gives (f a) Q) : Gives (p >>= f) Q := by
  intro i b j h
  obtain ⟨⟨a, k⟩, -, hrest⟩ := Option.bind_eq_some_iff.mp h
  exact hf a k b j hrest

theorem ite {test : Bool} {q : Parser α} (hp : Gives p P) (hq : Gives q P) :
    Gives (if test = true then p else q) P := by
  by_cases h : test = true
  · rw [if_pos h]
    exact hp
  · rw [if_neg h]
    exact hq

theorem identWhere (test : String → Bool) :
    Gives (identWhere test) fun name => test name = true := by
  intro i name j h
  unfold Parser.identWhere at h
  split at h
  · split_ifs at h with htest
    cases h
    exact htest
  · cases h

theorem inGroup {d : Delimiter} (hp : Gives p P) : Gives (inGroup d p) P := by
  intro i a j h
  unfold Parser.inGroup at h
  split at h
  · next content ts _ =>
    split_ifs at h
    split at h
    · next hcontent =>
      cases h
      exact hp _ _ _ hcontent
    · cases h
  · cases h

theorem whileFuel {test : List Tree → Bool} (hp : Gives p P) (n : Nat) :
    Gives (whileFuel test p n) fun as => ∀ a ∈ as, P a := by
  induction n with
  | zero => exact after fun _ => pure (List.forall_mem_nil P)
  | succ n ih =>
    refine after fun _ => ite (hp.bind fun a ha => ih.bind fun as has => ?_) ?_
    · exact pure (List.forall_mem_cons.mpr ⟨ha, has⟩)
    · exact pure (List.forall_mem_nil P)

theorem untilEnd (hp : Gives p P) : Gives (untilEnd p) fun as => ∀ a ∈ as, P a :=
  after fun ts => hp.whileFuel ts.length

theorem name : Gives name (· ≠ "") := by
  intro i w j h
  have hname := identWhere isName i w j h
  rintro rfl
  cases hname

end Gives

end Parser

/-! ## Items whose types are named -/

/-- The types declared by an item, and by those within it, have names. -/
inductive Item.IsNamed : Item → Prop where
  | declared {name : String} {visibility : Visibility} (h : name ≠ "") :
      IsNamed (.declared name visibility)
  | implBlock (block : ImplBlock) : IsNamed (.implBlock block)
  | inlineModule {name : String} {items : List Item} (h : ∀ i ∈ items, IsNamed i) :
      IsNamed (.inlineModule name items)
  | other : IsNamed .other

namespace Grammar

open ServiceStubs.Rust.Parser

variable {g : Grammar}

theorem gives_typeDeclaration (g : Grammar) : Gives g.typeDeclaration (· ≠ "") := by
  refine .after fun ts => .after fun _ => Gives.name.bind fun name hname => .after fun _ => ?_
  refine .ite (.after fun _ => .pure hname) (.ite ?_ ?_)
  · exact .after fun _ => .after fun _ => .pure hname
  · exact .after fun _ => .after fun _ => .pure hname

theorem gives_passing (p : Parser Unit) : Gives (passing p) Item.IsNamed :=
  .after fun _ => .pure .other

theorem gives_moduleDeclaration (hg : Gives g.item Item.IsNamed) :
    Gives g.moduleDeclaration Item.IsNamed := by
  have hitems : Gives (inGroup .brace do
      g.innerAttributes
      untilEnd g.item) fun items => ∀ i ∈ items, Item.IsNamed i :=
    .inGroup (.after fun _ => hg.untilEnd)
  refine .after fun _ => .after fun _ => .after fun name => .after fun _ => .ite (.pure .other) ?_
  exact hitems.bind fun items h => .pure (.inlineModule h)

theorem gives_implementation (g : Grammar) : Gives g.implementation Item.IsNamed := by
  refine .after fun v => .after fun _ => .after fun _ => .after fun _ => .after fun _ => ?_
  -- The rest is the same with and without generic parameters, and with and without a negation.
  refine .ite (.after fun _ => ?_) ?_
  all_goals
    refine .after fun _ => .after fun isConst => .after fun _ => .ite (.after fun _ => ?_) ?_
    all_goals
      refine .after fun first => .after fun target => .after fun _ => .after fun methods => ?_
      refine .ite (.pure .other) ?_
      split
      · exact .pure (.implBlock _)
      · split
        · exact .pure (.implBlock _)
        · exact .pure .other

theorem gives_unsafeItem (hg : Gives g.item Item.IsNamed) (ts : List Tree) :
    Gives (g.unsafeItem ts) Item.IsNamed := by
  refine .ite (gives_passing _) (.ite (gives_implementation g) (.ite (gives_passing _) ?_))
  exact .after fun _ => gives_moduleDeclaration hg

theorem gives_externItem (g : Grammar) (ts : List Tree) :
    Gives (g.externItem ts) Item.IsNamed :=
  .ite (gives_passing _) (gives_passing _)

theorem gives_itemPhrase (hg : Gives g.item Item.IsNamed) : Gives g.itemPhrase Item.IsNamed := by
  refine .after fun _ => .after fun ts => ?_
  refine .ite (gives_passing _) (.ite (gives_externItem g _) ?_)
  refine .ite (gives_passing _) (.ite (gives_passing _) (.ite (gives_passing _) ?_))
  refine .ite (gives_unsafeItem hg _) (.ite (.after fun _ => gives_moduleDeclaration hg) ?_)
  refine .ite (gives_passing _) (.ite ?_ ?_)
  · exact .after fun v => (gives_typeDeclaration g).bind fun name h => .pure (.declared h)
  refine .ite (gives_passing _) (.ite (gives_passing _) (.ite (gives_passing _) ?_))
  refine .ite (gives_implementation g) (.ite (gives_passing _) ?_)
  exact .after fun _ => gives_passing _

/-- Every level of the grammar finds named types only, from the level below. -/
theorem gives_item (n : Nat) : Gives (grammar n).item Item.IsNamed := by
  induction n with
  | zero => exact .failure
  | succ n ih => exact gives_itemPhrase ih

theorem gives_file (n : Nat) : Gives (grammar n).file fun items => ∀ i ∈ items, i.IsNamed :=
  .after fun _ => (gives_item n).untilEnd

end Grammar

theorem isNamed_of_items? {text : String} {items : List Item} (h : items? text = some items) :
    ∀ i ∈ items, i.IsNamed := by
  obtain ⟨tokens, -, h⟩ := Option.bind_eq_some_iff.mp h
  obtain ⟨trees, -, h⟩ := Option.bind_eq_some_iff.mp h
  have hfile := Grammar.gives_file (4 * tokens.length + 16)
  dsimp only at h
  split at h
  · next hread =>
    cases h
    exact hfile _ _ _ hread
  · cases h

end ServiceStubs.Rust
