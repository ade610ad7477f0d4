import ServiceStubs.Rust.Parser

/-!
# What parsers read

A parser reads a value from the front of its input if it gives that value there and leaves the
rest, whatever has been printed before.  A phrase is read part by part, and a part that is known as
a whole is read by computation.
-/

namespace ServiceStubs.Rust.Parser

variable {α β : Type} {ts ts' rest : List Tree} {a : α} {b : β}

/-- The parser gives the value and leaves the rest. -/
def Reads (p : Parser α) (ts : List Tree) (a : α) (rest : List Tree) : Prop :=
  ∀ passed, ∃ passed', p ⟨ts, passed⟩ = some (a, ⟨rest, passed'⟩)

theorem Reads.pure : Reads (pure a) ts a ts :=
  fun passed => ⟨passed, rfl⟩

theorem Reads.bind {p : Parser α} {f : α → Parser β} (hp : Reads p ts a ts')
    (hf : Reads (f a) ts' b rest) : Reads (p >>= f) ts b rest := by
  intro passed
  obtain ⟨middle, hmiddle⟩ := hp passed
  obtain ⟨passed', hrest⟩ := hf middle
  refine ⟨passed', ?_⟩
  show (p ⟨ts, passed⟩).bind (fun q => f q.1 q.2) = _
  rw [hmiddle]
  exact hrest

theorem Reads.ite_of_true {test : Bool} {p q : Parser α} (h : test = true)
    (hp : Reads p ts a rest) : Reads (if test = true then p else q) ts a rest := by
  rw [if_pos h]
  exact hp

theorem Reads.ite_of_false {test : Bool} {p q : Parser α} (h : test = false)
    (hq : Reads q ts a rest) : Reads (if test = true then p else q) ts a rest := by
  rw [if_neg (h ▸ Bool.false_ne_true)]
  exact hq

theorem Reads.ahead : Reads ahead ts ts ts :=
  fun passed => ⟨passed, rfl⟩

theorem Reads.peek (test : List Tree → Bool) : Reads (peek test) ts (test ts) ts :=
  fun passed => ⟨passed, rfl⟩

theorem Reads.require {test : List Tree → Bool} (h : test ts = true) :
    Reads (require test) ts () ts := by
  intro passed
  refine ⟨passed, ?_⟩
  show (if test ts = true then _ else _) = _
  rw [if_pos h]

/-! ## Single tokens -/

theorem Reads.word?_of_ne {w : String} (h : Tree.startsWord w ts = false) :
    Reads (word? w) ts false ts := by
  refine .bind (.peek _) ?_
  rw [h]
  exact .pure

theorem Reads.punct?_of_ne {operator : String} (h : Tree.startsPunct operator ts = false) :
    Reads (punct? operator) ts false ts := by
  refine .bind (.peek _) ?_
  rw [h]
  exact .pure

theorem Reads.identWhere {test : String → Bool} {name : String} (h : test name = true) :
    Reads (identWhere test) (.ident name :: ts) name ts := by
  intro passed
  refine ⟨.ident name :: passed, ?_⟩
  show (if test name = true then _ else _) = _
  rw [if_pos h]

/-! ## Inside and around -/

theorem Reads.inGroup {p : Parser α} {d : Delimiter} {content : List Tree}
    (h : Reads p content a []) : Reads (inGroup d p) (.group d content :: rest) a rest := by
  intro passed
  obtain ⟨inside, hinside⟩ := h []
  refine ⟨.group d inside.reverse :: passed, ?_⟩
  show (if d = d then _ else _) = _
  rw [if_pos rfl, hinside]

/-- What a recorded parser printed is not determined by what it reads. -/
theorem Reads.recorded {p : Parser α} {f : α × List Tree → Parser β} (h : Reads p ts a ts')
    (hf : ∀ tokens, Reads (f (a, tokens)) ts' b rest) : Reads (recorded p >>= f) ts b rest := by
  intro passed
  obtain ⟨inside, hinside⟩ := h []
  obtain ⟨passed', hrest⟩ := hf inside.reverse (inside ++ passed)
  refine ⟨passed', ?_⟩
  show (((p ⟨ts, []⟩).map _).bind (fun (a, i) => f a i)) = _
  rw [hinside]
  exact hrest

/-! ## Repetition -/

/-- The parser reads values one after another, up to where the test fails. -/
inductive ReadsAll (test : List Tree → Bool) (p : Parser α) :
    List Tree → List α → List Tree → Prop
  | nil {ts : List Tree} (h : test ts = false) : ReadsAll test p ts [] ts
  | cons {ts ts' rest : List Tree} {a : α} {as : List α} (h : test ts = true)
      (hp : Reads p ts a ts') (hlength : ts'.length < ts.length)
      (hrest : ReadsAll test p ts' as rest) : ReadsAll test p ts (a :: as) rest

variable {test : List Tree → Bool} {p : Parser α} {as : List α}

theorem ReadsAll.whileFuel (h : ReadsAll test p ts as rest) {n : Nat} (hn : ts.length ≤ n) :
    Reads (whileFuel test p n) ts as rest := by
  induction h generalizing n with
  | nil h =>
    cases n with
    | zero => exact .bind (.require (by simp [h])) .pure
    | succ n =>
      refine .bind (.peek test) ?_
      rw [h]
      exact .pure
  | cons h hp hlength hrest ih =>
    cases n with
    | zero => omega
    | succ n =>
      refine .bind (.peek test) ?_
      rw [h]
      exact .bind hp (.bind (ih (by omega)) .pure)

/-- The rounds of a repetition are no more than there are trees. -/
theorem ReadsAll.whileAhead (h : ReadsAll test p ts as rest) :
    Reads (whileAhead test p) ts as rest :=
  .bind .ahead (h.whileFuel (Nat.le_refl _))

theorem Reads.whileAhead_of_false (h : test ts = false) : Reads (whileAhead test p) ts [] ts :=
  (ReadsAll.nil h).whileAhead

theorem ReadsAll.cons_append {piece : List Tree} (hne : piece ≠ [])
    (h : test (piece ++ ts) = true) (hp : Reads p (piece ++ ts) a ts)
    (hrest : ReadsAll test p ts as rest) : ReadsAll test p (piece ++ ts) (a :: as) rest := by
  have hpos := List.length_pos_iff.mpr hne
  exact .cons h hp (by simp only [List.length_append]; omega) hrest

/-- Pieces that are each read as a whole, whatever follows. -/
theorem ReadsAll.flatMap {γ : Type} {f : γ → List Tree} {g : γ → α} {cs : List γ}
    (hcs : ∀ c ∈ cs, ∀ ts, test (f c ++ ts) = true ∧ Reads p (f c ++ ts) (g c) ts)
    (hne : ∀ c ∈ cs, f c ≠ []) (hrest : ReadsAll test p ts as rest) :
    ReadsAll test p (cs.flatMap f ++ ts) (cs.map g ++ as) rest := by
  induction cs with
  | nil => exact hrest
  | cons c cs ih =>
    obtain ⟨hc, hcs⟩ := List.forall_mem_cons.mp hcs
    obtain ⟨hnec, hne⟩ := List.forall_mem_cons.mp hne
    rw [List.flatMap_cons, List.append_assoc]
    exact .cons_append hnec (hc _).1 (hc _).2 (ih hcs hne)

/-- Elements that have a comma after each of them. -/
theorem Reads.commaSeparated {γ : Type} {f : γ → Tree} {g : γ → α} {cs : List γ}
    (hcs : ∀ c ∈ cs, ∀ ts, Reads p (f c :: .punct ',' false :: ts) (g c) (.punct ',' false :: ts)) :
    Reads (commaSeparated p) (cs.flatMap fun c => [f c, .punct ',' false]) (cs.map g) [] := by
  have hfuel : ∀ n, cs.length < n →
      Reads (separatedFuel List.isEmpty "," p n) (cs.flatMap fun c => [f c, .punct ',' false])
        (cs.map g) [] := by
    intro n hn
    induction cs generalizing n with
    | nil =>
      obtain ⟨n, rfl⟩ := Nat.exists_eq_add_one_of_ne_zero (Nat.ne_of_gt hn)
      exact .bind (.peek _) .pure
    | cons c cs ih =>
      obtain ⟨n, rfl⟩ := Nat.exists_eq_add_one_of_ne_zero (Nat.ne_of_gt (Nat.zero_lt_of_lt hn))
      obtain ⟨hc, hcs⟩ := List.forall_mem_cons.mp hcs
      have hrest := ih hcs n (Nat.lt_of_succ_lt_succ hn)
      have hcomma : Reads (punct ",") (.punct ',' false :: cs.flatMap fun c =>
          [f c, .punct ',' false]) () (cs.flatMap fun c => [f c, .punct ',' false]) :=
        fun _ => ⟨_, rfl⟩
      exact .bind (.peek _) (.bind (hc _) (.bind (.peek _) (.bind hcomma (.bind hrest .pure))))
  have hlength : cs.length ≤ (cs.flatMap fun c => [f c, Tree.punct ',' false]).length := by
    clear hcs hfuel
    induction cs with
    | nil => exact Nat.le_refl _
    | cons c cs ih =>
      rw [List.flatMap_cons]
      simp only [List.length_append, List.length_cons, List.length_nil]
      omega
  exact .bind .ahead (hfuel _ (Nat.lt_succ_of_le hlength))

end ServiceStubs.Rust.Parser
