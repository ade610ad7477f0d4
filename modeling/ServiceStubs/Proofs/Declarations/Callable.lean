import Mathlib.Tactic.SplitIfs
import ServiceStubs.Declarations.OfRust
import ServiceStubs.Extraction

/-!
# What can be called

A function of an inherent implementation is an operation if it is visible everywhere and is no
constructor.  A constructor has no receiver and gives a value of its own type, be it in wrappers.
Functions that implement a trait are never operations.
-/

namespace ServiceStubs.Rust

/-! ## Types of implementations and of constructors -/

/-- The type is a path that ends in the name, perhaps in parentheses. -/
inductive Ty.EndsIn (name : String) : Ty → Prop where
  | path (qualified : Bool) : EndsIn name (.path qualified name)
  | applied (qualified : Bool) (argument : Ty) : EndsIn name (.applied qualified name argument)
  | paren {inner : Ty} (h : EndsIn name inner) : EndsIn name (.paren inner)

theorem Ty.lastName?_eq_some_iff {t : Ty} {name : String} :
    t.lastName? = some name ↔ t.EndsIn name := by
  constructor
  · intro h
    induction t with
    | path qualified last =>
      obtain rfl := Option.some.inj h
      exact .path qualified
    | applied qualified last argument =>
      obtain rfl := Option.some.inj h
      exact .applied qualified argument
    | paren inner ih => exact .paren (ih h)
    | reference target => cases h
    | unit => cases h
    | other tokens => cases h
  · intro h
    induction h with
    | path qualified => rfl
    | applied qualified argument => rfl
    | paren _ ih => exact ih

instance (name : String) (t : Ty) : Decidable (t.EndsIn name) :=
  decidable_of_iff _ Ty.lastName?_eq_some_iff

/-- The type is that of the name, by itself or as the first argument of a wrapper.  It is written
without a type that its path starts from, and may stand in parentheses. -/
inductive Ty.Makes (typeName : String) : Ty → Prop where
  | path {name : String} (h : name = "Self" ∨ name = typeName) : Makes typeName (.path false name)
  | applied {name : String} (h : name = "Self" ∨ name = typeName) (argument : Ty) :
      Makes typeName (.applied false name argument)
  | wrapped {name : String} (h : name ∈ ["Result", "Option", "Box", "Arc", "Rc"]) {argument : Ty}
      (ha : Makes typeName argument) : Makes typeName (.applied false name argument)
  | paren {inner : Ty} (h : Makes typeName inner) : Makes typeName (.paren inner)

theorem Ty.makes_eq_true_iff {t : Ty} {typeName : String} :
    t.makes typeName = true ↔ t.Makes typeName := by
  constructor
  · intro h
    induction t with
    | path qualified name =>
      cases qualified with
      | true => cases h
      | false =>
        simp only [makes, Bool.or_eq_true, beq_iff_eq] at h
        exact .path h
    | applied qualified name argument ih =>
      cases qualified with
      | true => cases h
      | false =>
        simp only [makes, Bool.or_eq_true, Bool.and_eq_true, beq_iff_eq] at h
        rcases h with hname | ⟨hwrapper, hargument⟩
        · exact .applied hname argument
        · exact .wrapped (List.contains_iff_mem.mp hwrapper) (ih hargument)
    | paren inner ih => exact .paren (ih h)
    | reference target => cases h
    | unit => cases h
    | other tokens => cases h
  · intro h
    induction h with
    | path hname => simpa [makes] using hname
    | applied hname argument =>
      simp only [makes, Bool.or_eq_true, beq_iff_eq]
      exact .inl hname
    | wrapped hwrapper _ ih =>
      simp only [makes, Bool.or_eq_true, Bool.and_eq_true]
      exact .inr ⟨List.contains_iff_mem.mpr hwrapper, ih⟩
    | paren _ ih => exact ih

/-! ## Functions that can be called -/

namespace Method

/-- A function without a receiver that makes a value of the type. -/
structure IsConstructor (typeName : String) (m : Method) : Prop where
  hasReceiver : m.hasReceiver = false
  output : ∃ t, m.output = some t ∧ t.Makes typeName

/-- The function is visible everywhere, and no constructor of the type. -/
structure IsCallable (typeName : String) (m : Method) : Prop where
  visibility : m.visibility = .everywhere
  notConstructor : ¬ m.IsConstructor typeName

variable {typeName : String} {m : Method}

theorem kind_eq_ordinary_iff : m.kind typeName = .ordinary ↔ ¬ m.IsConstructor typeName := by
  rw [kind]
  cases houtput : m.output with
  | none =>
    refine iff_of_true rfl ?_
    rintro ⟨-, t, ht, -⟩
    rw [houtput] at ht
    cases ht
  | some t =>
    have hiff : (!m.hasReceiver && t.makes typeName) = true ↔ m.IsConstructor typeName := by
      rw [Bool.and_eq_true, Bool.not_eq_true', Ty.makes_eq_true_iff]
      constructor
      · rintro ⟨hreceiver, ht⟩
        exact ⟨hreceiver, t, houtput, ht⟩
      · rintro ⟨hreceiver, u, hu, hmakes⟩
        obtain rfl := Option.some.inj (houtput.symm.trans hu)
        exact ⟨hreceiver, hmakes⟩
    rw [← hiff]
    dsimp only
    split_ifs with hmakes
    · simp [hmakes]
    · simp [hmakes]

theorem isOperation_toMember_none :
    Extraction.isOperation (m.toMember typeName none) = true ↔ m.IsCallable typeName := by
  simp only [Extraction.isOperation, toMember, Bool.and_eq_true, beq_iff_eq,
    kind_eq_ordinary_iff]
  constructor
  · rintro ⟨hkind, hvisibility⟩
    exact ⟨hvisibility, hkind⟩
  · rintro ⟨hvisibility, hkind⟩
    exact ⟨hkind, hvisibility⟩

instance : Decidable (m.IsCallable typeName) := decidable_of_iff _ isOperation_toMember_none

/-- What implements a trait is never an operation. -/
theorem isOperation_toMember_some (trait : String) :
    Extraction.isOperation (m.toMember typeName (some trait)) = false := by
  simp only [Extraction.isOperation, toMember]
  split_ifs
  · rfl
  · rfl

end Method

/-! ## Operations -/

/-- The operations that functions give rise to, in order. -/
def operationsOf (typeName : String) (methods : List Method) : List Operation :=
  (methods.filter (·.IsCallable typeName)).map fun m =>
    ⟨m.name, m.returnType, Extraction.placeholder m.name typeName⟩

/-- The operations among the members of a class. -/
def memberOperations (className : String) (members : List Member) : List Operation :=
  (members.filter Extraction.isOperation).map fun m =>
    ⟨m.name, m.returnType, Extraction.placeholder m.name className⟩

theorem memberOperations_append (className : String) (ms ns : List Member) :
    memberOperations className (ms ++ ns) =
      memberOperations className ms ++ memberOperations className ns := by
  rw [memberOperations, List.filter_append, List.map_append]
  rfl

theorem operationsOf_append (typeName : String) (ms ns : List Method) :
    operationsOf typeName (ms ++ ns) = operationsOf typeName ms ++ operationsOf typeName ns := by
  rw [operationsOf, List.filter_append, List.map_append]
  rfl

theorem memberOperations_inherent (typeName : String) (methods : List Method) :
    memberOperations typeName (methods.map (Method.toMember typeName none)) =
      operationsOf typeName methods := by
  have hfilter : Extraction.isOperation ∘ Method.toMember typeName none =
      fun m => decide (m.IsCallable typeName) := by
    funext m
    rw [Bool.eq_iff_iff, decide_eq_true_iff]
    exact Method.isOperation_toMember_none
  rw [memberOperations, List.filter_map, hfilter, List.map_map]
  rfl

theorem memberOperations_trait (typeName trait : String) (methods : List Method) :
    memberOperations typeName (methods.map (Method.toMember typeName (some trait))) = [] := by
  have hfilter : (methods.map (Method.toMember typeName (some trait))).filter
      Extraction.isOperation = [] := by
    rw [List.filter_eq_nil_iff]
    intro m hm
    obtain ⟨method, -, rfl⟩ := List.mem_map.mp hm
    rw [Method.isOperation_toMember_some]
    exact Bool.false_ne_true
  rw [memberOperations, hfilter, List.map_nil]

end ServiceStubs.Rust
