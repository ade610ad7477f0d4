import Mathlib.Data.List.Nodup
import Mathlib.Data.List.Perm.Subperm
import ServiceStubs.Proofs.Naming
import ServiceStubs.Service.Controller

/-!
# Routes and handlers are told apart

Operations of one name share neither route nor handler.  A route is numbered by the operations of
its name before, and a number after a slash cannot belong to a name.  A handler is the first of its
candidates that is not taken, and there is one more candidate than there are names taken.
-/

namespace ServiceStubs

open ServiceStubs.Naming (IsPlain isIdentifierPart)
open ServiceStubs.Rust (isWord isName)

/-! ## Numbers -/

theorem toString_injective {m n : Nat} (h : toString m = toString n) : m = n := by
  have hdigits : Nat.toDigits 10 m = Nat.toDigits 10 n := by
    simpa only [Nat.toString_eq_repr, Nat.toList_repr] using congrArg String.toList h
  have hvalues := congrArg (fun digits => Nat.ofDigitChars 10 digits 0) hdigits
  simpa using hvalues

theorem isDigit_of_mem_toString {n : Nat} {c : Char} (hc : c ∈ (toString n).toList) :
    c.isDigit = true := by
  rw [Nat.toString_eq_repr, Nat.toList_repr] at hc
  exact Nat.isDigit_of_mem_toDigits (by decide) (by decide) hc

theorem isPlain_toString (n : Nat) : IsPlain (toString n).toList := by
  intro c hc
  simp [isIdentifierPart, Char.isAlphanum, isDigit_of_mem_toString hc]

namespace ControllerView

/-! ## Handlers -/

/-- The handler names that are tried for a base, by number from one on. -/
def candidate (base : String) (n : Nat) : String :=
  if n ≤ 1 then base else base ++ "_" ++ toString n

theorem candidate_of_lt (base : String) {n : Nat} (hn : 1 < n) :
    (candidate base n).toList = base.toList ++ '_' :: (toString n).toList := by
  rw [candidate, if_neg (Nat.not_le.mpr hn), String.toList_append, String.toList_append,
    List.append_assoc]
  rfl

theorem candidate_injective {base : String} {m n : Nat} (hm : 0 < m) (hn : 0 < n)
    (h : candidate base m = candidate base n) : m = n := by
  have hbase : ∀ {k : Nat}, 1 < k → candidate base k ≠ base := by
    intro k hk heq
    have hlist := congrArg (fun s : String => s.toList.length) heq
    simp only [candidate_of_lt base hk, List.length_append, List.length_cons] at hlist
    omega
  rcases Nat.lt_or_ge 1 m with hm1 | hm1 <;> rcases Nat.lt_or_ge 1 n with hn1 | hn1
  · have hlist := congrArg String.toList h
    rw [candidate_of_lt base hm1, candidate_of_lt base hn1] at hlist
    have hdigits := (List.cons.inj (List.append_cancel_left hlist)).2
    exact toString_injective (String.toList_inj.mp hdigits)
  · rw [candidate, candidate, if_pos hn1, ← candidate] at h
    exact absurd h (hbase hm1)
  · rw [candidate, if_pos hm1] at h
    exact absurd h.symm (hbase hn1)
  · omega

/-- Some candidate is free: they differ, and there are more of them than names taken. -/
theorem exists_candidate_not_mem (base : String) (used : List String) :
    ∃ n, 0 < n ∧ n ≤ used.length + 1 ∧ candidate base n ∉ used := by
  by_contra hnone
  push Not at hnone
  let tried := (List.range' 1 (used.length + 1)).map (candidate base)
  have hnodup : tried.Nodup := by
    have hrange : (List.range' 1 (used.length + 1)).Nodup := List.nodup_range'
    apply hrange.map_on
    intro i hi j hj hij
    simp only [List.mem_range'_1] at hi hj
    exact candidate_injective hi.1 hj.1 hij
  have hsubset : tried ⊆ used := by
    intro name hname
    obtain ⟨m, hm, rfl⟩ := List.mem_map.mp hname
    simp only [List.mem_range'_1] at hm
    exact hnone m hm.1 (by omega)
  have hlength := (List.subperm_of_subset hnodup hsubset).length_le
  simp only [tried, List.length_map, List.length_range'] at hlength
  omega

/-- The search for a name that is not used, from a candidate on, with the number of its attempts.
It is given no bound: it takes the candidate if that is free, and goes on with the next if not. -/
inductive Search (base : String) (used : List String) : Nat → Nat → String → Prop where
  | free {n : Nat} (h : candidate base n ∉ used) : Search base used n 1 (candidate base n)
  | taken {n attempts : Nat} {name : String} (h : candidate base n ∈ used)
      (hrest : Search base used (n + 1) attempts name) : Search base used n (attempts + 1) name

/-- The first of the candidates for a base that is not used. -/
def FirstFree (base : String) (used : List String) (name : String) : Prop :=
  ∃ n, 0 < n ∧ name = candidate base n ∧ name ∉ used ∧
    ∀ m, 0 < m → m < n → candidate base m ∈ used

/-- Every attempt before the last meets a name that is used. -/
theorem Search.exists_candidate {base : String} {used : List String} {n attempts : Nat}
    {name : String} (h : Search base used n attempts name) :
    ∃ k, n ≤ k ∧ name = candidate base k ∧ name ∉ used ∧
      ∀ m, n ≤ m → m < k → candidate base m ∈ used := by
  induction h with
  | @free n h => exact ⟨n, Nat.le_refl n, rfl, h, fun m hle hlt => absurd hle (Nat.not_le.mpr hlt)⟩
  | @taken n _ _ h _ ih =>
    obtain ⟨k, hk, hname, hfree, hbefore⟩ := ih
    refine ⟨k, Nat.le_of_succ_le hk, hname, hfree, fun m hle hlt => ?_⟩
    rcases Nat.eq_or_lt_of_le hle with rfl | hle
    · exact h
    · exact hbefore m hle hlt

theorem Search.firstFree {base name : String} {used : List String} {attempts : Nat}
    (h : Search base used 1 attempts name) : FirstFree base used name :=
  h.exists_candidate

/-- As long as there is a free candidate within the bound, the bound is never met. -/
theorem search_freeFrom {base : String} {used : List String} {fuel n k : Nat} (hn : 0 < n)
    (hk : n ≤ k) (hfuel : k < n + fuel) (hfree : candidate base k ∉ used) :
    ∃ attempts ≤ fuel, Search base used n attempts (freeFrom base used fuel n) := by
  induction fuel generalizing n with
  | zero => omega
  | succ fuel ih =>
    have hcandidate : (if n ≤ 1 then base else base ++ "_" ++ toString n) = candidate base n := rfl
    rw [freeFrom]
    simp only [hcandidate]
    split_ifs with hused
    · have hused : candidate base n ∈ used := by simpa using hused
      have hne : n ≠ k := by
        rintro rfl
        exact hfree hused
      obtain ⟨attempts, hle, hrest⟩ := ih (Nat.succ_pos n) (by omega) (by omega)
      exact ⟨attempts + 1, Nat.succ_le_succ hle, .taken hused hrest⟩
    · have hused : candidate base n ∉ used := by simpa using hused
      exact ⟨1, Nat.succ_le_succ (Nat.zero_le fuel), .free hused⟩

/-- The search for a handler ends, with at most one more attempt than there are names taken. -/
theorem search_freeHandler (operation : String) (used : List String) :
    ∃ attempts ≤ used.length + 1,
      Search (Naming.handlerName operation) used 1 attempts (freeHandler operation used) := by
  obtain ⟨k, hpos, hk, hfree⟩ :=
    exists_candidate_not_mem (Naming.handlerName operation) used
  exact search_freeFrom Nat.one_pos hpos (by omega) hfree

theorem firstFree_freeHandler (operation : String) (used : List String) :
    FirstFree (Naming.handlerName operation) used (freeHandler operation used) := by
  obtain ⟨attempts, -, hsearch⟩ := search_freeHandler operation used
  exact hsearch.firstFree

/-- The handler of an operation is a fit word, with or without a number. -/
theorem isWord_freeHandler {operation : String} (h : IsPlain operation.toList)
    (used : List String) :
    isWord (freeHandler operation used).toList = true ∧
      freeHandler operation used ∉ Naming.unfit := by
  obtain ⟨n, -, hfound, -⟩ := firstFree_freeHandler operation used
  have hword := Naming.isWord_handlerName h
  rw [hfound]
  rcases Nat.lt_or_ge 1 n with hn | hn
  · have hlist := candidate_of_lt (Naming.handlerName operation) hn
    have hunderscore : isIdentifierPart '_' = true := by decide
    have hplain := isPlain_toString n
    constructor
    · rw [hlist]
      exact Naming.isWord_append hword (Naming.isPlain_cons.mpr ⟨hunderscore, hplain⟩)
    · have hne : (toString n).toList ≠ [] := by
        rw [Nat.toString_eq_repr, Nat.toList_repr]
        exact Nat.toDigits_ne_nil
      have hlast := List.getLast?_append_of_ne_nil
        ((Naming.handlerName operation).toList ++ ['_']) hne
      rw [List.append_assoc, List.getLast?_eq_getLast_of_ne_nil hne] at hlast
      exact Naming.not_mem_unfit_of_digit (hlist ▸ hlast)
        (isDigit_of_mem_toString (List.getLast_mem hne))
  · rw [candidate, if_pos hn]
    exact ⟨hword, Naming.handlerName_not_mem_unfit operation⟩

/-! ## Routed operations -/

end ControllerView

/-- An operation with what its view depends on. -/
structure Routed where
  operation : Operation
  occurrence : Nat
  handler : String

namespace Routed

open ServiceStubs.ControllerView (freeHandler routeOf viewOf viewsFrom)

/-- The view of a routed operation. -/
def view (service : String) (r : Routed) : OperationView :=
  viewOf service r.operation r.occurrence r.handler

/-- Operations with their occurrences and handlers, given the names of the operations before and
the handler names already used. -/
def listFrom (earlier used : List String) : List Operation → List Routed
  | [] => []
  | o :: rest =>
    ⟨o, earlier.count o.name + 1, freeHandler o.name used⟩ ::
      listFrom (o.name :: earlier) (freeHandler o.name used :: used) rest

variable (service : String) (earlier used : List String) (operations : List Operation)

theorem viewsFrom_eq : viewsFrom service earlier used operations =
    (listFrom earlier used operations).map (view service) := by
  induction operations generalizing earlier used with
  | nil => rfl
  | cons o rest ih => simp only [viewsFrom, listFrom, List.map_cons, ih, view]

theorem map_operation_listFrom :
    (listFrom earlier used operations).map Routed.operation = operations := by
  induction operations generalizing earlier used with
  | nil => rfl
  | cons o rest ih => simp only [listFrom, List.map_cons, ih]

variable {earlier used operations} in
/-- A handler is found for the name of its operation. -/
theorem exists_handler_eq {r : Routed} (hr : r ∈ listFrom earlier used operations) :
    ∃ taken, r.handler = freeHandler r.operation.name taken := by
  induction operations generalizing earlier used with
  | nil => cases hr
  | cons o rest ih =>
    rcases List.mem_cons.mp hr with rfl | hr
    · exact ⟨used, rfl⟩
    · exact ih hr

/-- The handlers are new and differ from one another. -/
theorem nodup_handler_listFrom :
    ((listFrom earlier used operations).map Routed.handler).Nodup ∧
      ∀ r ∈ listFrom earlier used operations, r.handler ∉ used := by
  induction operations generalizing earlier used with
  | nil => simp [listFrom]
  | cons o rest ih =>
    obtain ⟨hnodup, hnew⟩ := ih (o.name :: earlier) (freeHandler o.name used :: used)
    obtain ⟨-, -, -, hfree, -⟩ := ControllerView.firstFree_freeHandler o.name used
    simp only [listFrom, List.map_cons, List.nodup_cons, List.forall_mem_cons]
    refine ⟨⟨?_, hnodup⟩, hfree, ?_⟩
    · intro hmem
      obtain ⟨r, hr, heq⟩ := List.mem_map.mp hmem
      exact hnew r hr (heq ▸ List.mem_cons_self)
    · intro r hr hused
      exact hnew r hr (List.mem_cons_of_mem _ hused)

variable {earlier used operations} in
/-- An operation comes after all operations of its name before it. -/
theorem count_lt_occurrence {r : Routed} (hr : r ∈ listFrom earlier used operations) :
    earlier.count r.operation.name < r.occurrence := by
  induction operations generalizing earlier used with
  | nil => cases hr
  | cons o rest ih =>
    rcases List.mem_cons.mp hr with rfl | hr
    · exact Nat.lt_succ_self _
    · have hcount := ih hr
      rw [List.count_cons] at hcount
      omega

/-- No two operations share both name and occurrence. -/
theorem nodup_occurrence_listFrom :
    ((listFrom earlier used operations).map fun r => (r.operation.name, r.occurrence)).Nodup := by
  induction operations generalizing earlier used with
  | nil => exact List.nodup_nil
  | cons o rest ih =>
    rw [listFrom, List.map_cons, List.nodup_cons]
    refine ⟨?_, ih _ _⟩
    intro hmem
    obtain ⟨r, hr, heq⟩ := List.mem_map.mp hmem
    obtain ⟨(hname : r.operation.name = o.name),
      (hoccurrence : r.occurrence = earlier.count o.name + 1)⟩ := Prod.mk.inj heq
    have hcount := count_lt_occurrence hr
    rw [hname, List.count_cons_self] at hcount
    omega

/-! ## Routes -/

/-- What stands after the name in the route of the `n`-th operation of that name. -/
def number (n : Nat) : List Char :=
  if 1 < n then '/' :: (toString n).toList else []

theorem toList_routeOf (service name : String) (n : Nat) :
    (routeOf service name n).toList =
      ("/api/" ++ service ++ "/").toList ++ (name.toList ++ number n) := by
  unfold routeOf routePath number
  dsimp only
  split_ifs
  · simp only [String.toList_append, List.append_assoc]
    rfl
  · simp only [String.toList_append, List.append_assoc, List.append_nil]

/-- A name ends before the first slash. -/
theorem takeWhile_name {name : List Char} (hname : IsPlain name) (n : Nat) :
    (name ++ number n).takeWhile (· != '/') = name := by
  have hslash : ∀ c ∈ name, (c != '/') = true := by
    intro c hc
    apply bne_iff_ne.mpr
    rintro rfl
    exact absurd (hname '/' hc) (by decide)
  rw [List.takeWhile_append_of_pos hslash, number]
  split_ifs <;> simp

theorem number_injective {m n : Nat} (hm : 0 < m) (hn : 0 < n) (h : number m = number n) :
    m = n := by
  unfold number at h
  split_ifs at h
  · exact toString_injective (String.toList_inj.mp (List.cons.inj h).2)
  · omega

theorem routeOf_injective {service name name' : String} {n n' : Nat} (hname : IsPlain name.toList)
    (hname' : IsPlain name'.toList) (hn : 0 < n) (hn' : 0 < n')
    (h : routeOf service name n = routeOf service name' n') : name = name' ∧ n = n' := by
  have hlist := congrArg String.toList h
  rw [toList_routeOf, toList_routeOf] at hlist
  have hrest := List.append_cancel_left hlist
  have htake := congrArg (List.takeWhile (· != '/')) hrest
  rw [takeWhile_name hname, takeWhile_name hname'] at htake
  rw [htake] at hrest
  exact ⟨String.toList_inj.mp htake, number_injective hn hn' (List.append_cancel_left hrest)⟩

/-- No two operations share a route. -/
theorem nodup_route_listFrom (hplain : ∀ o ∈ operations, IsPlain o.name.toList) :
    ((listFrom earlier used operations).map fun r => (r.view service).route).Nodup := by
  have hkeys := nodup_occurrence_listFrom earlier used operations
  have hmem : ∀ r ∈ listFrom earlier used operations,
      IsPlain r.operation.name.toList ∧ 0 < r.occurrence := by
    intro r hr
    refine ⟨hplain r.operation ?_, Nat.zero_lt_of_lt (count_lt_occurrence hr)⟩
    rw [← map_operation_listFrom earlier used operations]
    exact List.mem_map_of_mem hr
  refine (List.Nodup.of_map _ hkeys).map_on ?_
  intro r hr r' hr' heq
  obtain ⟨hname, hpos⟩ := hmem r hr
  obtain ⟨hname', hpos'⟩ := hmem r' hr'
  obtain ⟨hnames, hoccurrences⟩ := routeOf_injective hname hname' hpos hpos' heq
  exact List.inj_on_of_nodup_map hkeys hr hr' (Prod.ext hnames hoccurrences)

end Routed

namespace Service

/-! ## Services with fit names -/

/-- The operations of a service as its controller routes them. -/
def routed (s : Service) : List Routed :=
  Routed.listFrom [] reservedHandlers s.operations

variable {s : Service}

theorem isIdentifier_of_checkIdentifiers (h : s.checkIdentifiers = .ok ()) :
    Naming.isIdentifier s.name = true ∧
      ∀ o ∈ s.operations, Naming.isIdentifier o.name = true := by
  unfold checkIdentifiers at h
  split_ifs at h with hname
  split at h
  · cases h
  · next hfind =>
    refine ⟨by simpa using hname, ?_⟩
    simpa using List.find?_eq_none.mp hfind

theorem map_operation_routed (s : Service) : s.routed.map Routed.operation = s.operations :=
  Routed.map_operation_listFrom [] reservedHandlers s.operations

theorem isPlain_of_checkIdentifiers (h : s.checkIdentifiers = .ok ()) :
    ∀ o ∈ s.operations, IsPlain o.name.toList := by
  intro o ho
  have hname := (isIdentifier_of_checkIdentifiers h).2 o ho
  exact Naming.isPlain_of_isWord (Naming.isWord_of_isIdentifier hname)

/-- A controller has the name of its service and a suffix, longer than any reserved word. -/
theorem isName_controllerName (h : s.checkIdentifiers = .ok ()) :
    isWord (s.name ++ "Controller").toList = true ∧ isName (s.name ++ "Controller") = true := by
  have hword := Naming.isWord_of_isIdentifier (isIdentifier_of_checkIdentifiers h).1
  have hsuffix : IsPlain "Controller".toList := by decide
  refine ⟨?_, Naming.isName_of_not_mem_unfit
    (Naming.not_mem_unfit_of_forall (p := fun v => 10 ≤ v.length) (by decide) ?_)⟩
  · rw [String.toList_append]
    exact Naming.isWord_append hword hsuffix
  · have hlength : "Controller".length = 10 := by decide
    simp [String.length_append, hlength]

/-- Every handler is a fit word. -/
theorem isWord_handler (h : s.checkIdentifiers = .ok ()) {r : Routed} (hr : r ∈ s.routed) :
    isWord r.handler.toList = true ∧ r.handler ∉ Naming.unfit := by
  obtain ⟨taken, hhandler⟩ := Routed.exists_handler_eq hr
  have hmem : r.operation ∈ s.operations := by
    rw [← map_operation_routed s]
    exact List.mem_map_of_mem hr
  rw [hhandler]
  exact ControllerView.isWord_freeHandler (isPlain_of_checkIdentifiers h _ hmem) taken

/-- Every handler is a word and a name. -/
theorem isName_handler (h : s.checkIdentifiers = .ok ()) {r : Routed} (hr : r ∈ s.routed) :
    isWord r.handler.toList = true ∧ isName r.handler = true :=
  (isWord_handler h hr).imp_right Naming.isName_of_not_mem_unfit

/-- The handlers differ from one another and from the dispatcher. -/
theorem nodup_handler (s : Service) :
    (s.routed.map Routed.handler).Nodup ∧ ∀ r ∈ s.routed, r.handler ≠ "dispatch" := by
  obtain ⟨hnodup, hnew⟩ := Routed.nodup_handler_listFrom [] reservedHandlers s.operations
  exact ⟨hnodup, fun r hr heq => hnew r hr (heq ▸ List.mem_cons_self)⟩

theorem nodup_route (h : s.checkIdentifiers = .ok ()) :
    (s.routed.map fun r => (r.view s.name).route).Nodup :=
  Routed.nodup_route_listFrom s.name [] reservedHandlers s.operations
    (isPlain_of_checkIdentifiers h)

end Service

end ServiceStubs
