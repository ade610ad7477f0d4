import Mathlib.Data.List.Basic
import ServiceStubs.Proofs.Result
import ServiceStubs.Proofs.Service.Document
import ServiceStubs.Schema

/-!
# Models are schemas

The written model of services can be read as a schema.  It gives the services back as they were if
all their names show something; otherwise the first service that lacks such a name is reported, by
its position or by that of its operation.  So the lists that a schema can give are those that
survive being written and read.
-/

namespace ServiceStubs

/-! ## The first that lacks a property -/

/-- The item at this position is the first of the list without the property. -/
def FirstWithout {α : Type} (P : α → Prop) (as : List α) (i : Nat) (a : α) : Prop :=
  as[i]? = some a ∧ ¬ P a ∧ ∀ b ∈ as.take i, P b

namespace FirstWithout

variable {α : Type} {P : α → Prop} {a b : α} {as : List α} {i : Nat}

theorem not_nil : ¬ FirstWithout P [] i a := by
  rintro ⟨h, -⟩
  cases h

/-- The first item itself lacks the property. -/
theorem cons_of_not (h : ¬ P a) : FirstWithout P (a :: as) i b ↔ i = 0 ∧ b = a := by
  constructor
  · rintro ⟨hget, -, htake⟩
    cases i with
    | zero => exact ⟨rfl, (Option.some.inj hget).symm⟩
    | succ i => exact absurd (htake a List.mem_cons_self) h
  · rintro ⟨rfl, rfl⟩
    exact ⟨rfl, h, List.forall_mem_nil _⟩

theorem cons_of_holds (h : P a) :
    FirstWithout P (a :: as) i b ↔ ∃ j, i = j + 1 ∧ FirstWithout P as j b := by
  constructor
  · rintro ⟨hget, hb, htake⟩
    cases i with
    | zero =>
      obtain rfl := Option.some.inj hget
      exact absurd h hb
    | succ i => exact ⟨i, rfl, hget, hb, fun c hc => htake c (List.mem_cons_of_mem a hc)⟩
  · rintro ⟨j, rfl, hget, hb, htake⟩
    exact ⟨hget, hb, List.forall_mem_cons.mpr ⟨h, htake⟩⟩

end FirstWithout

/-! ## Names that show something -/

/-- Some character is left once blanks are trimmed off. -/
def Text.IsVisible (s : String) : Prop := ∃ c ∈ s.toList, Text.isBlank c = false

theorem Text.isBlankText_eq_false_iff {s : String} :
    Text.isBlankText s = false ↔ Text.IsVisible s := by
  simp [Text.isBlankText, Text.IsVisible]

theorem Text.isBlankText_iff {s : String} : Text.isBlankText s = true ↔ ¬ Text.IsVisible s := by
  rw [← Text.isBlankText_eq_false_iff, Bool.not_eq_false]

instance (s : String) : Decidable (Text.IsVisible s) :=
  decidable_of_iff _ Text.isBlankText_eq_false_iff

/-- The name of the operation shows something. -/
def Operation.IsNamed (o : Operation) : Prop := Text.IsVisible o.name

instance (o : Operation) : Decidable o.IsNamed :=
  inferInstanceAs (Decidable (Text.IsVisible o.name))

/-- The names of the service and of its operations show something. -/
structure Service.IsNamed (s : Service) : Prop where
  name : Text.IsVisible s.name
  operations : ∀ o ∈ s.operations, o.IsNamed

instance (s : Service) : Decidable s.IsNamed :=
  decidable_of_iff (Text.IsVisible s.name ∧ ∀ o ∈ s.operations, o.IsNamed)
    ⟨fun h => ⟨h.1, h.2⟩, fun h => ⟨h.name, h.operations⟩⟩

namespace Schema

/-- What is said of a service without such names at a position: its own name comes before those of
its operations. -/
inductive Offends (index : Nat) (s : Service) : String → Prop where
  | service (h : ¬ Text.IsVisible s.name) :
      Offends index s ("service at index " ++ toString index ++ " has an empty Name")
  | operation (h : Text.IsVisible s.name) {position : Nat} {o : Operation}
      (ho : FirstWithout Operation.IsNamed s.operations position o) :
      Offends index s ("operation at index " ++ toString position ++ " of service '" ++ s.name
        ++ "' has an empty Name")

theorem findIdx?_isBlankText (operations : List Operation) (position : Nat) :
    operations.findIdx? (Text.isBlankText ·.name) = some position ↔
      ∃ o, FirstWithout Operation.IsNamed operations position o := by
  induction operations generalizing position with
  | nil => simp [FirstWithout.not_nil]
  | cons o operations ih =>
    rw [List.findIdx?_cons]
    by_cases hname : o.IsNamed
    · rw [if_neg (by rwa [Text.isBlankText_iff, not_not])]
      simp only [Option.map_eq_some_iff, ih, FirstWithout.cons_of_holds hname]
      constructor
      · rintro ⟨j, ⟨p, hp⟩, rfl⟩
        exact ⟨p, j, rfl, hp⟩
      · rintro ⟨p, j, rfl, hp⟩
        exact ⟨j, ⟨p, hp⟩, rfl⟩
    · rw [if_pos (Text.isBlankText_iff.mpr hname)]
      simp only [Option.some.injEq, FirstWithout.cons_of_not hname]
      constructor
      · rintro rfl
        exact ⟨o, rfl, rfl⟩
      · rintro ⟨p, rfl, rfl⟩
        rfl

variable {index : Nat} {s : Service} {services : List Service} {path text reason : String}

theorem blankName?_eq_none_iff (index : Nat) : blankName? index s = none ↔ s.IsNamed := by
  rw [blankName?]
  constructor
  · intro h
    by_cases hname : Text.IsVisible s.name
    · rw [if_neg (by rwa [Text.isBlankText_iff, not_not])] at h
      cases hfind : s.operations.findIdx? (Text.isBlankText ·.name) with
      | some position =>
        rw [hfind] at h
        cases h
      | none =>
        refine ⟨hname, fun o ho => ?_⟩
        exact Text.isBlankText_eq_false_iff.mp (List.findIdx?_eq_none_iff.mp hfind o ho)
    · rw [if_pos (Text.isBlankText_iff.mpr hname)] at h
      cases h
  · intro h
    have hfind : s.operations.findIdx? (Text.isBlankText ·.name) = none :=
      List.findIdx?_eq_none_iff.mpr fun o ho =>
        Text.isBlankText_eq_false_iff.mpr (h.operations o ho)
    rw [if_neg (by rw [Text.isBlankText_iff, not_not]; exact h.name), hfind]

theorem blankName?_eq_some_iff : blankName? index s = some reason ↔ Offends index s reason := by
  rw [blankName?]
  constructor
  · intro h
    by_cases hname : Text.IsVisible s.name
    · rw [if_neg (by rwa [Text.isBlankText_iff, not_not])] at h
      cases hfind : s.operations.findIdx? (Text.isBlankText ·.name) with
      | some position =>
        rw [hfind] at h
        obtain rfl := Option.some.inj h
        obtain ⟨o, ho⟩ := (findIdx?_isBlankText s.operations position).mp hfind
        exact .operation hname ho
      | none =>
        rw [hfind] at h
        cases h
    · rw [if_pos (Text.isBlankText_iff.mpr hname)] at h
      obtain rfl := Option.some.inj h
      exact .service hname
  · intro h
    cases h with
    | service hname => rw [if_pos (Text.isBlankText_iff.mpr hname)]
    | @operation hname position o ho =>
      have hfind := (findIdx?_isBlankText s.operations position).mpr ⟨o, ho⟩
      rw [if_neg (by rwa [Text.isBlankText_iff, not_not]), hfind]

/-- A service that lacks a name is always told of, so the first is what the first notice is on. -/
theorem firstBlankName?_eq_some_iff (index : Nat) (services : List Service) :
    firstBlankName? index services = some reason ↔
      ∃ i s, FirstWithout Service.IsNamed services i s ∧ Offends (index + i) s reason := by
  induction services generalizing index with
  | nil => simp [firstBlankName?, FirstWithout.not_nil]
  | cons s services ih =>
    rw [firstBlankName?]
    cases hblank : blankName? index s with
    | some told =>
      have hnot : ¬ s.IsNamed := by
        rw [← blankName?_eq_none_iff index, hblank]
        exact Option.some_ne_none told
      simp only [FirstWithout.cons_of_not hnot]
      constructor
      · intro h
        exact ⟨0, s, ⟨rfl, rfl⟩, blankName?_eq_some_iff.mp (hblank.trans h)⟩
      · rintro ⟨i, t, ⟨rfl, rfl⟩, h⟩
        exact hblank.symm.trans (blankName?_eq_some_iff.mpr h)
    | none =>
      have hnamed : s.IsNamed := (blankName?_eq_none_iff index).mp hblank
      simp only [ih, FirstWithout.cons_of_holds hnamed]
      constructor
      · rintro ⟨i, t, ht, h⟩
        refine ⟨i + 1, t, ⟨i, rfl, ht⟩, ?_⟩
        rwa [Nat.add_assoc, Nat.add_comm 1 i] at h
      · rintro ⟨_, t, ⟨i, rfl, ht⟩, h⟩
        refine ⟨i, t, ht, ?_⟩
        rwa [Nat.add_assoc, Nat.add_comm 1 i]

theorem firstBlankName?_eq_none_iff (index : Nat) (services : List Service) :
    firstBlankName? index services = none ↔ ∀ s ∈ services, s.IsNamed := by
  induction services generalizing index with
  | nil => simp [firstBlankName?]
  | cons s services ih =>
    rw [firstBlankName?, List.forall_mem_cons, ← blankName?_eq_none_iff index]
    cases blankName? index s with
    | some told => simp
    | none => simp [ih]

/-! ## Reading models -/

theorem isYaml_eq_false (hyaml : ¬ ".yaml".toList <:+ path.toList)
    (hyml : ¬ ".yml".toList <:+ path.toList) : isYaml path = false := by
  have hsuffix : ∀ suffix : String, ¬ suffix.toList <:+ path.toList →
      suffix.toList.isSuffixOf path.toList = false := by
    intro suffix h
    rwa [← Bool.not_eq_true, List.isSuffixOf_iff_suffix]
  simp only [isYaml, hsuffix _ hyaml, hsuffix _ hyml, Bool.or_false]

theorem parse_of_read (h : read path text = .ok services) :
    parse path text = match firstBlankName? 0 services with
      | some reason => .error (.schemaMalformed path reason)
      | none => .ok services := by
  rw [parse, h]
  rfl

/-- A schema that is not accepted is malformed. -/
theorem exists_of_parse {fault : Fault} {wording : Wording}
    (h : parse path text wording = .error fault) :
    ∃ reason, fault = .schemaMalformed path reason := by
  rw [parse, bind_eq_error] at h
  rcases h with hread | ⟨services, -, hnames⟩
  · rw [read] at hread
    split at hread <;> split at hread
    · cases hread
    · exact ⟨_, (Except.error.inj hread).symm⟩
    · cases hread
    · exact ⟨_, (Except.error.inj hread).symm⟩
  · split at hnames
    · exact ⟨_, (Except.error.inj hnames).symm⟩
    · cases hnames

/-- A schema only gives services whose names show something. -/
theorem isNamed_of_parse (h : parse path text = .ok services) : ∀ s ∈ services, s.IsNamed := by
  cases hread : read path text with
  | error fault =>
    rw [parse, hread] at h
    cases h
  | ok found =>
    rw [parse_of_read hread] at h
    cases hblank : firstBlankName? 0 found with
    | some reason =>
      rw [hblank] at h
      cases h
    | none =>
      rw [hblank] at h
      obtain rfl := Except.ok.inj h
      exact (firstBlankName?_eq_none_iff 0 found).mp hblank

theorem read_modelText (hpath : isYaml path = false) (services : List Service) :
    read path (Service.modelText services) = .ok services := by
  rw [read, hpath, Service.readDocument_modelText]
  rfl

/-- Services with names that show something are given back. -/
theorem parse_modelText_of_isNamed (hpath : isYaml path = false)
    (h : ∀ s ∈ services, s.IsNamed) : parse path (Service.modelText services) = .ok services := by
  rw [parse_of_read (read_modelText hpath services), (firstBlankName?_eq_none_iff 0 services).mpr h]

/-- Services with a name that shows nothing are refused. -/
theorem parse_modelText_of_not_isNamed (hpath : isYaml path = false)
    (h : ¬ ∀ s ∈ services, s.IsNamed) :
    ∃ reason, parse path (Service.modelText services) = .error (.schemaMalformed path reason) := by
  rw [parse_of_read (read_modelText hpath services)]
  cases hblank : firstBlankName? 0 services with
  | none => exact absurd ((firstBlankName?_eq_none_iff 0 services).mp hblank) h
  | some reason => exact ⟨reason, rfl⟩

end Schema

/-- The model of services is read, from a path that is not one of YAML, as the services it was
written for, if all names show something.  If not, the first service without is at fault.  A list
that came from any schema has such names. -/
theorem parse_modelText {path : String} (hyaml : ¬ ".yaml".toList <:+ path.toList)
    (hyml : ¬ ".yml".toList <:+ path.toList) (services : List Service) :
    (∀ found, Schema.parse path (Service.modelText services) = .ok found ↔
      found = services ∧ ∀ s ∈ services, s.IsNamed) ∧
    (∀ fault, Schema.parse path (Service.modelText services) = .error fault ↔
      ∃ index s reason, FirstWithout Service.IsNamed services index s ∧
        Schema.Offends index s reason ∧ fault = .schemaMalformed path reason) ∧
    ∀ source text, Schema.parse source text = .ok services →
      Schema.parse path (Service.modelText services) = .ok services := by
  have hpath := Schema.isYaml_eq_false hyaml hyml
  have hparse := Schema.parse_of_read (Schema.read_modelText hpath services)
  refine ⟨?_, ?_, ?_⟩
  · intro found
    rw [hparse, ← Schema.firstBlankName?_eq_none_iff 0]
    cases Schema.firstBlankName? 0 services with
    | some reason => simp
    | none => simp [eq_comm]
  · intro fault
    rw [hparse]
    constructor
    · intro h
      cases hblank : Schema.firstBlankName? 0 services with
      | some reason =>
        rw [hblank] at h
        obtain ⟨i, s, hs, hreason⟩ := (Schema.firstBlankName?_eq_some_iff 0 services).mp hblank
        rw [Nat.zero_add] at hreason
        exact ⟨i, s, reason, hs, hreason, (Except.error.inj h).symm⟩
      | none =>
        rw [hblank] at h
        cases h
    · rintro ⟨i, s, reason, hs, hreason, rfl⟩
      have hblank : Schema.firstBlankName? 0 services = some reason :=
        (Schema.firstBlankName?_eq_some_iff 0 services).mpr ⟨i, s, hs, by rwa [Nat.zero_add]⟩
      rw [hblank]
  · intro source text h
    exact Schema.parse_modelText_of_isNamed hpath (Schema.isNamed_of_parse h)

/-- A second service whose name is fine, but not that of its second operation. -/
theorem parse_modelText_blank_operation :
    Schema.parse "model.json" (Service.modelText
      [⟨"Bill\"ing", "", "\x00\u2028\\", []⟩,
       ⟨"Led\tger", "a", "", [⟨"é", "", ""⟩, ⟨"\u3000", "", ""⟩]⟩]) =
      .error (.schemaMalformed "model.json"
        "operation at index 1 of service 'Led\tger' has an empty Name") := by
  let operations : List Operation := [⟨"é", "", ""⟩, ⟨"\u3000", "", ""⟩]
  have hoperation : FirstWithout Operation.IsNamed operations 1 ⟨"\u3000", "", ""⟩ :=
    ⟨rfl, by decide, by decide⟩
  exact ((parse_modelText (by decide) (by decide) _).2.1 _).mpr
    ⟨1, ⟨"Led\tger", "a", "", operations⟩, _, ⟨rfl, by decide, by decide⟩,
      .operation (by decide) hoperation, rfl⟩

end ServiceStubs
