import ServiceStubs.Proofs.Json.Compact
import ServiceStubs.Proofs.Json.Members
import ServiceStubs.Proofs.Json.Values
import ServiceStubs.Proofs.Schema

/-!
# How services may be written

A service may be written as an object in many ways: its keys come in any order, keys that it does
not know may stand among them, and what is empty may be left out or null.  All of them are read as
the same service.  What may not be done is to leave a name out or to give a known key twice.
-/

namespace ServiceStubs

open ServiceStubs.Json (Shape Slot Sets Gives OrEmpty ListOf IsString IsObject IsList IsDocument
  Recognizes Value textsOf recognizes_string recognizes_stringOrEmpty recognizes_listOrEmpty)

variable {members : List (String × List Char)} {word : List Char}

/-! ## Operations -/

namespace Operation

variable {o : Operation}

/-- The fields of an operation. -/
def slots : List (Slot Operation) :=
  [⟨String, "Name", name, fun v o => { o with name := v }, _, _, recognizes_string, none⟩,
   ⟨String, "Type", returnType, fun v o => { o with returnType := v }, _, _,
     recognizes_stringOrEmpty, some ""⟩,
   ⟨String, "ReturnValue", placeholder, fun v o => { o with placeholder := v }, _, _,
     recognizes_stringOrEmpty, some ""⟩]

theorem isLaidOut : shape.IsLaidOut slots where
  fields := rfl
  nodup := by decide
  get_put := by simp [slots]
  get_put_of_ne := by simp [slots]
  blank := by simp [slots, shape]
  ext := by
    rintro ⟨name, returnType, placeholder⟩ ⟨name', returnType', placeholder'⟩ h
    simpa [slots] using h

/-- The members of an object give the operation. -/
structure IsGivenBy (o : Operation) (members : List (String × List Char)) : Prop where
  name : Gives IsString none (textsOf "Name" members) o.name
  returnType : Gives (OrEmpty IsString) (some "") (textsOf "Type" members) o.returnType
  placeholder : Gives (OrEmpty IsString) (some "") (textsOf "ReturnValue" members) o.placeholder

/-- The text is an object that gives the operation. -/
inductive IsWritten : List Char → Operation → Prop where
  | intro {word : List Char} {o : Operation} {members : List (String × List Char)}
      (h : IsObject members word) (hgiven : o.IsGivenBy members) : IsWritten word o

/-- What is read as an operation. -/
abbrev Reads : List Char → Operation → Prop := shape.Reads (Sets slots)

theorem recognizes : Recognizes shape.read Reads := isLaidOut.recognizes

theorem forall_isGiven (h : o.IsGivenBy members) : ∀ slot ∈ slots, slot.IsGiven members o := by
  simp only [slots, List.forall_mem_cons]
  exact ⟨h.name, h.returnType, h.placeholder, List.forall_mem_nil _⟩

theorem reads_of_isWritten (h : IsWritten word o) : Reads word o := by
  obtain ⟨hobject, hgiven⟩ := h
  exact (isLaidOut.reads_object_iff hobject).mpr (forall_isGiven hgiven)

end Operation

/-! ## Services -/

namespace Service

variable {s : Service}

/-- The fields of a service. -/
def slots : List (Slot Service) :=
  [⟨String, "Name", name, fun v s => { s with name := v }, _, _, recognizes_string, none⟩,
   ⟨String, "Namespace", sourceNamespace, fun v s => { s with sourceNamespace := v }, _, _,
     recognizes_stringOrEmpty, some ""⟩,
   ⟨String, "TargetNamespace", targetNamespace, fun v s => { s with targetNamespace := v }, _, _,
     recognizes_stringOrEmpty, some ""⟩,
   ⟨List Operation, "Operations", operations, fun v s => { s with operations := v }, _, _,
     recognizes_listOrEmpty Operation.recognizes, some []⟩]

theorem isLaidOut : shape.IsLaidOut slots where
  fields := rfl
  nodup := by decide
  get_put := by simp [slots]
  get_put_of_ne := by simp [slots]
  blank := by simp [slots, shape]
  ext := by
    rintro ⟨name, source, target, operations⟩ ⟨name', source', target', operations'⟩ h
    simpa [slots] using h

/-- The members of an object give the service. -/
structure IsGivenBy (s : Service) (members : List (String × List Char)) : Prop where
  name : Gives IsString none (textsOf "Name" members) s.name
  sourceNamespace : Gives (OrEmpty IsString) (some "") (textsOf "Namespace" members)
    s.sourceNamespace
  targetNamespace : Gives (OrEmpty IsString) (some "") (textsOf "TargetNamespace" members)
    s.targetNamespace
  operations : Gives (OrEmpty (ListOf Operation.IsWritten)) (some [])
    (textsOf "Operations" members) s.operations

/-- The text is an object that gives the service. -/
inductive IsWritten : List Char → Service → Prop where
  | intro {word : List Char} {s : Service} {members : List (String × List Char)}
      (h : IsObject members word) (hgiven : s.IsGivenBy members) : IsWritten word s

/-- What is read as a service. -/
abbrev Reads : List Char → Service → Prop := shape.Reads (Sets slots)

theorem recognizes : Recognizes shape.read Reads := isLaidOut.recognizes

theorem forall_isGiven (h : s.IsGivenBy members) : ∀ slot ∈ slots, slot.IsGiven members s := by
  have hoperations := h.operations.mono fun _ _ hlist =>
    hlist.mono fun _ _ hlist => hlist.mono fun _ _ => Operation.reads_of_isWritten
  simp only [slots, List.forall_mem_cons]
  exact ⟨h.name, h.sourceNamespace, h.targetNamespace, hoperations, List.forall_mem_nil _⟩

theorem reads_of_isWritten (h : IsWritten word s) : Reads word s := by
  obtain ⟨hobject, hgiven⟩ := h
  exact (isLaidOut.reads_object_iff hobject).mpr (forall_isGiven hgiven)

end Service

/-! ## What may not be done -/

/-- The members of an object lack a name, have null for it, or give a known key twice. -/
inductive Spoils {σ : Type} (shape : Shape σ) (members : List (String × List Char)) : Prop where
  | unnamed (h : "Name" ∉ members.map Prod.fst)
  | null (h : ("Name", ['n', 'u', 'l', 'l']) ∈ members)
  | repeated {key : String} (hkey : key ∈ shape.fields.map Json.Field.key)
      (h : 2 ≤ (members.map Prod.fst).count key)

/-- An object that is spoilt for an operation. -/
def Operation.IsSpoilt (word : List Char) : Prop :=
  ∃ members, IsObject members word ∧ Spoils Operation.shape members

/-- An object that is spoilt for a service, or holds an operation that is. -/
inductive Service.IsSpoilt (word : List Char) : Prop where
  | service {members : List (String × List Char)} (h : IsObject members word)
      (hspoils : Spoils Service.shape members)
  | operation {members : List (String × List Char)} {operations operation : List Char}
      {values : List (List Char)} (h : IsObject members word)
      (hoperations : ("Operations", operations) ∈ members) (hlist : IsList values operations)
      (hmem : operation ∈ values) (hspoilt : Operation.IsSpoilt operation)

section

variable {σ : Type} {shape : Shape σ} {slots : List (Slot σ)} {record : σ}

/-- Members that spoil a record with a name do not give its slots. -/
theorem Spoils.not_isGiven (hspoils : Spoils shape members) (h : shape.IsLaidOut slots)
    {get : σ → String} {put : String → σ → σ}
    (hname : ⟨String, "Name", get, put, _, _, recognizes_string, none⟩ ∈ slots) :
    ¬ ∀ slot ∈ slots, slot.IsGiven members record := by
  intro hgiven
  have hgives : Gives IsString none (textsOf "Name" members) (get record) := hgiven _ hname
  cases hspoils with
  | unnamed hunnamed =>
    rw [Json.textsOf_eq_nil.mpr hunnamed] at hgives
    obtain ⟨habsent⟩ := hgives
    cases habsent
  | null hnull =>
    obtain ⟨body, -, heq⟩ := hgives.of_mem (Json.mem_textsOf.mpr hnull)
    cases heq
  | @repeated key hkey htwo =>
    obtain ⟨slot, hslot, rfl⟩ := h.mem_keys.mp hkey
    have hone := Gives.length_le_one (hgiven slot hslot)
    rw [Json.length_textsOf] at hone
    omega

end

theorem Operation.not_reads_of_isSpoilt {o : Operation} (h : IsSpoilt word) : ¬ Reads word o := by
  obtain ⟨members, hobject, hspoils⟩ := h
  rw [Reads, isLaidOut.reads_object_iff hobject]
  exact hspoils.not_isGiven isLaidOut List.mem_cons_self

theorem Service.not_reads_of_isSpoilt {s : Service} (h : IsSpoilt word) : ¬ Reads word s := by
  cases h with
  | service hobject hspoils =>
    rw [Reads, isLaidOut.reads_object_iff hobject]
    exact hspoils.not_isGiven isLaidOut List.mem_cons_self
  | operation hobject hoperations hlist hmem hspoilt =>
    rw [Reads, isLaidOut.reads_object_iff hobject]
    intro hgiven
    simp only [slots, List.forall_mem_cons] at hgiven
    obtain ⟨-, -, -, hgives, -⟩ := hgiven
    have hvalue : OrEmpty (ListOf Operation.Reads) _ s.operations :=
      Gives.of_mem hgives (Json.mem_textsOf.mpr hoperations)
    generalize s.operations = found at hvalue
    cases hvalue with
    | null => exact hlist.ne_null rfl
    | value hvalue =>
      obtain ⟨o, ho⟩ := hvalue.exists_of_mem hlist hmem
      exact Operation.not_reads_of_isSpoilt hspoilt ho

/-! ## Schemas -/

namespace Schema

variable {path text : String} {services : List Service} {values : List (List Char)}

theorem recognizes : Recognizes (Json.readList Service.shape.read) (ListOf Service.Reads) :=
  Json.recognizes_list Service.recognizes

theorem read_eq_ok (hpath : isYaml path = false) :
    read path text = .ok services ↔ IsDocument (ListOf Service.Reads · services) text := by
  rw [← recognizes.readDocument_eq_ok, read, hpath, if_neg Bool.false_ne_true]
  cases Json.readDocument (Json.readList Service.shape.read) text with
  | ok found => simp only [Except.ok.injEq]
  | error e => simp only [reduceCtorEq]

theorem read_of_isWritten (hpath : isYaml path = false)
    (h : IsDocument (ListOf Service.IsWritten · services) text) :
    read path text = .ok services :=
  (read_eq_ok hpath).mpr (h.mono fun _ hlist => hlist.mono fun _ _ => Service.reads_of_isWritten)

theorem read_ne_ok_of_isSpoilt (hpath : isYaml path = false) (h : IsDocument (IsList values) text)
    (hspoilt : ∃ value ∈ values, Service.IsSpoilt value) : read path text ≠ .ok services := by
  rw [Ne, read_eq_ok hpath]
  intro hreads
  obtain ⟨value, hmem, hvalue⟩ := hspoilt
  obtain ⟨word, hlist, hword⟩ := h.exists_both hreads (fun _ => IsList.isValue)
    fun _ => recognizes.isValue
  obtain ⟨s, hs⟩ := hword.exists_of_mem hlist hmem
  exact Service.not_reads_of_isSpoilt hvalue hs

end Schema

/-- From a path that is not one of YAML, services whose names show something are given back however
they are written as a list of objects; but a list in which an object is spoilt for a service or for
one of its operations is malformed, whatever else it holds. -/
theorem parse_tolerates {path : String} (hyaml : ¬ ".yaml".toList <:+ path.toList)
    (hyml : ¬ ".yml".toList <:+ path.toList) :
    (∀ services text, (∀ s ∈ services, s.IsNamed) →
      IsDocument (ListOf Service.IsWritten · services) text →
        Schema.parse path text = .ok services) ∧
    ∀ values text, IsDocument (IsList values) text →
      (∃ value ∈ values, Service.IsSpoilt value) →
        ∃ reason, Schema.parse path text = .error (.schemaMalformed path reason) := by
  have hpath := Schema.isYaml_eq_false hyaml hyml
  constructor
  · intro services text hnamed hwritten
    rw [Schema.parse_of_read (Schema.read_of_isWritten hpath hwritten),
      (Schema.firstBlankName?_eq_none_iff 0 services).mpr hnamed]
  · intro values text hlist hspoilt
    cases hparse : Schema.parse path text with
    | error fault =>
      obtain ⟨reason, rfl⟩ := Schema.exists_of_parse hparse
      exact ⟨reason, rfl⟩
    | ok services =>
      obtain ⟨found, hread, -⟩ := bind_eq_ok.mp hparse
      exact absurd hread (Schema.read_ne_ok_of_isSpoilt hpath hlist hspoilt)

/-- Keys out of order, a key that is not known, a null and keys that are left out do no harm.  Null
for the name of an operation does, wherever it stands. -/
theorem parse_tolerates_mixed :
    let ping : Value := .object
      [("ReturnValue", .null), ("x", .list [.null, .string "]"]), ("Name", .string "ping")]
    let orders : Value := .object
      [("Operations", .list [ping]), ("Name", .string "Orders"), ("Namespace", .string "")]
    let unnamed : Value := .object
      [("Name", .string "B"), ("Operations", .list [ping, .object [("Name", .null)]])]
    Schema.parse "model.json" ("\n" ++ (Value.list [orders]).compactText ++ " ") =
        .ok [⟨"Orders", "", "", [⟨"ping", "", ""⟩]⟩] ∧
      ∃ reason, Schema.parse "model.json" (Value.list [orders, unnamed]).compactText =
        .error (.schemaMalformed "model.json" reason) := by
  intro ping orders unnamed
  obtain ⟨haccepts, hrefuses⟩ := @parse_tolerates "model.json" (by decide) (by decide)
  constructor
  · have hping : Operation.IsWritten ping.compact ⟨"ping", "", ""⟩ :=
      .intro (Json.isObject_compact _)
        ⟨.once (Json.isString_encodeString "ping"), .absent rfl, .once .null⟩
    have horders : Service.IsWritten orders.compact ⟨"Orders", "", "", [⟨"ping", "", ""⟩]⟩ :=
      .intro (Json.isObject_compact _)
        ⟨.once (Json.isString_encodeString "Orders"),
          .once (.value (Json.isString_encodeString "")), .absent rfl,
          .once (.value (Json.listOf_compact (.cons hping .nil)))⟩
    have hservices : ListOf Service.IsWritten (Value.list [orders]).compact _ :=
      Json.listOf_compact (.cons horders .nil)
    have hbefore : Json.IsGap ['\n'] := List.forall_mem_singleton.mpr rfl
    have hbehind : Json.IsGap [' '] := List.forall_mem_singleton.mpr rfl
    exact haccepts _ _ (by decide) ⟨_, _, _, hbefore, hservices, hbehind, by decide⟩
  · have hspoilt : Operation.IsSpoilt (Value.object [("Name", .null)]).compact :=
      ⟨_, Json.isObject_compact _, .null List.mem_cons_self⟩
    have hunnamed : Service.IsSpoilt unnamed.compact :=
      .operation (Json.isObject_compact _) (List.mem_cons_of_mem _ List.mem_cons_self)
        (Json.isList_compact _) (List.mem_cons_of_mem _ List.mem_cons_self) hspoilt
    exact hrefuses _ _ (Json.isDocument_compactText (Json.isList_compact _))
      ⟨_, List.mem_cons_of_mem _ List.mem_cons_self, hunnamed⟩

end ServiceStubs
