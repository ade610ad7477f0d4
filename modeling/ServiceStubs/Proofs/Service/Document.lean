import Mathlib.Tactic.Tauto
import ServiceStubs.Proofs.Json.Layout
import ServiceStubs.Proofs.Json.Occurrence
import ServiceStubs.Service.Document

/-!
# Services are read back

A service is written with all of its fields, and each field is taken by the reader of its key.
Besides these fields only keys and layout are written, so a pattern that is foreign to both occurs
in a model only where it occurs in a field.
-/

namespace ServiceStubs

open ServiceStubs.Json (Shape TakesPretty)

theorem Operation.takesPretty_toJson (o : Operation) :
    TakesPretty Operation.shape.read o.toJson o := by
  have hmembers : List.Forall₂ (TakesPretty.Member Operation.shape)
      [("Name", .string o.name), ("Type", .string o.returnType),
       ("ReturnValue", .string o.placeholder)]
      [("Name", fun r => { r with name := o.name }),
       ("Type", fun r => { r with returnType := o.returnType }),
       ("ReturnValue", fun r => { r with placeholder := o.placeholder })] :=
    .cons (.of (fun v (r : Operation) => { r with name := v }) (.string o.name) rfl)
      (.cons (.of (fun v (r : Operation) => { r with returnType := v })
          (.orEmpty (.string o.returnType)) rfl)
        (.cons (.of (fun v (r : Operation) => { r with placeholder := v })
          (.orEmpty (.string o.placeholder)) rfl) .nil))
  have hnodup : ["ReturnValue", "Type", "Name"].Nodup := by decide
  exact TakesPretty.record (List.cons_ne_nil _ _) hmembers hnodup rfl

theorem Service.takesPretty_toJson (s : Service) : TakesPretty Service.shape.read s.toJson s := by
  have hoperations : TakesPretty (Json.readList Operation.shape.read)
      (.list (s.operations.map Operation.toJson)) s.operations :=
    .list fun o _ => o.takesPretty_toJson
  have hmembers : List.Forall₂ (TakesPretty.Member Service.shape)
      [("Name", .string s.name), ("Namespace", .string s.sourceNamespace),
       ("TargetNamespace", .string s.targetNamespace),
       ("Operations", .list (s.operations.map Operation.toJson))]
      [("Name", fun r => { r with name := s.name }),
       ("Namespace", fun r => { r with sourceNamespace := s.sourceNamespace }),
       ("TargetNamespace", fun r => { r with targetNamespace := s.targetNamespace }),
       ("Operations", fun r => { r with operations := s.operations })] :=
    .cons (.of (fun v (r : Service) => { r with name := v }) (.string s.name) rfl)
      (.cons (.of (fun v (r : Service) => { r with sourceNamespace := v })
          (.orEmpty (.string s.sourceNamespace)) rfl)
        (.cons (.of (fun v (r : Service) => { r with targetNamespace := v })
            (.orEmpty (.string s.targetNamespace)) rfl)
          (.cons (.of (fun v (r : Service) => { r with operations := v })
            hoperations.orEmpty rfl) .nil)))
  have hnodup : ["Operations", "TargetNamespace", "Namespace", "Name"].Nodup := by decide
  exact TakesPretty.record (List.cons_ne_nil _ _) hmembers hnodup rfl

/-- The text of a service model holds the services and nothing else. -/
theorem Service.readDocument_modelText (services : List Service) :
    Json.readDocument (Json.readList Service.shape.read) (Service.modelText services) =
      .ok services :=
  Json.readDocument_prettyText (.list fun s _ => s.takesPretty_toJson)

/-! ## What occurs in a model -/

/-- The texts that an operation brings into a model. -/
def Operation.texts (o : Operation) : List String := [o.name, o.returnType, o.placeholder]

theorem Operation.strings_toJson (o : Operation) :
    o.toJson.strings = ["Name", o.name, "Type", o.returnType, "ReturnValue", o.placeholder] := rfl

namespace Service

/-- The texts that a service brings into a model, with those of its operations. -/
def texts (s : Service) : List String :=
  [s.name, s.sourceNamespace, s.targetNamespace] ++ s.operations.flatMap Operation.texts

/-- The keys of services and operations. -/
def keys : List String :=
  ["Name", "Type", "ReturnValue", "Namespace", "TargetNamespace", "Operations"]

theorem strings_toJson (s : Service) :
    s.toJson.strings = ["Name", s.name, "Namespace", s.sourceNamespace, "TargetNamespace",
      s.targetNamespace, "Operations"] ++ s.operations.flatMap (·.toJson.strings) := by
  rw [← Json.Value.itemStrings_map]
  simp only [toJson, Json.Value.strings, Json.Value.memberStrings, List.append_nil]
  rfl

/-- A service is written with keys and with its texts. -/
theorem mem_of_mem_strings_toJson {s : Service} {t : String} (h : t ∈ s.toJson.strings) :
    t ∈ keys ∨ t ∈ s.texts := by
  have hoperation : ∀ o : Operation, t ∈ o.toJson.strings → t ∈ keys ∨ t ∈ o.texts := by
    intro o ho
    simp only [Operation.strings_toJson, List.mem_cons, List.not_mem_nil, or_false] at ho
    simp only [keys, Operation.texts, List.mem_cons]
    tauto
  rw [strings_toJson, List.mem_append, List.mem_flatMap] at h
  rw [texts, List.mem_append, List.mem_flatMap]
  rcases h with h | ⟨o, ho, h⟩
  · simp only [List.mem_cons, List.not_mem_nil, or_false] at h
    simp only [keys, List.mem_cons]
    tauto
  · exact (hoperation o h).imp_right fun ht => .inr ⟨o, ho, ht⟩

/-- What occurs in a model occurs in one of the texts of its services. -/
theorem exists_of_infix_modelText {pattern : List Char} {services : List Service}
    (hp : Json.IsForeign pattern) (hkeys : ∀ k ∈ keys, ¬ pattern <:+: k.toList)
    (h : pattern <:+: (modelText services).toList) :
    ∃ s ∈ services, ∃ t ∈ s.texts, pattern <:+: t.toList := by
  rw [modelText, Json.Value.prettyText, String.toList_ofList] at h
  obtain ⟨t, ht, hinfix⟩ := Json.exists_of_infix_pretty hp 0 _ h
  rw [Json.Value.strings, Json.Value.itemStrings_map] at ht
  obtain ⟨s, hs, ht⟩ := List.mem_flatMap.mp ht
  rcases mem_of_mem_strings_toJson ht with hkey | ht
  · exact absurd hinfix (hkeys t hkey)
  · exact ⟨s, hs, t, ht, hinfix⟩

/-- A model is one list, from bracket to bracket. -/
theorem toList_modelText (services : List Service) :
    ∃ body, (modelText services).toList = '[' :: (body ++ [']']) := by
  rw [modelText, Json.Value.prettyText, String.toList_ofList]
  cases services with
  | nil => exact ⟨[], rfl⟩
  | cons s services =>
    rw [List.map_cons, Json.Value.pretty]
    exact ⟨_, rfl⟩

end Service

end ServiceStubs
