import ServiceStubs.Proofs.Run.Commit
import ServiceStubs.Proofs.Service.Document
import ServiceStubs.Proofs.Service.ModelUnit
import ServiceStubs.Proofs.Text.Embedded

/-!
# Models are read back out of their units

The model pipeline registers one unit, and the services can be read back out of its text.  The text
of the model is clear if the texts of the services are: what stands in the way of an embedded text
is foreign to keys, layout and escapes, so it cannot arise between two texts or out of a part of
one.
-/

namespace ServiceStubs

open ServiceStubs.Text (infix_append_cons infix_of_infix_append)
open ServiceStubs.Text.Comment (IsClear blockBegin blockEnd carried? obstacles singleLine)

namespace Service

/-- Reads services back out of the text of a unit. -/
def readBack? (text : String) : Option (Except Json.Error (List Service)) :=
  (carried? text).map (Json.readDocument (Json.readList shape.read))

/-- A model is clear if all texts of its services are. -/
theorem isClear_modelText {services : List Service}
    (h : ∀ s ∈ services, ∀ t ∈ s.texts, IsClear t.toList) :
    IsClear (modelText services).toList := by
  have hforeign : ∀ o ∈ obstacles, Json.IsForeign o.toList := by decide
  have hkeys : ∀ o ∈ obstacles, ∀ k ∈ keys, ¬ o.toList <:+: k.toList := by decide
  intro o ho hinfix
  obtain ⟨s, hs, t, ht, hinfix⟩ := exists_of_infix_modelText (hforeign o ho) (hkeys o ho) hinfix
  exact h s hs t ht o ho hinfix

end Service

namespace ModelView

/-- Of the header, only the name of the module could hold a marker. -/
theorem not_infix_header {moduleName : String} {marker : List Char}
    (hmarker : marker = blockBegin.toList ∨ marker = blockEnd.toList)
    (h : ¬ marker <:+: (singleLine moduleName).toList) :
    ¬ marker <:+: (header moduleName).toList := by
  -- No marker reaches over the full stop behind the name, and none starts in the words before it.
  have hdot : '.' ∉ marker := by
    rcases hmarker with rfl | rfl <;> decide
  have hhead : marker.head? = some '=' := by
    rcases hmarker with rfl | rfl <;> rfl
  have hfront : '=' ∉ "// <auto-generated>\n// Service model extracted from ".toList := by decide
  have hback : ¬ marker <:+: " Do not edit.\n// </auto-generated>\n".toList := by
    rcases hmarker with rfl | rfl <;> decide
  have hsentence : ". Do not edit.\n// </auto-generated>\n".toList =
      '.' :: " Do not edit.\n// </auto-generated>\n".toList := by decide
  intro hinfix
  unfold header at hinfix
  simp only [String.toList_append, hsentence] at hinfix
  rcases infix_append_cons hdot hinfix with hname | hrest
  · refine h (infix_of_infix_append (fun c hc hmem => ?_) hname)
    rw [hhead] at hmem
    exact hfront (Option.some.inj hmem ▸ hc)
  · exact hback hrest

/-- The unit carries a clear text, whatever the module is called but for the markers. -/
theorem carried?_text {moduleName model : String} {body : List Char} {c d : Char}
    (hbegin : ¬ blockBegin.toList <:+: (singleLine moduleName).toList)
    (hend : ¬ blockEnd.toList <:+: (singleLine moduleName).toList)
    (hclear : IsClear model.toList) (hmodel : model.toList = c :: (body ++ [d]))
    (hc : ¬ Text.isBlank c = true) (hd : ¬ Text.isBlank d = true) :
    carried? (text moduleName model) = some model :=
  Text.Comment.carried?_embed (not_infix_header (.inl rfl) hbegin)
    (not_infix_header (.inr rfl) hend) hclear hmodel hc hd

end ModelView

namespace Pipeline

variable {moduleName : String} {services : List Service} {units : List GeneratedUnit}

/-- What the model pipeline hands over is one unit, with the text that the renderer gives it. -/
theorem eq_of_modelUnits {renderer : Renderer}
    (h : modelUnits renderer moduleName services = .ok units) :
    ∃ text, renderer.serviceModel moduleName (Service.modelText services) = .ok text ∧
      units = [⟨Naming.modelUnitName moduleName, text⟩] := by
  obtain ⟨_, -, h⟩ := eq_ok_of_bind h
  obtain ⟨text, htext, h⟩ := eq_ok_of_bind h
  exact ⟨text, htext, (Except.ok.inj h).symm⟩

end Pipeline

/-- Let the model pipeline register its units for the services of a namespace.  There is one unit,
and exactly the services that were extracted are read back out of its text, if none of their texts
holds an apostrophe, a delimiter of comments, or the closing marker, and the name of the module
holds no marker on its one line. -/
theorem services_read_back {config : Config} {request : Request} {units : List GeneratedUnit}
    {namespaceName : String} (hnamespace : config.servicesNamespace = some namespaceName)
    (h : (Pipeline.runModel Renderer.builtIn config request).value = .registered units)
    (hbegin : ¬ blockBegin.toList <:+: (singleLine request.moduleName).toList)
    (hend : ¬ blockEnd.toList <:+: (singleLine request.moduleName).toList)
    (hclear : ∀ s ∈ (Extraction.extract namespaceName config.targetNamespace
        request.declarations).value, ∀ t ∈ s.texts, IsClear t.toList) :
    ∃ text, units = [⟨Naming.modelUnitName request.moduleName, text⟩] ∧
      Service.readBack? text = some (.ok
        (Extraction.extract namespaceName config.targetNamespace request.declarations).value) := by
  set services :=
    (Extraction.extract namespaceName config.targetNamespace request.declarations).value
    with hservices
  have hresult : (Outcome.ofResult .serviceModel
      (Pipeline.modelUnits Renderer.builtIn request.moduleName services)).value =
      .registered units := by
    rw [Pipeline.runModel, hnamespace] at h
    exact h
  obtain ⟨text, htext, rfl⟩ := Pipeline.eq_of_modelUnits (Outcome.eq_ok_of_registered hresult)
  refine ⟨text, rfl, ?_⟩
  rw [ModelView.serviceModel_eq] at htext
  obtain rfl := Except.ok.inj htext
  obtain ⟨body, hbody⟩ := Service.toList_modelText services
  have hcarried := ModelView.carried?_text hbegin hend (Service.isClear_modelText hclear) hbody
    (by decide) (by decide)
  rw [Service.readBack?, hcarried, Option.map_some, Service.readDocument_modelText]

/-- Quotes, escapes and control characters, a delimiter and a marker that fall apart where texts
end or an escape is, and an opening marker. -/
theorem services_read_back_odd :
    let config : Config := ⟨none, some "ac\"me\\*", some "/\u2028"⟩
    let members : List Member :=
      [⟨"*", .ordinary, .everywhere, "/\x00\n"⟩, ⟨"===JSON BEGIN===", .ordinary, .everywhere, ""⟩,
       ⟨"===JSON\x7fEND===", .ordinary, .everywhere, "===JSON\"END==="⟩]
    let request : Request := ⟨"my\n'app'", ⟨[⟨"a.rs", [⟨" \t", "ac\"me\\*", .everywhere, members⟩,
      ⟨"\"", "ac\"me\\*", .everywhere, []⟩]⟩]⟩, []⟩
    let services :=
      (Extraction.extract "ac\"me\\*" config.targetNamespace request.declarations).value
    services.length = 2 ∧
      ∃ units, (Pipeline.runModel Renderer.builtIn config request).value = .registered units ∧
        ∃ text, units = [⟨Naming.modelUnitName request.moduleName, text⟩] ∧
          Service.readBack? text = some (.ok services) := by
  intro config members request services
  have hvalue : (Pipeline.runModel Renderer.builtIn config request).value = .registered _ :=
    Outcome.eq_registered (by decide +kernel)
  refine ⟨rfl, _, hvalue, ?_⟩
  exact services_read_back rfl hvalue (by decide +kernel) (by decide +kernel) (by decide +kernel)

end ServiceStubs
