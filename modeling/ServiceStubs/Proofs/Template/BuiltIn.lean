import Mathlib.Data.List.Basic
import ServiceStubs.Renderer
import ServiceStubs.Template.BuiltIn

/-!
# The built-in templates are read

Reading the texts of the built-in templates gives their parts, up to texts that follow each other:
what is read has one text where the parts have two.  So the renderer that is built from the texts is
the built-in one, and building it cannot fail.
-/

namespace ServiceStubs

namespace Template

mutual

/-- Decides whether two parts are equal. -/
def Part.decEq : (p q : Part) → Decidable (p = q)
  | .text s, .text t => decidable_of_iff (s = t) (by rw [Part.text.injEq])
  | .value p, .value q => decidable_of_iff (p = q) (by rw [Part.value.injEq])
  | .each i s b, .each j t c =>
    have := Part.decEqAll b c
    decidable_of_iff (i = j ∧ s = t ∧ b = c) (by rw [Part.each.injEq])
  | .choice s y n, .choice t z m =>
    have := Part.decEqAll y z
    have := Part.decEqAll n m
    decidable_of_iff (s = t ∧ y = z ∧ n = m) (by rw [Part.choice.injEq])
  | .text .., .value .. | .text .., .each .. | .text .., .choice ..
  | .value .., .text .. | .value .., .each .. | .value .., .choice ..
  | .each .., .text .. | .each .., .value .. | .each .., .choice ..
  | .choice .., .text .. | .choice .., .value .. | .choice .., .each .. => isFalse nofun

/-- Decides whether two rows of parts are equal. -/
def Part.decEqAll : (ps qs : List Part) → Decidable (ps = qs)
  | [], [] => isTrue rfl
  | p :: ps, q :: qs =>
    have := Part.decEq p q
    have := Part.decEqAll ps qs
    decidable_of_iff (p = q ∧ ps = qs) (by rw [List.cons.injEq])
  | [], _ :: _ | _ :: _, [] => isFalse nofun

end

instance : DecidableEq Part := Part.decEq

/-! ## Texts that follow each other -/

/-- Puts a part in front of others.  A text joins the text behind it. -/
def joinText : Part → List Part → List Part
  | .text s, .text t :: rest => .text (s ++ t) :: rest
  | part, rest => part :: rest

/-- Parts in which no text follows another, outside their blocks. -/
def joinTexts (parts : List Part) : List Part := parts.foldr joinText []

theorem renderParts_joinText (scope : Scope) (part : Part) (rest : List Part) :
    renderParts scope (joinText part rest) = renderParts scope (part :: rest) := by
  rw [joinText.eq_def]
  split
  · next s t rest =>
    simp only [renderParts, Part.render, bind, Except.bind]
    cases renderParts scope rest with
    | error e => rfl
    | ok after => exact congrArg Except.ok String.append_assoc
  · rfl

theorem renderParts_cons_congr {scope : Scope} {rest rest' : List Part} (part : Part)
    (h : renderParts scope rest = renderParts scope rest') :
    renderParts scope (part :: rest) = renderParts scope (part :: rest') := by
  rw [renderParts, renderParts, h]

theorem renderParts_joinTexts (scope : Scope) (parts : List Part) :
    renderParts scope (joinTexts parts) = renderParts scope parts := by
  induction parts with
  | nil => rfl
  | cons part parts ih =>
    rw [joinTexts, List.foldr_cons, renderParts_joinText]
    exact renderParts_cons_congr part ih

/-! ## Reading -/

theorem toList_ofList_append (cs : List Char) (s : String) :
    (String.ofList cs ++ s).toList = cs ++ s.toList := by
  rw [String.toList_append, String.toList_ofList]

/-- The template of a controller is read from its text. -/
theorem parse_controllerText :
    parse ControllerView.templateText = .ok (joinTexts ControllerView.template) := by
  -- The characters are laid out line by line first: the kernel is slow at those of a long string.
  unfold parse ControllerView.templateText
  simp only [String.append_assoc]
  repeat rw [toList_ofList_append]
  rw [String.toList_ofList]
  decide +kernel

/-- The template of the aggregate unit is read from its text. -/
theorem parse_aggregateText :
    parse ModelView.templateText = .ok (joinTexts ModelView.template) := by
  unfold parse ModelView.templateText
  simp only [String.append_assoc]
  repeat rw [toList_ofList_append]
  rw [String.toList_ofList]
  decide +kernel

end Template

namespace Renderer

open ServiceStubs.Template (joinTexts renderParts_joinTexts)

theorem ofParts_joinTexts (controller serviceModel : List Template.Part) :
    ofParts (joinTexts controller) (joinTexts serviceModel) = ofParts controller serviceModel := by
  simp only [ofParts, renderNamed, renderParts_joinTexts]

/-- The built-in renderer is the one that the texts of the built-in templates give. -/
theorem ofTexts_builtIn :
    ofTexts ControllerView.templateText ModelView.templateText = .ok builtIn := by
  rw [ofTexts, parseTemplate, parseTemplate, Template.parse_controllerText,
    Template.parse_aggregateText]
  exact congrArg Except.ok (ofParts_joinTexts _ _)

end Renderer

end ServiceStubs
