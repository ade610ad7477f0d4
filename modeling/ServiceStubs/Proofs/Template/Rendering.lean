import ServiceStubs.Template.Basic

/-!
# What a template renders

The characters that parts give, rule by rule: one rule for each kind of part, in front of the parts
after it.
-/

namespace ServiceStubs.Template

/-- The parts render, and give these characters. -/
def Renders (scope : Scope) (parts : List Part) (given : List Char) : Prop :=
  ∃ text, renderParts scope parts = .ok text ∧ text.toList = given

namespace Renders

variable {scope : Scope} {rest : List Part} {given : List Char}

theorem nil : Renders scope [] [] := ⟨"", rfl, rfl⟩

/-- The characters of one part come before those of the rest. -/
theorem cons {part : Part} {s : String} (hpart : part.render scope = .ok s)
    (h : Renders scope rest given) : Renders scope (part :: rest) (s.toList ++ given) := by
  obtain ⟨text, htext, rfl⟩ := h
  refine ⟨s ++ text, ?_, String.toList_append⟩
  rw [renderParts, hpart, htext]
  rfl

theorem text (s : String) (h : Renders scope rest given) :
    Renders scope (.text s :: rest) (s.toList ++ given) :=
  h.cons (by rw [Part.render])

theorem lastText (s : String) : Renders scope [.text s] s.toList := by
  have h : Renders scope [.text s] (s.toList ++ []) := nil.text s
  rwa [List.append_nil] at h

theorem value {path : List String} {s : String} (hpath : lookup scope path = some (.text s))
    (h : Renders scope rest given) : Renders scope (.value path :: rest) (s.toList ++ given) :=
  h.cons (by rw [Part.render, hpath]; rfl)

theorem lastValue {path : List String} {s : String} (hpath : lookup scope path = some (.text s)) :
    Renders scope [.value path] s.toList := by
  have h := nil.value hpath
  rwa [List.append_nil] at h

/-- A choice on a text takes its first branch unless the text is empty. -/
theorem choice {test : List String} {yes no : List Part} {s : String} {chosen : List Char}
    (htest : lookup scope test = some (.text s))
    (hchosen : Renders scope (if s.isEmpty then no else yes) chosen)
    (h : Renders scope rest given) :
    Renders scope (.choice test yes no :: rest) (chosen ++ given) := by
  obtain ⟨text, htext, rfl⟩ := hchosen
  apply h.cons
  rw [Part.render, htest]
  cases hs : s.isEmpty <;> simpa [hs, Data.isTrue] using htext

/-- A repetition gives the characters of its body once for each item. -/
theorem each {α : Type} {item : String} {source : List String} {body : List Part} {items : List α}
    {data : α → Data} {f : α → List Char}
    (hsource : lookup scope source = some (.list (items.map data)))
    (hbody : ∀ a ∈ items, Renders ((item, data a) :: scope) body (f a))
    (h : Renders scope rest given) :
    Renders scope (.each item source body :: rest) (items.flatMap f ++ given) := by
  have hloop : ∀ (as : List α), (∀ a ∈ as, a ∈ items) → ∀ before : String,
      ∃ text : String, (as.map data).foldl (fun (done : Except RenderFault String) d => do
        let before ← done
        let here ← renderParts ((item, d) :: scope) body
        return before ++ here) (.ok before) = .ok text ∧
        text.toList = before.toList ++ as.flatMap f := by
    intro as hmem
    induction as with
    | nil => exact fun before => ⟨before, rfl, by simp⟩
    | cons a as ih =>
      intro before
      obtain ⟨here, hhere, hchars⟩ := hbody a (hmem a List.mem_cons_self)
      obtain ⟨text, htext, hall⟩ :=
        ih (fun b hb => hmem b (List.mem_cons_of_mem a hb)) (before ++ here)
      refine ⟨text, ?_, ?_⟩
      · rw [List.map_cons, List.foldl_cons, hhere]
        exact htext
      · rw [hall, String.toList_append, hchars, List.flatMap_cons, List.append_assoc]
  obtain ⟨text, htext, hchars⟩ := hloop items (fun _ h => h) ""
  have hpart : Part.render scope (.each item source body) = .ok text := by
    rw [Part.render, hsource]
    exact htext
  have hrenders := h.cons hpart
  rw [hchars] at hrenders
  exact hrenders

end Renders

end ServiceStubs.Template
