import ServiceStubs.Proofs.Json.Variants
import ServiceStubs.Run.Request

/-!
# Requests are handed over

A host writes what it has gathered as a request, or only the declarations as a snapshot.  What it
writes is read back, and so is every variant of it: with members in another order, with members
under other keys, or without the members that hold empty lists of files, classes or members.
-/

namespace ServiceStubs

open ServiceStubs.Json (Slot Sets ListOf IsDocument Value Varies recognizes_list recognizes_string
  recognizes_tag tagOf?)

/-- The keys that may be left out for an empty list. -/
def optionalKeys : List String := ["files", "classes", "members"]

variable {word : List Char}

/-! ## Tags -/

theorem tagOf?_visibility (v : Visibility) : tagOf? Visibility.tags v.tag = some v := by
  cases v <;> rfl

theorem tagOf?_memberKind (k : MemberKind) : tagOf? MemberKind.tags k.tag = some k := by
  cases k <;> rfl

/-! ## Members -/

namespace Member

/-- The fields of a member. -/
def slots : List (Slot Member) :=
  [⟨String, "name", name, fun v m => { m with name := v }, _, _, recognizes_string, none⟩,
   ⟨MemberKind, "kind", kind, fun v m => { m with kind := v }, _, _,
     recognizes_tag MemberKind.tags, none⟩,
   ⟨Visibility, "visibility", visibility, fun v m => { m with visibility := v }, _, _,
     recognizes_tag Visibility.tags, none⟩,
   ⟨String, "return_type", returnType, fun v m => { m with returnType := v }, _, _,
     recognizes_string, none⟩]

theorem isLaidOut : shape.IsLaidOut slots where
  fields := rfl
  nodup := by decide
  get_put := by simp [slots]
  get_put_of_ne := by simp [slots]
  blank := by simp [slots]
  ext := by
    rintro ⟨name, kind, visibility, returnType⟩ ⟨name', kind', visibility', returnType'⟩ h
    simpa [slots] using h

/-- What is read as a member. -/
abbrev Reads : List Char → Member → Prop := shape.Reads (Sets slots)

theorem reads_of_varies (m : Member) (h : Varies optionalKeys m.toJson word) : Reads word m := by
  exact isLaidOut.reads_of_varies (.cons .string (.cons (.tag (tagOf?_memberKind m.kind))
    (.cons (.tag (tagOf?_visibility m.visibility)) (.cons .string .nil)))) h

end Member

/-! ## Classes -/

namespace ClassDecl

/-- The fields of a class. -/
def slots : List (Slot ClassDecl) :=
  [⟨String, "name", name, fun v c => { c with name := v }, _, _, recognizes_string, none⟩,
   ⟨String, "namespace", scope, fun v c => { c with scope := v }, _, _, recognizes_string, none⟩,
   ⟨Visibility, "visibility", visibility, fun v c => { c with visibility := v }, _, _,
     recognizes_tag Visibility.tags, none⟩,
   ⟨List Member, "members", members, fun v c => { c with members := v }, _, _,
     recognizes_list Member.isLaidOut.recognizes, some []⟩]

theorem isLaidOut : shape.IsLaidOut slots where
  fields := rfl
  nodup := by decide
  get_put := by simp [slots]
  get_put_of_ne := by simp [slots]
  blank := by simp [slots, shape]
  ext := by
    rintro ⟨name, scope, visibility, members⟩ ⟨name', scope', visibility', members'⟩ h
    simpa [slots] using h

/-- What is read as a class. -/
abbrev Reads : List Char → ClassDecl → Prop := shape.Reads (Sets slots)

theorem reads_of_varies (c : ClassDecl) (h : Varies optionalKeys c.toJson word) :
    Reads word c := by
  exact isLaidOut.reads_of_varies (.cons .string (.cons .string
    (.cons (.tag (tagOf?_visibility c.visibility))
      (.cons (.list Member.isLaidOut.recognizes fun m _ _ => m.reads_of_varies) .nil)))) h

end ClassDecl

/-! ## Files and snapshots -/

namespace SourceDecls

/-- The fields of a file. -/
def slots : List (Slot SourceDecls) :=
  [⟨String, "path", path, fun v f => { f with path := v }, _, _, recognizes_string, none⟩,
   ⟨List ClassDecl, "classes", classes, fun v f => { f with classes := v }, _, _,
     recognizes_list ClassDecl.isLaidOut.recognizes, some []⟩]

theorem isLaidOut : shape.IsLaidOut slots where
  fields := rfl
  nodup := by decide
  get_put := by simp [slots]
  get_put_of_ne := by simp [slots]
  blank := by simp [slots, shape]
  ext := by
    rintro ⟨path, classes⟩ ⟨path', classes'⟩ h
    simpa [slots] using h

/-- What is read as the declarations of a file. -/
abbrev Reads : List Char → SourceDecls → Prop := shape.Reads (Sets slots)

theorem reads_of_varies (f : SourceDecls) (h : Varies optionalKeys f.toJson word) :
    Reads word f := by
  exact isLaidOut.reads_of_varies
    (.cons .string
      (.cons (.list ClassDecl.isLaidOut.recognizes fun c _ _ => c.reads_of_varies) .nil)) h

end SourceDecls

namespace Snapshot

/-- The field of a snapshot. -/
def slots : List (Slot Snapshot) :=
  [⟨List SourceDecls, "files", files, fun v _ => ⟨v⟩, _, _,
    recognizes_list SourceDecls.isLaidOut.recognizes, some []⟩]

theorem isLaidOut : shape.IsLaidOut slots where
  fields := rfl
  nodup := by decide
  get_put := by simp [slots]
  get_put_of_ne := by simp [slots]
  blank := by simp [slots, shape]
  ext := by
    rintro ⟨files⟩ ⟨files'⟩ h
    simpa [slots] using h

/-- What is read as a snapshot. -/
abbrev Reads : List Char → Snapshot → Prop := shape.Reads (Sets slots)

theorem reads_of_varies (s : Snapshot) (h : Varies optionalKeys s.toJson word) : Reads word s := by
  exact isLaidOut.reads_of_varies
    (.cons (.list SourceDecls.isLaidOut.recognizes fun f _ _ => f.reads_of_varies) .nil) h

end Snapshot

/-! ## Requests -/

namespace AuxiliaryText

/-- The fields of an auxiliary text. -/
def slots : List (Slot AuxiliaryText) :=
  [⟨String, "path", path, fun v t => { t with path := v }, _, _, recognizes_string, none⟩,
   ⟨String, "text", text, fun v t => { t with text := v }, _, _, recognizes_string, none⟩]

theorem isLaidOut : shape.IsLaidOut slots where
  fields := rfl
  nodup := by decide
  get_put := by simp [slots]
  get_put_of_ne := by simp [slots]
  blank := by simp [slots]
  ext := by
    rintro ⟨path, text⟩ ⟨path', text'⟩ h
    simpa [slots] using h

/-- What is read as an auxiliary text. -/
abbrev Reads : List Char → AuxiliaryText → Prop := shape.Reads (Sets slots)

theorem reads_of_varies (t : AuxiliaryText) (h : Varies optionalKeys t.toJson word) :
    Reads word t := by
  exact isLaidOut.reads_of_varies (.cons .string (.cons .string .nil)) h

end AuxiliaryText

namespace Request

/-- The fields of a request. -/
def slots : List (Slot Request) :=
  [⟨String, "module_name", moduleName, fun v r => { r with moduleName := v }, _, _,
     recognizes_string, none⟩,
   ⟨Snapshot, "declarations", declarations, fun v r => { r with declarations := v }, _, _,
     Snapshot.isLaidOut.recognizes, none⟩,
   ⟨List AuxiliaryText, "additional_texts", texts, fun v r => { r with texts := v }, _, _,
     recognizes_list AuxiliaryText.isLaidOut.recognizes, none⟩]

theorem isLaidOut : shape.IsLaidOut slots where
  fields := rfl
  nodup := by decide
  get_put := by simp [slots]
  get_put_of_ne := by simp [slots]
  blank := by simp [slots]
  ext := by
    rintro ⟨moduleName, declarations, texts⟩ ⟨moduleName', declarations', texts'⟩ h
    simpa [slots] using h

/-- What is read as a request. -/
abbrev Reads : List Char → Request → Prop := shape.Reads (Sets slots)

theorem reads_of_varies (r : Request) (h : Varies optionalKeys r.toJson word) : Reads word r := by
  have hdeclarations : ∀ text, Varies optionalKeys r.declarations.toJson text →
      Snapshot.Reads text r.declarations :=
    fun _ hvaries => r.declarations.reads_of_varies hvaries
  have htexts : ∀ text, Varies optionalKeys (.list (r.texts.map AuxiliaryText.toJson)) text →
      ListOf AuxiliaryText.Reads text r.texts :=
    fun _ hvaries => .of_varies hvaries fun t _ _ => t.reads_of_varies
  exact isLaidOut.reads_of_varies (.cons .string (.cons (.required (by decide) hdeclarations)
    (.cons (.required (by decide) htexts) .nil))) h

end Request

/-- Whatever request is written, it is read back, and so are its declarations by themselves.  Every
variant of either text is read as the same. -/
theorem request_reads_back (r : Request) :
    Request.ofJsonText r.toJson.compactText = .ok r ∧
    Snapshot.ofJsonText r.declarations.toJson.compactText = .ok r.declarations ∧
    (∀ text, IsDocument (Varies optionalKeys r.toJson) text → Request.ofJsonText text = .ok r) ∧
    ∀ text, IsDocument (Varies optionalKeys r.declarations.toJson) text →
      Snapshot.ofJsonText text = .ok r.declarations := by
  have hrequest : ∀ text, IsDocument (Varies optionalKeys r.toJson) text →
      Request.ofJsonText text = .ok r := fun text h =>
    Request.isLaidOut.recognizes.readDocument_eq_ok.mpr (h.mono fun _ => r.reads_of_varies)
  have hsnapshot : ∀ text, IsDocument (Varies optionalKeys r.declarations.toJson) text →
      Snapshot.ofJsonText text = .ok r.declarations := fun text h =>
    Snapshot.isLaidOut.recognizes.readDocument_eq_ok.mpr
      (h.mono fun _ => r.declarations.reads_of_varies)
  exact ⟨hrequest _ (Json.isDocument_compactText (Json.varies_compact _ _)),
    hsnapshot _ (Json.isDocument_compactText (Json.varies_compact _ _)), hrequest, hsnapshot⟩

/-- Members in another order, one under another key, and a class without its empty list. -/
theorem request_reads_back_reordered :
    let orders : ClassDecl := ⟨"Orders", "shop", .everywhere, []⟩
    let request : Request := ⟨"m", ⟨[⟨"a.rs", [orders]⟩]⟩, []⟩
    let orders' : Value := .object
      [("namespace", .string "shop"), ("name", .string "Orders"), ("visibility", .string "Public")]
    let file : Value := .object
      [("classes", .list [orders']), ("path", .string "a.rs"), ("x", .list [.null])]
    let request' : Value := .object
      [("declarations", .object [("files", .list [file])]), ("module_name", .string "m"),
       ("additional_texts", .list [])]
    request'.compactText ≠ request.toJson.compactText ∧
      Request.ofJsonText request'.compactText = .ok request := by
  intro orders request orders' file request'
  have hwritten := Json.varies_compact optionalKeys
  have horders : Varies optionalKeys orders.toJson orders'.compact := by
    have hfound : List.Perm
        [("namespace", Value.string "shop"), ("name", .string "Orders"),
          ("visibility", .string "Public")]
        ([("name", .string "Orders"), ("namespace", .string "shop"),
          ("visibility", .string "Public")] ++ []) := .swap _ _ _
    exact .object_compact hfound (.kept (hwritten _) (.kept (hwritten _) (.kept (hwritten _)
      (.leftOut (by decide) .nil)))) (List.forall_mem_nil _)
  have hfile : Varies optionalKeys (SourceDecls.toJson ⟨"a.rs", [orders]⟩) file.compact := by
    have hfound : List.Perm
        [("classes", .list [orders']), ("path", Value.string "a.rs"), ("x", .list [.null])]
        ([("path", .string "a.rs"), ("classes", .list [orders'])] ++ [("x", .list [.null])]) :=
      .swap _ _ _
    exact .object_compact hfound (.kept (hwritten _)
      (.kept (.list (Json.isList_compact _) (.cons horders .nil)) .nil)) (by decide)
  have hdeclarations : Varies optionalKeys request.declarations.toJson
      (Value.object [("files", .list [file])]).compact :=
    .object (Json.isObject_compact _) (.refl _)
      (.kept (.list (Json.isList_compact [file]) (.cons hfile .nil)) .nil) (List.forall_mem_nil _)
  have hrequest : Varies optionalKeys request.toJson request'.compact := by
    have hfound : List.Perm
        [("declarations", Value.object [("files", .list [file])]), ("module_name", .string "m"),
          ("additional_texts", .list [])]
        ([("module_name", .string "m"), ("declarations", .object [("files", .list [file])]),
          ("additional_texts", .list [])] ++ []) := .swap _ _ _
    exact .object_compact hfound (.kept (hwritten _) (.kept hdeclarations (.kept (hwritten _)
      .nil))) (List.forall_mem_nil _)
  exact ⟨by decide +kernel, (request_reads_back request).2.2.1 _
    (Json.isDocument_compactText hrequest)⟩

end ServiceStubs
