import ServiceStubs.Path
import ServiceStubs.Proofs.Disk.Writing

/-!
# The names in a path

The names in a path are its pieces between slashes, but for those that say nothing, those that
lead back up and those that are no text.  So a relative path behind a directory has the names of
the directory and then its own.
-/

namespace ServiceStubs.Path.Octets

variable {path piece : Octets} {text name : String}

/-! ## Octets of texts -/

theorem ofText_eq (text : String) :
    ofText text = text.toList.flatMap String.utf8EncodeChar := by
  rw [ofText, String.toUTF8_eq_toByteArray, ← String.utf8Encode_toList, List.utf8Encode,
    List.data_toByteArray]

theorem ofText_append (s t : String) : ofText (s ++ t) = ofText s ++ ofText t := by
  rw [ofText_eq, ofText_eq, ofText_eq, String.toList_append, List.flatMap_append]

theorem ofText_intercalate (pieces : List String) :
    ofText ("/".intercalate pieces) = [slash].intercalate (pieces.map ofText) := by
  cases pieces with
  | nil => rfl
  | cons piece pieces =>
    induction pieces generalizing piece with
    | nil => rw [String.intercalate_singleton, List.map_singleton, List.intercalate_singleton]
    | cons next pieces ih =>
      rw [String.intercalate_cons_cons, ofText_append, ofText_append, ih, List.map_cons,
        List.map_cons, List.map_cons, List.intercalate_cons_cons]
      rfl

theorem toByteArray_ofText (text : String) : (ofText text).toByteArray = text.toByteArray := by
  rw [ofText_eq, ← String.utf8Encode_toList, List.utf8Encode]

/-- Octets are read as the text that they are the octets of. -/
theorem fromUTF8?_eq_some :
    String.fromUTF8? piece.toByteArray = some text ↔ piece = ofText text := by
  constructor
  · intro h
    rw [String.fromUTF8?] at h
    split at h
    · obtain rfl := Option.some.inj h
      rw [ofText, String.toUTF8_eq_toByteArray, String.fromUTF8, List.data_toByteArray]
    · cases h
  · rintro rfl
    rw [String.fromUTF8?, dif_pos (toByteArray_ofText text ▸ text.isValidUTF8)]
    exact congrArg some (String.toByteArray_inj.mp (toByteArray_ofText text))

theorem ofText_injective : Function.Injective ofText := by
  intro s t h
  have hread := fromUTF8?_eq_some.mpr h
  rw [fromUTF8?_eq_some.mpr rfl] at hread
  exact Option.some.inj hread

/-! ## Slashes in texts -/

theorem slash_ne_or (octet : UInt8) {mark : UInt8} (h : 128 ≤ mark.toNat) :
    slash ≠ octet ||| mark := by
  intro heq
  have hle : mark.toNat ≤ (octet ||| mark).toNat := by
    rw [UInt8.toNat_or]
    exact Nat.right_le_or
  rw [← heq] at hle
  exact absurd (h.trans hle) (by decide)

/-- No other character has the octet of a slash: what is not ASCII has marked octets only. -/
theorem slash_not_mem_utf8EncodeChar {c : Char} (h : c ≠ '/') :
    slash ∉ String.utf8EncodeChar c := by
  rcases c.utf8Size_eq with hsize | hsize | hsize | hsize
  · rw [String.utf8EncodeChar_eq_singleton hsize, List.mem_singleton]
    have hascii : c.val.toNat ≤ 127 :=
      UInt32.le_iff_toNat_le.mp (Char.utf8Size_eq_one_iff.mp hsize)
    intro heq
    have hnat := congrArg UInt8.toNat heq
    rw [UInt32.toNat_toUInt8, Nat.mod_eq_of_lt (hascii.trans_lt (by decide))] at hnat
    exact h (Char.ext (UInt32.toNat_inj.mp hnat.symm))
  · simp [String.utf8EncodeChar_eq_cons_cons hsize, slash_ne_or]
  · simp [String.utf8EncodeChar_eq_cons_cons_cons hsize, slash_ne_or]
  · simp [String.utf8EncodeChar_eq_cons_cons_cons_cons hsize, slash_ne_or]

theorem slash_not_mem_ofText (h : '/' ∉ text.toList) : slash ∉ ofText text := by
  rw [ofText_eq, List.mem_flatMap]
  rintro ⟨c, hc, hslash⟩
  exact slash_not_mem_utf8EncodeChar (fun heq => h (heq ▸ hc)) hslash

/-! ## Names -/

theorem name?_eq_some :
    name? piece = some name ↔ piece = ofText name ∧ name ∉ ["", ".", ".."] := by
  have hmem : ofText name ∈ [[], [dot], [dot, dot]] ↔ name ∈ ["", ".", ".."] :=
    List.mem_map_of_injective ofText_injective (l := ["", ".", ".."])
  rw [name?]
  split
  · next hspecial =>
    refine iff_of_false nofun ?_
    rintro ⟨rfl, hname⟩
    exact hname (hmem.mp hspecial)
  · next hspecial =>
    rw [fromUTF8?_eq_some]
    refine ⟨?_, And.left⟩
    rintro rfl
    exact ⟨rfl, mt hmem.mpr hspecial⟩

theorem isSome_name? :
    (name? piece).isSome = true ↔
      piece ∉ [[], [dot], [dot, dot]] ∧ piece.toByteArray.IsValidUTF8 := by
  rw [name?]
  split
  · next hspecial => exact iff_of_false Bool.false_ne_true fun hpiece => hpiece.1 hspecial
  · next hspecial =>
    rw [String.fromUTF8?]
    split
    · next hvalid => exact iff_of_true rfl ⟨hspecial, hvalid⟩
    · next hvalid => exact iff_of_false Bool.false_ne_true fun hpiece => hvalid hpiece.2

theorem ne_empty_of_mem_names (h : name ∈ names path) : name ≠ "" := by
  obtain ⟨piece, -, hpiece⟩ := List.mem_filterMap.mp h
  rintro rfl
  exact (name?_eq_some.mp hpiece).2 List.mem_cons_self

theorem names_append_slash (s t : Octets) : names (s ++ slash :: t) = names s ++ names t := by
  rw [names, Naming.splitAtAny_append rfl, List.filterMap_append]
  rfl

theorem names_join (h : path.head? ≠ some slash) (directory : Octets) :
    names (join directory path) = names directory ++ names path := by
  rw [join, if_neg h]
  split
  · next hnoslash =>
    rcases Bool.or_eq_true_iff.mp hnoslash with hempty | hlast
    · obtain rfl := List.isEmpty_iff.mp hempty
      rfl
    · obtain ⟨front, rfl⟩ := List.getLast?_eq_some_iff.mp (of_decide_eq_true hlast)
      have hfront : names (front ++ [slash]) = names front ++ [] := names_append_slash front []
      rw [List.append_assoc, List.singleton_append, names_append_slash, hfront, List.append_nil]
  · exact names_append_slash directory path

/-! ## Pieces -/

theorem names_intercalate {pieces : List Octets} (h : ∀ piece ∈ pieces, slash ∉ piece) :
    names ([slash].intercalate pieces) = pieces.filterMap name? := by
  cases pieces with
  | nil => rfl
  | cons piece pieces =>
    rw [names, Naming.splitAtAny_intercalate rfl]
    intro p hp octet hoctet
    exact beq_eq_false_iff_ne.mpr fun heq => h p hp (heq ▸ hoctet)

/-- Pieces that are not empty, no dots and text are all that counts. -/
theorem names_intercalate_filter {pieces : List Octets} (h : ∀ piece ∈ pieces, slash ∉ piece) :
    names ([slash].intercalate (pieces.filter fun piece =>
        piece ∉ [[], [dot], [dot, dot]] ∧ piece.toByteArray.IsValidUTF8)) =
      names ([slash].intercalate pieces) := by
  rw [names_intercalate fun piece hpiece => h piece (List.mem_of_mem_filter hpiece),
    names_intercalate h, List.filterMap_filter]
  congr 1
  funext piece
  simp only [← isSome_name?]
  cases name? piece <;> rfl

theorem names_intercalate_of_isFileName {pieces : List String}
    (h : ∀ piece ∈ pieces, Disk.IsFileName piece) :
    names (ofText ("/".intercalate pieces)) = pieces := by
  have hslash : ∀ octets ∈ pieces.map ofText, slash ∉ octets := by
    rw [List.forall_mem_map]
    exact fun piece hpiece => slash_not_mem_ofText (h piece hpiece).slash
  have hname : ∀ piece ∈ pieces, (name? ∘ ofText) piece = some piece :=
    fun piece hpiece => name?_eq_some.mpr ⟨rfl, (h piece hpiece).proper⟩
  rw [ofText_intercalate, names_intercalate hslash, List.filterMap_map,
    List.filterMap_congr hname, List.filterMap_some]

end ServiceStubs.Path.Octets
