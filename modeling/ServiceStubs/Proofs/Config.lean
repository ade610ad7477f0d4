import Mathlib.Data.List.Forall2
import ServiceStubs.Config
import ServiceStubs.Proofs.Json.Members

/-!
# Which texts are configurations

A configuration is accepted in two forms.  One is an object: each of the three settings may be given
once, as a string or null, in any order and among any other members.  The other is a list of at most
three such values, which give the settings by position.  Every other text is malformed.
-/

namespace ServiceStubs

open ServiceStubs.Json (IsSetting IsDocument IsObject IsList Slot Sets Gives textsOf
  recognizes_setting Shape.StoresInOrder)

namespace Config

/-! ## The settings -/

/-- The three settings. -/
inductive Entry where
  | schema
  | services
  | target
  deriving DecidableEq

namespace Entry

/-- The key of the setting. -/
def key : Entry → String
  | schema => "JsonSchema"
  | services => "ControllerServicesNamespace"
  | target => "TargetProject"

/-- Its value in a configuration. -/
def get : Entry → Config → Option String
  | schema, c => c.schema
  | services, c => c.services
  | target, c => c.target

/-- The configuration with another value for it. -/
def put : Entry → Option String → Config → Config
  | schema, v, c => { c with schema := v }
  | services, v, c => { c with services := v }
  | target, v, c => { c with target := v }

/-- The setting as a field of a configuration; it is unset when its key is left out. -/
def slot (e : Entry) : Slot Config :=
  ⟨Option String, e.key, e.get, e.put, _, _, recognizes_setting, some none⟩

end Entry

/-- The value of a setting among the members of an object: its key occurs at most once. -/
inductive Setting (key : String) : List (String × List Char) → Option String → Prop where
  | absent : Setting key [] none
  | here {text : List Char} {members : List (String × List Char)} {v : Option String}
      (hvalue : IsSetting text v) (hafter : key ∉ members.map Prod.fst) :
      Setting key ((key, text) :: members) v
  | later {name : String} {text : List Char} {members : List (String × List Char)}
      {v : Option String} (hname : name ≠ key) (hrest : Setting key members v) :
      Setting key ((name, text) :: members) v

/-- Settings by position: those that are left out are unset. -/
inductive InOrder : List (List Char) → Config → Prop where
  | intro {values : List (List Char)} {settings : List (Option String)}
      (h : List.Forall₂ IsSetting values settings) (hlength : settings.length ≤ 3) :
      InOrder values ⟨settings[0]?.join, settings[1]?.join, settings[2]?.join⟩

/-- The text writes the configuration, in one of its two forms. -/
inductive Written (config : Config) (text : String) : Prop where
  | object {members : List (String × List Char)} (h : IsDocument (IsObject members) text)
      (hsettings : ∀ e : Entry, Setting e.key members (e.get config))
  | list {values : List (List Char)} (h : IsDocument (IsList values) text)
      (hsettings : InOrder values config)

/-! ## Fields -/

/-- The fields of a configuration. -/
def slots : List (Slot Config) := [Entry.schema, .services, .target].map Entry.slot

theorem isLaidOut : shape.IsLaidOut slots where
  fields := rfl
  nodup := by decide
  get_put := by simp [slots, Entry.slot, Entry.get, Entry.put]
  get_put_of_ne := by simp [slots, Entry.slot, Entry.get, Entry.put]
  blank := by simp [slots, Entry.slot, Entry.get, shape]
  ext := by
    rintro ⟨schema, services, target⟩ ⟨schema', services', target'⟩ h
    simpa [slots, Entry.slot, Entry.get] using h

theorem slot_mem (e : Entry) : e.slot ∈ slots :=
  List.mem_map_of_mem (by cases e <;> decide)

section

variable {key : String} {members : List (String × List Char)} {v : Option String} {e : Entry}
variable {text : List Char} {set : Config → Config} {config : Config}

theorem sets_key : Sets slots e.key text set ↔ ∃ v, IsSetting text v ∧ set = e.put v :=
  isLaidOut.sets_key (slot_mem e)

/-- The value of a setting is what the texts for its key give. -/
theorem setting_iff_gives :
    Setting key members v ↔ Gives IsSetting (some none) (textsOf key members) v := by
  induction members with
  | nil =>
    constructor
    · rintro ⟨⟩
      exact .absent rfl
    · rintro ⟨⟨⟩⟩
      exact .absent
  | cons member members ih =>
    obtain ⟨name, text⟩ := member
    by_cases hname : name = key
    · rw [hname, Json.textsOf_cons_self, Gives.cons_iff, Json.textsOf_eq_nil]
      constructor
      · intro h
        cases h with
        | here hvalue hafter => exact ⟨hafter, hvalue⟩
        | later hother => exact absurd rfl hother
      · rintro ⟨hafter, hvalue⟩
        exact .here hvalue hafter
    · rw [Json.textsOf_cons_of_ne hname, ← ih]
      constructor
      · intro h
        cases h with
        | here => exact absurd rfl hname
        | later _ hrest => exact hrest
      · exact .later hname

theorem setting_iff_isGiven :
    Setting e.key members (e.get config) ↔ e.slot.IsGiven members config :=
  setting_iff_gives

/-- The members of an object are stored exactly if each setting is given at most once. -/
theorem stores_iff :
    shape.Stores (Sets slots) [] shape.blank members config ↔
      ∀ e : Entry, Setting e.key members (e.get config) := by
  rw [isLaidOut.stores_blank_iff]
  constructor
  · intro h e
    exact setting_iff_isGiven.mpr (h e.slot (slot_mem e))
  · intro h
    rw [slots, List.forall_mem_map]
    exact fun e _ => setting_iff_isGiven.mp (h e)

end

/-! ## Values one by one -/

/-- The configuration with given values for some of its settings. -/
def assign (record : Config) (entries : List Entry) (settings : List (Option String)) : Config :=
  (entries.zip settings).foldl (fun c entry => entry.1.put entry.2 c) record

theorem storesInOrder_entries {entries : List Entry} {record config : Config}
    {values : List (List Char)} :
    Shape.StoresInOrder (Sets slots) (entries.map fun e => e.slot.field) record values config ↔
      ∃ settings, List.Forall₂ IsSetting values settings ∧ settings.length ≤ entries.length ∧
        config = assign record entries settings := by
  have hoptional : ∀ f ∈ entries.map (fun e => e.slot.field), f.required = false := by
    simp only [List.mem_map, forall_exists_index, and_imp, forall_apply_eq_imp_iff₂, Entry.slot,
      Slot.field, Json.Field.of, Option.isNone_some, implies_true]
  induction entries generalizing record values with
  | nil =>
    constructor
    · rintro ⟨-⟩
      exact ⟨[], .nil, Nat.le_refl _, rfl⟩
    · rintro ⟨settings, hsettings, hlength, rfl⟩
      obtain rfl := List.length_eq_zero_iff.mp (Nat.le_zero.mp hlength)
      cases hsettings
      exact .done hoptional
  | cons e entries ih =>
    have hrest := List.forall_mem_cons.mp hoptional
    constructor
    · intro h
      cases h with
      | done => exact ⟨[], .nil, Nat.zero_le _, rfl⟩
      | field hsets hstores =>
        obtain ⟨v, hv, rfl⟩ := sets_key.mp hsets
        obtain ⟨settings, hsettings, hlength, rfl⟩ := (ih hrest.2).mp hstores
        exact ⟨v :: settings, .cons hv hsettings, Nat.succ_le_succ hlength, rfl⟩
    · rintro ⟨settings, hsettings, hlength, rfl⟩
      cases hsettings with
      | nil => exact .done hoptional
      | cons hv hsettings =>
        exact .field (sets_key.mpr ⟨_, hv, rfl⟩)
          ((ih hrest.2).mpr ⟨_, hsettings, Nat.le_of_succ_le_succ hlength, rfl⟩)

theorem assign_eq {settings : List (Option String)} (h : settings.length ≤ 3) :
    assign shape.blank [.schema, .services, .target] settings =
      ⟨settings[0]?.join, settings[1]?.join, settings[2]?.join⟩ := by
  match settings, h with
  | [], _ => rfl
  | [_], _ => rfl
  | [_, _], _ => rfl
  | [_, _, _], _ => rfl

theorem storesInOrder_iff {values : List (List Char)} {config : Config} :
    Shape.StoresInOrder (Sets slots) shape.fields shape.blank values config ↔
      InOrder values config := by
  have hfields : shape.fields = [Entry.schema, .services, .target].map fun e => e.slot.field := rfl
  rw [hfields, storesInOrder_entries]
  constructor
  · rintro ⟨settings, hsettings, hlength, rfl⟩
    rw [assign_eq hlength]
    exact .intro hsettings hlength
  · rintro ⟨hsettings, hlength⟩
    exact ⟨_, hsettings, hlength, (assign_eq hlength).symm⟩

/-! ## Both forms -/

theorem readDocument_eq_ok {text : String} {config : Config} :
    Json.readDocument shape.read text = .ok config ↔ config.Written text := by
  rw [isLaidOut.recognizes.readDocument_eq_ok]
  constructor
  · rintro ⟨gap, word, gap', hgap, hword, hgap', htext⟩
    cases hword with
    | object h hstores =>
      exact .object ⟨gap, word, gap', hgap, h, hgap', htext⟩ (stores_iff.mp hstores)
    | list h hstores =>
      exact .list ⟨gap, word, gap', hgap, h, hgap', htext⟩ (storesInOrder_iff.mp hstores)
  · rintro (⟨⟨gap, word, gap', hgap, h, hgap', htext⟩, hsettings⟩ |
      ⟨⟨gap, word, gap', hgap, h, hgap', htext⟩, hsettings⟩)
    · exact ⟨gap, word, gap', hgap, .object h (stores_iff.mpr hsettings), hgap', htext⟩
    · exact ⟨gap, word, gap', hgap, .list h (storesInOrder_iff.mpr hsettings), hgap', htext⟩

end Config

/-- A text is accepted as a configuration exactly if it is an object or a list that writes one, and
then as that one; any other text is malformed, and the error names its path. -/
theorem config_read (path text : String) :
    (∀ config, Config.read path text = .ok config ↔ config.Written text) ∧
      ((∃ reason, Config.read path text = .error (.configMalformed path reason)) ↔
        ¬ ∃ config : Config, config.Written text) := by
  have hok : ∀ config, Config.read path text = .ok config ↔ config.Written text := by
    intro config
    rw [← Config.readDocument_eq_ok, Config.read]
    cases Json.readDocument Config.shape.read text with
    | ok found => simp only [Except.ok.injEq]
    | error e => exact ⟨nofun, nofun⟩
  refine ⟨hok, ?_⟩
  simp only [← hok]
  rw [Config.read]
  cases Json.readDocument Config.shape.read text with
  | ok config => exact ⟨nofun, fun hnone => absurd ⟨config, rfl⟩ hnone⟩
  | error e => exact ⟨fun _ => nofun, fun _ => ⟨e.message, rfl⟩⟩

/-- The empty list is no object, but it is taken for the configuration with nothing set. -/
theorem config_read_list :
    Config.read "analyzer.config.json" "[]" = .ok ⟨none, none, none⟩ ∧
      ∀ members, ¬ IsDocument (IsObject members) "[]" := by
  refine ⟨by decide +kernel, ?_⟩
  rintro members ⟨gap, word, gap', hgap, ⟨row, -, rfl⟩, -, htext⟩
  have hskip := congrArg Json.skipBlanks htext
  rw [List.cons_append, Json.skipBlanks_gap_cons hgap (by decide)] at hskip
  exact absurd (List.cons.inj hskip).1 (by decide)

end ServiceStubs
