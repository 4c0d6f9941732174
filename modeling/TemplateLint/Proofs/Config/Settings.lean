import Mathlib.Data.List.Nodup
import TemplateLint.Settings

/-!
# Reading settings

What is read from the value that an editor sends.  A record of settings counts as a whole: if
each of its fields denotes something, every one of them is read, wherever it stands among the
members, and a field without a member has its default; if one field denotes nothing, the
settings are the default ones.  Reading undoes writing, and it makes no difference whether a
record is sent by itself or under the key of the program.
-/

namespace TemplateLint

/-! ### Members -/

namespace Json.Members

theorem get?_eq_none_iff {members : Members} {key : String} :
  members.get? key = none ↔ key ∉ members.keys
  := by
  induction members with
  | nil => simp [get?, keys]
  | cons pair rest ih =>
    obtain ⟨k, v⟩ := pair
    rw [keys] at ih ⊢
    by_cases same : k = key
    · simp [get?, same]
    · have other : ¬ key = k := fun h => same h.symm
      simp [get?, same, other, ih]

/-- Where no key occurs twice, lookup finds exactly the members. -/
theorem get?_eq_some_iff {members : Members} (distinct : members.keys.Nodup) {key : String}
    {value : Value} :
  members.get? key = some value ↔ (key, value) ∈ members
  := by
  induction members with
  | nil => simp [get?]
  | cons pair rest ih =>
    obtain ⟨k, v⟩ := pair
    rw [keys, List.map_cons, List.nodup_cons] at distinct
    obtain ⟨absent, distinct⟩ := distinct
    by_cases same : k = key
    · subst same
      have later : (k, value) ∉ rest := fun present => absent (List.mem_map.mpr ⟨_, present, rfl⟩)
      simp [get?, later, eq_comm]
    · have other : ¬ key = k := fun h => same h.symm
      simp [get?, same, other, ih distinct]

end Json.Members

/-! ### What values denote -/

namespace RunMode

theorem ofName?_eq_some_iff {name : String} {mode : RunMode} :
  ofName? name = some mode ↔ name = mode.name
  := by
  rw [ofName?]
  constructor
  · intro named
    split at named
    · obtain rfl := Option.some.inj named
      assumption
    · split at named
      · obtain rfl := Option.some.inj named
        assumption
      · cases named
  · rintro rfl
    cases mode <;> rfl

/-- A mode is denoted by its name, or by an object that has nothing but the name. -/
def IsDenoted (value : Json.Value) (mode : RunMode) : Prop :=
  value = .text mode.name ∨ value = .object [(mode.name, .null)]

theorem ofValue?_eq_some_iff {value : Json.Value} {mode : RunMode} :
  ofValue? value = some mode ↔ IsDenoted value mode
  := by
  rw [ofValue?.eq_def, IsDenoted]
  split
  · simp [ofName?_eq_some_iff]
  · simp [ofName?_eq_some_iff]
  · rename_i text object
    constructor
    · rintro ⟨⟩
    · rintro (rfl | rfl)
      · cases text _ rfl
      · cases object _ rfl

end RunMode

theorem Options.ofValue?_eq_some_iff {value : Json.Value} {options : Options} :
  ofValue? value = some options ↔ value = options.toValue
  := by
  obtain ⟨members⟩ := options
  cases value <;> simp [ofValue?, toValue]

namespace Settings

theorem boolOf?_eq_some_iff {value : Json.Value} {b : Bool} :
  boolOf? value = some b ↔ value = .bool b
  := by
  cases value <;> simp [boolOf?]

/-! ### Fields -/

variable {α : Type} {members : Json.Members}

/-- What a field is read as: what its member denotes, or something else if there is none. -/
def fieldOf (read : Json.Value → Option α) (other : α) : Option Json.Value → Option α
  | some value => read value
  | none => some other

/-- Setting the fields one after another reads each of them from its member, and fails if one
of the members denotes nothing. -/
theorem setFields_eq (distinct : members.keys.Nodup) (s : Settings) :
  s.setFields members = do
    let enable ← fieldOf boolOf? s.enable (members.get? "enable")
    let run ← fieldOf RunMode.ofValue? s.run (members.get? "run")
    let config ← fieldOf Options.ofValue? s.config (members.get? "config")
    return ⟨enable, run, config⟩
  := by
  induction members generalizing s with
  | nil => rfl
  | cons pair rest ih =>
    obtain ⟨name, value⟩ := pair
    rw [Json.Members.keys, List.map_cons, List.nodup_cons] at distinct
    obtain ⟨absent, distinct⟩ := distinct
    have later : Json.Members.get? rest name = none := Json.Members.get?_eq_none_iff.mpr absent
    have found (sought : String) : Json.Members.get? ((name, value) :: rest) sought
        = if name = sought then some value else Json.Members.get? rest sought := rfl
    simp only [found, setFields]
    by_cases enable : name = "enable"
    · subst enable
      cases denoted : boolOf? value with
      | none => simp [setField, denoted, fieldOf]
      | some b => simp [setField, denoted, fieldOf, ih distinct, later]
    by_cases run : name = "run"
    · subst run
      cases denoted : RunMode.ofValue? value with
      | none => simp [setField, denoted, fieldOf]
      | some mode => simp [setField, denoted, fieldOf, ih distinct, later]
    by_cases config : name = "config"
    · subst config
      cases denoted : Options.ofValue? value with
      | none => simp [setField, denoted, fieldOf]
      | some options => simp [setField, denoted, fieldOf, ih distinct, later]
    · simp [setField, enable, run, config, ih distinct]

/-- Whether the member of a name, if there is one, denotes something. -/
def Acceptable (denotes : Json.Value → α → Prop) (members : Json.Members) (name : String) : Prop :=
  ∀ value, (name, value) ∈ members → ∃ a, denotes value a

/-- Whether a field is what the member of a name denotes, or something else if there is none. -/
def IsRead (denotes : Json.Value → α → Prop) (members : Json.Members) (name : String)
    (other field : α) : Prop :=
  (∀ value, (name, value) ∈ members → denotes value field)
    ∧ (name ∉ members.keys → field = other)

theorem fieldOf_eq_some_iff (distinct : members.keys.Nodup) {read : Json.Value → Option α}
    {denotes : Json.Value → α → Prop} (reads : ∀ value a, read value = some a ↔ denotes value a)
    {name : String} {other field : α} :
  fieldOf read other (members.get? name) = some field ↔ IsRead denotes members name other field
  := by
  rw [IsRead, ← Json.Members.get?_eq_none_iff]
  simp only [← Json.Members.get?_eq_some_iff distinct]
  cases members.get? name with
  | none => simp [fieldOf, eq_comm]
  | some value => simp [fieldOf, reads]

theorem exists_isRead_iff (distinct : members.keys.Nodup) {denotes : Json.Value → α → Prop}
    {name : String} {other : α} :
  (∃ field, IsRead denotes members name other field) ↔ Acceptable denotes members name
  := by
  simp only [IsRead, Acceptable, ← Json.Members.get?_eq_none_iff,
    ← Json.Members.get?_eq_some_iff distinct]
  cases members.get? name with
  | none => simp
  | some value => simp

/-! ### Records -/

/-- The record of settings in a value: what stands under the key of the program, or else the
value itself. -/
def recordIn (value : Json.Value) : Json.Value := (value.member? sectionKey).getD value

/-- Whether each field of a record denotes something, if it is present. -/
structure AreAcceptable (members : Json.Members) : Prop where
  enable : Acceptable (fun value (b : Bool) => value = .bool b) members "enable"
  run : Acceptable RunMode.IsDenoted members "run"
  config : Acceptable (fun value (o : Options) => value = o.toValue) members "config"

/-- Whether the fields of settings are those of a record. -/
structure AreRead (members : Json.Members) (s : Settings) : Prop where
  enable : IsRead (fun value b => value = .bool b) members "enable" true s.enable
  run : IsRead RunMode.IsDenoted members "run" .onType s.run
  config : IsRead (fun value o => value = o.toValue) members "config" .empty s.config

theorem setFields_default_eq_some_iff (distinct : members.keys.Nodup) {s : Settings} :
  default.setFields members = some s ↔ AreRead members s
  := by
  have enable (b : Bool) : fieldOf boolOf? default.enable (members.get? "enable") = some b
      ↔ IsRead (fun value b => value = .bool b) members "enable" true b :=
    fieldOf_eq_some_iff distinct fun _ _ => boolOf?_eq_some_iff
  have run (mode : RunMode) :
      fieldOf RunMode.ofValue? default.run (members.get? "run") = some mode
      ↔ IsRead RunMode.IsDenoted members "run" .onType mode :=
    fieldOf_eq_some_iff distinct fun _ _ => RunMode.ofValue?_eq_some_iff
  have config (options : Options) :
      fieldOf Options.ofValue? default.config (members.get? "config") = some options
      ↔ IsRead (fun value o => value = o.toValue) members "config" .empty options :=
    fieldOf_eq_some_iff distinct fun _ _ => Options.ofValue?_eq_some_iff
  obtain ⟨b, mode, options⟩ := s
  simp only [setFields_eq distinct, Option.bind_eq_bind, Option.bind_eq_some_iff, enable, run,
    config]
  constructor
  · rintro ⟨_, first, _, second, _, third, ⟨⟩⟩
    exact ⟨first, second, third⟩
  · rintro ⟨first, second, third⟩
    exact ⟨_, first, _, second, _, third, rfl⟩

/-- A record denotes settings exactly if each of its fields denotes something. -/
theorem exists_areRead_iff (distinct : members.keys.Nodup) :
  (∃ s, AreRead members s) ↔ AreAcceptable members
  := by
  constructor
  · rintro ⟨s, read⟩
    exact ⟨(exists_isRead_iff distinct).mp ⟨_, read.enable⟩,
      (exists_isRead_iff distinct).mp ⟨_, read.run⟩,
      (exists_isRead_iff distinct).mp ⟨_, read.config⟩⟩
  · intro acceptable
    obtain ⟨b, enable⟩ := (exists_isRead_iff distinct).mpr acceptable.enable
    obtain ⟨mode, run⟩ := (exists_isRead_iff distinct).mpr acceptable.run
    obtain ⟨options, config⟩ := (exists_isRead_iff distinct).mpr acceptable.config
    exact ⟨⟨b, mode, options⟩, enable, run, config⟩

theorem ofValue_eq (value : Json.Value) :
  ofValue value = (ofRecord? (recordIn value)).getD default
  := rfl

/-- A record whose fields all denote something is read field by field. -/
theorem areRead_ofValue (distinct : members.keys.Nodup) {value : Json.Value}
    (record : recordIn value = .object members) (acceptable : AreAcceptable members) :
  AreRead members (ofValue value)
  := by
  obtain ⟨s, read⟩ := (exists_areRead_iff distinct).mpr acceptable
  have set := (setFields_default_eq_some_iff distinct).mpr read
  rw [ofValue_eq, record, ofRecord?, set]
  apply read

/-- A record with a field that denotes nothing stands for the default settings. -/
theorem ofValue_eq_default (distinct : members.keys.Nodup) {value : Json.Value}
    (record : recordIn value = .object members) (malformed : ¬ AreAcceptable members) :
  ofValue value = default
  := by
  have unset : default.setFields members = none := by
    apply Option.eq_none_iff_forall_ne_some.mpr
    intro s set
    apply malformed
    apply (exists_areRead_iff distinct).mp
    exact ⟨s, (setFields_default_eq_some_iff distinct).mp set⟩
  rw [ofValue_eq, record, ofRecord?, unset]
  rfl

/-! ### Values -/

theorem ofValue_of_member {outer inner : Json.Value}
    (within : outer.member? sectionKey = some inner) :
  ofValue outer = (ofRecord? inner).getD default
  := by
  rw [ofValue_eq, recordIn, within]
  rfl

theorem ofValue_of_no_member {value : Json.Value} (bare : value.member? sectionKey = none) :
  ofValue value = (ofRecord? value).getD default
  := by
  rw [ofValue_eq, recordIn, bare]
  rfl

/-- Reading undoes writing. -/
theorem ofRecord?_toValue (s : Settings) :
  ofRecord? s.toValue = some s
  := by
  have distinct : (Json.Members.keys [("enable", .bool s.enable), ("run", .text s.run.name),
      ("config", s.config.toValue)]).Nodup := by
    simp [Json.Members.keys]
  rw [toValue, ofRecord?, setFields_default_eq_some_iff distinct]
  constructor <;> simp [IsRead, RunMode.IsDenoted, Json.Members.keys]

/-- Settings are read from what they are written as, by itself or under the key of the program,
whatever else stands beside it.  A value without that key is read in the same way under it.  In a
record, if all fields denote something, each is read from its member, wherever that stands
and whatever other members there are, and has its default without one; if one of them denotes
nothing, no field is taken over. -/
theorem ofValue_reads_records :
  (∀ s : Settings, ofValue s.toValue = s)
    ∧ (∀ (s : Settings) (outer : Json.Value),
      outer.member? sectionKey = some s.toValue → ofValue outer = s)
    ∧ (∀ inner outer : Json.Value, inner.member? sectionKey = none →
      outer.member? sectionKey = some inner → ofValue outer = ofValue inner)
    ∧ ∀ (value : Json.Value) (members : Json.Members), recordIn value = .object members →
      members.keys.Nodup →
        (AreAcceptable members → AreRead members (ofValue value))
          ∧ (¬ AreAcceptable members → ofValue value = default)
  := by
  have unnested (s : Settings) : s.toValue.member? sectionKey = none := by
    simp [toValue, Json.Value.member?, Json.Members.get?, sectionKey]
  refine ⟨?_, ?_, ?_, ?_⟩
  · intro s
    rw [ofValue_of_no_member (unnested s), ofRecord?_toValue, Option.getD_some]
  · intro s outer within
    rw [ofValue_of_member within, ofRecord?_toValue, Option.getD_some]
  · intro inner outer bare within
    rw [ofValue_of_member within, ofValue_of_no_member bare]
  · intro value members record distinct
    exact ⟨areRead_ofValue distinct record, ofValue_eq_default distinct record⟩

/-- A record under the key of the program, without one of the fields and with another member. -/
def nested : Json.Value :=
  .object [("editor", .null), (sectionKey, .object [("colour", .list []),
    ("run", .object [("onSave", .null)]), ("enable", .bool false)])]

/-- A record in which one of the fields denotes nothing. -/
def malformed : Json.Value :=
  .object [("enable", .bool false), ("run", .number (.integer 42))]

theorem ofValue_reads_records_in_nested :
  (ofValue nested).enable = false ∧ (ofValue nested).run = .onSave
    ∧ (ofValue nested).config = .empty
    ∧ ofValue malformed = default
    ∧ ofValue (.object [(sectionKey, (ofValue nested).toValue), ("enable", .null)])
      = ofValue nested
  := by
  obtain ⟨_, under, _, records⟩ := ofValue_reads_records
  have acceptable : AreAcceptable [("colour", .list []), ("run", .object [("onSave", .null)]),
      ("enable", .bool false)] := by
    constructor <;> simp [Acceptable, RunMode.IsDenoted]
    use .onSave
    rfl
  have read := (records nested _ rfl (by simp [Json.Members.keys])).1 acceptable
  have enable : Json.Value.bool false = .bool (ofValue nested).enable := by
    apply read.enable.1
    simp
  have run : RunMode.IsDenoted (.object [("onSave", .null)]) (ofValue nested).run := by
    apply read.run.1
    simp
  have config := read.config.2 (by simp [Json.Members.keys])
  refine ⟨(Json.Value.bool.inj enable).symm, ?_, config, ?_, under _ _ rfl⟩
  · rw [← RunMode.ofValue?_eq_some_iff] at run
    apply (Option.some.inj run).symm
  · apply (records malformed _ rfl (by simp [Json.Members.keys])).2
    intro acceptable
    obtain ⟨mode, denoted⟩ := acceptable.run (.number (.integer 42)) (by simp)
    rcases denoted with number | number <;> cases number

end Settings

end TemplateLint
