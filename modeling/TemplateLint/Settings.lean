import TemplateLint.Json.Typed
import TemplateLint.Options

/-!
# Editor settings

What the editor says about the linter: whether it is enabled, when it runs, and options
that take precedence over all configuration files.  Settings are read from a record of
three optional fields, which may stand under the key of the program in a larger object;
a malformed record stands for the default settings as a whole.
-/

namespace TemplateLint

/-- When documents are checked: at every change, or when they are saved. -/
inductive RunMode where
  | onType
  | onSave
deriving DecidableEq, Repr, Inhabited

namespace RunMode

/-- The name of a mode. -/
def name : RunMode → String
  | onType => "onType"
  | onSave => "onSave"

/-- The mode of a name. -/
def ofName? (s : String) : Option RunMode :=
  if s = "onType" then some onType else if s = "onSave" then some onSave else none

/-- The mode that a value denotes: its name, or an object with the name as the only key
and the absent value under it. -/
def ofValue? : Json.Value → Option RunMode
  | .text s => ofName? s
  | .object [(key, .null)] => ofName? key
  | _ => none

end RunMode

/-- The settings of the editor. -/
structure Settings where
  enable : Bool
  run : RunMode
  config : Options
deriving Inhabited

namespace Settings

/-- The settings where the editor says nothing. -/
def default : Settings := ⟨true, .onType, Options.empty⟩

/-- The key under which settings stand in a larger object. -/
def sectionKey : String := "puglint"

/-- The options of the editor, unless there are none. -/
def inlineOptions (s : Settings) : Option Options :=
  if s.config.isEmpty then none else some s.config

/-- The object that denotes the settings. -/
def toValue (s : Settings) : Json.Value :=
  .object [("enable", .bool s.enable), ("run", .text s.run.name), ("config", s.config.toValue)]

/-! ### Reading a value -/

/-- The truth value that a value denotes. -/
def boolOf? : Json.Value → Option Bool
  | .bool b => some b
  | _ => none

/-- The settings with the field of a name set to what a value denotes; other names are
passed over. -/
def setField (s : Settings) (name : String) (value : Json.Value) : Option Settings :=
  if name = "enable" then (boolOf? value).map fun b => { s with enable := b }
  else if name = "run" then (RunMode.ofValue? value).map fun r => { s with run := r }
  else if name = "config" then (Options.ofValue? value).map fun o => { s with config := o }
  else some s

/-- The settings with fields set one after another. -/
def setFields : Settings → List (String × Json.Value) → Option Settings
  | s, [] => some s
  | s, (name, value) :: rest => (s.setField name value).bind fun next => next.setFields rest

/-- The names of the fields in order. -/
def fieldNames : List String := ["enable", "run", "config"]

/-- The settings that a record denotes. -/
def ofRecord? : Json.Value → Option Settings
  | .object members => default.setFields members
  | .list items =>
    if items.length ≤ fieldNames.length then default.setFields (fieldNames.zip items) else none
  | _ => none

/-- The settings that the editor sends. -/
def ofValue (value : Json.Value) : Settings :=
  (ofRecord? ((value.member? sectionKey).getD value)).getD default

/-! ### Reading a text -/

/-- Settings of which some fields were read. -/
structure Draft where
  enable : Option Bool
  run : Option RunMode
  config : Option Json.Members

/-- The field of truth values. -/
def enableField : Json.Field Draft where
  name := "enable"
  read _ cs := (Json.bool cs).map fun (b, rest) => (fun d => { d with enable := some b }, rest)
  isRead d := d.enable.isSome
  optional := true

/-- The field of modes. -/
def runField : Json.Field Draft where
  name := "run"
  read depth cs :=
    (Json.oneOf "`onType` or `onSave`" RunMode.ofName? depth cs).map fun (r, rest) =>
      (fun d => { d with run := some r }, rest)
  isRead d := d.run.isSome
  optional := true

/-- The field of options. -/
def configField : Json.Field Draft where
  name := "config"
  read depth cs :=
    (Json.members depth cs).map fun (m, rest) => (fun d => { d with config := some m }, rest)
  isRead d := d.config.isSome
  optional := true

/-- Settings from those fields that were read. -/
def ofDraft (d : Draft) : Settings :=
  ⟨d.enable.getD default.enable, d.run.getD default.run,
    (d.config.map Options.mk).getD default.config⟩

/-- The settings that a text denotes. -/
def parse (s : String) : Except Json.Fault Settings :=
  let reader := Json.record "EditorSettings" [enableField, runField, configField]
    ⟨none, none, none⟩ Json.depthLimit
  (Json.readWhole reader s).map ofDraft

end Settings

end TemplateLint
