import TemplateLint.Json.Fault

/-!
# Decoding values

Decoders for JSON values that have to be of a certain kind.  A record is decoded from an
object by the names of its fields, or from an array by their order; members of other names
are passed over.  The fields of an object are decoded in the order of its members, and the
first fault wins.  A merged record has parts whose fields stand among its own: it is decoded
from an object only, its own fields before those of its parts.
-/

namespace TemplateLint.Json

/-- A decoder of values. -/
abbrev Decoder (α : Type) : Type := Value → Except Fault α

namespace Decode

/-- The fault of a value of another kind than the expected one. -/
def wrongType (value : Value) (expected : String) : Fault :=
  .wrongType (Found.ofValue value) expected

/-- Any value. -/
def any : Decoder Value := .ok

/-- A string. -/
def text : Decoder String
  | .text s => .ok s
  | other => .error (wrongType other "a string")

/-- A truth value. -/
def bool : Decoder Bool
  | .bool b => .ok b
  | other => .error (wrongType other "a boolean")

/-- A number with a fraction, of which only its kind is told. -/
def float32 : Decoder Unit
  | .number _ => .ok ()
  | other => .error (wrongType other "f32")

/-- An integer with a property, which has a name. -/
def integerIn (holds : Int → Bool) (name : String) : Decoder Int
  | .number (.integer i) =>
    if holds i then .ok i else .error (.wrongValue (.integer i) name)
  | other => .error (wrongType other name)

/-- A natural number of 32 bits. -/
def word32 : Decoder Int := integerIn (isWord 32) "u32"

/-- An integer of 32 bits. -/
def integer32 : Decoder Int := integerIn (isSigned 31) "i32"

/-- A value that may be absent. -/
def optional (decode : Decoder α) : Decoder (Option α)
  | .null => .ok none
  | value => (decode value).map some

/-- An array. -/
def list (decode : Decoder α) : Decoder (List α)
  | .list items => items.mapM decode
  | other => .error (wrongType other "a sequence")

/-- An object whose keys and values are all of one kind. -/
def entries (key : String → Except Fault α) (decode : Decoder β) : Decoder (List (α × β))
  | .object members => members.mapM fun (k, value) => do return (← key k, ← decode value)
  | other => .error (wrongType other "a map")

/-- A value of one of several kinds, which together have a name. -/
def choice (type : String) (decoders : List (Decoder α)) : Decoder α := fun value =>
  let understood (decode : Decoder α) : Option α := (decode value).toOption
  match decoders.findSome? understood with
  | some a => .ok a
  | none => .error (.noVariant type)

/-- One of several names: a string that is one, or an object whose only key is one, with
the absent value under it. -/
def oneOf (expected : String) (find? : String → Option α) : Decoder α := fun value =>
  let named (name : String) : Except Fault α :=
    match find? name with
    | some a => .ok a
    | none => .error (.unknownVariant name expected)
  match value with
  | .text name => named name
  | .object [(name, .null)] => named name
  | .object [(name, other)] => (named name).bind fun _ => .error (wrongType other "unit")
  | .object _ => .error (.wrongValue .map "map with a single key")
  | other => .error (wrongType other "string or map")

/-! ### Records -/

/-- A field of a record that is being decoded: its name, how its value is put into the
record, whether it is required, and whether an array may end before it. -/
structure Slot (σ : Type) where
  name : String
  put : Value → Except Fault (σ → σ)
  required : Bool
  omissible : Bool

/-- The field of a name with a decoder for its value. -/
def slot (name : String) (decode : Decoder α) (set : α → σ → σ) (required omissible : Bool) :
    Slot σ :=
  ⟨name, fun value => (decode value).map set, required, omissible⟩

/-- A required field. -/
def required (name : String) (decode : Decoder α) (set : α → σ → σ) : Slot σ :=
  slot name decode set true false

/-- A field that may be missing or absent. -/
def possible (name : String) (decode : Decoder α) (set : Option α → σ → σ) : Slot σ :=
  slot name (optional decode) set false false

/-- The first name of a field that several members have. -/
def repeated? (slots : List (Slot σ)) : Members → Option String
  | [] => none
  | (name, _) :: rest =>
    if slots.any (·.name = name) && rest.any (·.1 = name) then some name
    else repeated? slots rest

/-- The record with a member put into the field of its name. -/
def putMember (slots : List (Slot σ)) (state : σ) (member : String × Value) : Except Fault σ :=
  match slots.find? (·.name = member.1) with
  | some s => (s.put member.2).map fun set => set state
  | none => .ok state

/-- The record with the members of an object put into its fields, none of them repeated and
none of the required ones missing. -/
def putMembers (slots : List (Slot σ)) (members : Members) (start : σ) : Except Fault σ := do
  if let some name := repeated? slots members then throw (.repeatedField name)
  let state ← members.foldlM (putMember slots) start
  match slots.find? fun s => s.required && (Members.get? members s.name).isNone with
  | some s => throw (.missingField s.name)
  | none => return state

/-- A number of elements in words. -/
def elementCount (count : Nat) : String :=
  toString count ++ (if count = 1 then " element" else " elements")

/-- Where a value is held while it is decoded: in its place, or set aside until the own
fields of the merged record around it are decoded. -/
inductive Holding where
  | inPlace
  | aside
deriving DecidableEq

/-- What is expected instead of an array with more elements than the record has fields. -/
def Holding.limit : Holding → Nat → String
  | inPlace, _ => "fewer elements in array"
  | aside, total => elementCount total ++ " in sequence"

/-- The record with elements put into its fields in order. -/
def putElements (holding : Holding) (type : String) (total : Nat) :
    Nat → List (Slot σ) → List Value → σ → Except Fault σ
  | _, [], [], state => .ok state
  | index, [], rest, _ => .error (.wrongLength (index + rest.length) (holding.limit total))
  | index, s :: slots, [], state =>
    if s.omissible then putElements holding type total (index + 1) slots [] state
    else .error (.wrongLength index ("struct " ++ type ++ " with " ++ elementCount total))
  | index, s :: slots, value :: rest, state => do
    let set ← s.put value
    putElements holding type total (index + 1) slots rest (set state)

/-- A record of a value that is held somewhere, from the state in which none of its fields
is decoded. -/
def recordHeld (holding : Holding) (type : String) (slots : List (Slot σ)) (start : σ) :
    Decoder σ
  | .object members => putMembers slots members start
  | .list items => putElements holding type slots.length 0 slots items start
  | other => .error (wrongType other ("struct " ++ type))

/-- A record, from the state in which none of its fields is decoded. -/
def record (type : String) (slots : List (Slot σ)) (start : σ) : Decoder σ :=
  recordHeld .inPlace type slots start

/-! ### Merged records -/

/-- A merged record: after its own fields, its parts are decoded one after another from the
members of the object. -/
def merged (type : String) (slots : List (Slot σ)) (parts : List (Members → σ → Except Fault σ))
    (start : σ) : Decoder σ
  | .object members => do
    let state ← putMembers slots members start
    let others := members.filter fun member => !(slots.any (·.name = member.1))
    parts.foldlM (fun state part => part others state) state
  | other => .error (wrongType other ("struct " ++ type))

end Decode

end TemplateLint.Json
