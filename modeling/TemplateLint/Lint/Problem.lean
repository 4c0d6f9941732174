import TemplateLint.Json.Printer
import TemplateLint.Json.Typed

/-!
# Problems

A problem that the linter reports: where it is, a code, and a message in one text or in
parts.  Problems are written as JSON records and read back from them; of a record only
the message is required.
-/

namespace TemplateLint

/-- The message of a problem: one text, or parts. -/
inductive Problem.Message where
  | text (content : String)
  | parts (parts : List String)
deriving DecidableEq, Repr

/-- A problem; lines count from one, columns from zero. -/
structure Problem where
  line : UInt32
  column : UInt32
  code : String
  msg : Problem.Message
deriving DecidableEq, Repr

namespace Problem

/-- A message as one text, with a space between its parts. -/
def Message.joined : Message → String
  | .text content => content
  | .parts ps => " ".intercalate ps

/-- The written form of a message. -/
def Message.toValue : Message → Json.Value
  | .text content => .text content
  | .parts ps => .list (ps.map Json.Value.text)

/-- The record of a problem. -/
def toValue (p : Problem) : Json.Value :=
  .object [("line", .number (.integer p.line.toNat)),
    ("column", .number (.integer p.column.toNat)), ("code", .text p.code),
    ("msg", p.msg.toValue)]

/-! ### Reading -/

/-- The message that a value denotes. -/
def Message.ofValue : Json.Value → Except Json.Fault Message
  | .text content => .ok (.text content)
  | .list items =>
    match items.mapM Json.Value.text? with
    | some ps => .ok (.parts ps)
    | none => .error (.noVariant "ProblemMessage")
  | _ => .error (.noVariant "ProblemMessage")

/-- A problem of which some fields were read. -/
structure Draft where
  line : Option UInt32
  column : Option UInt32
  code : Option String
  msg : Option Message

/-- The field of the line. -/
def lineField : Json.Field Draft where
  name := "line"
  read _ cs := (Json.word32 cs).map fun (n, rest) => (fun d => { d with line := some n }, rest)
  isRead d := d.line.isSome
  optional := true

/-- The field of the column. -/
def columnField : Json.Field Draft where
  name := "column"
  read _ cs := (Json.word32 cs).map fun (n, rest) => (fun d => { d with column := some n }, rest)
  isRead d := d.column.isSome
  optional := true

/-- The field of the code. -/
def codeField : Json.Field Draft where
  name := "code"
  read _ cs := (Json.text cs).map fun (s, rest) => (fun d => { d with code := some s }, rest)
  isRead d := d.code.isSome
  optional := true

/-- The field of the message. -/
def msgField : Json.Field Draft where
  name := "msg"
  read depth cs := do
    let (value, rest) ← Json.value depth cs
    let msg ← Message.ofValue value
    return (fun d => { d with msg := some msg }, rest)
  isRead d := d.msg.isSome
  optional := false

/-- A record of a problem. -/
def reader (depth : Nat) : Json.Reader Problem := fun cs => do
  let fields := [lineField, columnField, codeField, msgField]
  let (d, rest) ← Json.record "Problem" fields ⟨none, none, none, none⟩ depth cs
  match d.msg with
  | some msg => return (⟨d.line.getD 0, d.column.getD 0, d.code.getD "", msg⟩, rest)
  | none => throw (.missingField "msg")

/-- The problem that a text denotes. -/
def parse (s : String) : Except Json.Fault Problem :=
  Json.readWhole (reader Json.depthLimit) s

/-- The problems that a text denotes. -/
def parseList (s : String) : Except Json.Fault (List Problem) :=
  Json.readWhole (Json.list reader Json.depthLimit) s

/-- The text that denotes problems. -/
def printList (ps : List Problem) : String := Json.compact (.list (ps.map toValue))

end Problem

end TemplateLint
