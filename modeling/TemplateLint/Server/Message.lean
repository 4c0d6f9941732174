import TemplateLint.Json.Reader
import TemplateLint.Server.Call
import TemplateLint.Server.Place

/-!
# Messages

What an editor sends: calls, responses to calls of the server, and texts that are neither
and are refused.  A text is refused as no message before it is looked at whether anything
follows its value.
-/

namespace TemplateLint.Server

open Json.Decode

/-- The shape of an error in a response. -/
def errorShape : Shape :=
  shape "Error"
    [needs "code" (integerIn (isSigned 63) "i64"), needs "message" text, admits "data" any]

/-- The shape of a response, which has a result or an error. -/
def responseShape : Shape :=
  let outcome : Shape :=
    choice "ResponseKind"
      [merged "Ok" [needs "result" any] [] (), merged "Err" [needs "error" errorShape] [] ()]
  merged "Response" [needs "jsonrpc" Call.decodeVersion, needs "id" Id.decode]
    [fun others _ => outcome (.object others)] ()

/-- A message of an editor: a call, a response to a call of the server, or something that is
refused. -/
inductive Message where
  | call (content : Call)
  | response
  | refused (error : Error)

namespace Message

/-- The message that a value denotes. -/
def decode : Json.Decoder Message :=
  choice "Message"
    [fun value => (responseShape value).map fun () => .response,
      fun value => (Call.decode value).map .call]

/-- The message that a text denotes. -/
def ofText (s : String) : Message :=
  match Json.plainValue Json.depthLimit s.toList with
  | .error _ => .refused .unreadable
  | .ok (value, rest) =>
    match decode value with
    | .error _ => .refused .invalidRequest
    | .ok message => if (Json.skipBlank rest).isEmpty then message else .refused .unreadable

/-- The message that bytes denote. -/
def ofBytes (bytes : List UInt8) : Message :=
  match Text.decode? bytes with
  | some s => ofText s
  | none => .refused .unreadable

/-- Whether a message is refused. -/
def isRefused : Message → Bool
  | refused _ => true
  | _ => false

end Message

end TemplateLint.Server
