import TemplateLint.Json.Decode

/-!
# Calls and responses

The messages of JSON-RPC 2.0.  A call has a method and perhaps parameters; a call with an
id is a request, which is answered by a response with the same id, and a call without one
is a notification.
-/

namespace TemplateLint.Server

/-- The id of a request. -/
inductive Id where
  | number (value : Int)
  | text (value : String)
  | null
deriving DecidableEq

/-- The written form of an id. -/
def Id.toValue : Id → Json.Value
  | number i => .number (.integer i)
  | text s => .text s
  | null => .null

/-- The id that a value denotes. -/
def Id.decode : Json.Decoder Id
  | .number (.integer i) =>
    if isSigned 63 i then .ok (number i) else .error (.noVariant "Id")
  | .text s => .ok (text s)
  | .null => .ok null
  | _ => .error (.noVariant "Id")

/-- A call. -/
structure Call where
  method : String
  params : Option Json.Value
  id : Option Id

namespace Call

/-- The version of the protocol. -/
def version : String := "2.0"

/-- The version of the protocol that a value denotes. -/
def decodeVersion : Json.Decoder Unit := fun value => do
  let name ← Json.Decode.text value
  if name = version then return () else throw (.other "expected JSON-RPC version \"2.0\"")

/-- The fields of a call. -/
def slots : List (Json.Decode.Slot Call) :=
  [Json.Decode.required "jsonrpc" decodeVersion fun () c => c,
    Json.Decode.slot "method" Json.Decode.text (fun s c => { c with method := s }) false true,
    Json.Decode.slot "params" Json.Decode.any
      (fun v c => { c with params := some v.merged }) false true,
    Json.Decode.slot "id" Id.decode (fun i c => { c with id := some i }) false true]

/-- The call that a value denotes. -/
def decode : Json.Decoder Call := Json.Decode.record "Request" slots ⟨"", none, none⟩

end Call

/-! ### Responses -/

/-- An error that answers a request. -/
structure Error where
  code : Int
  message : String
  data : Option Json.Value

namespace Error

/-- The error of a message that is no JSON. -/
def unreadable : Error := ⟨-32700, "Parse error", none⟩

/-- The error of a message that is no call, or not one for this time. -/
def invalidRequest : Error := ⟨-32600, "Invalid request", none⟩

/-- The error of a method that is not implemented. -/
def methodNotFound : Error := ⟨-32601, "Method not found", none⟩

/-- The error of a method that is not known. -/
def unknownMethod (method : String) : Error := { methodNotFound with data := some (.text method) }

/-- The error of parameters that are refused. -/
def invalidParams (message : String) : Error := ⟨-32602, message, none⟩

/-- The error of a request that is canceled. -/
def canceled : Error := ⟨-32800, "Canceled", none⟩

/-- The error of a request that comes before the server is started. -/
def notStarted : Error := ⟨-32002, "Server not initialized", none⟩

/-- The written form of an error. -/
def toValue (e : Error) : Json.Value :=
  .object ([("code", .number (.integer e.code)), ("message", .text e.message)]
    ++ match e.data with
      | some data => [("data", data)]
      | none => [])

end Error

/-- The answer to a request: the request's id, and a result or an error. -/
structure Response where
  id : Id
  outcome : Except Error Json.Value

/-- The written form of a response. -/
def Response.toValue (r : Response) : Json.Value :=
  .object [("jsonrpc", .text Call.version),
    (match r.outcome with
    | .ok result => ("result", result)
    | .error e => ("error", e.toValue)),
    ("id", r.id.toValue)]

end TemplateLint.Server
