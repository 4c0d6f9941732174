import TemplateLint.Json.Decode
import TemplateLint.Uri.Reading

/-!
# Places

Decoders for what tells a place to a server: URIs, positions and ranges in documents, and
documents by their URIs.  Where only the shape of a value matters, its decoder gives the
unit.
-/

namespace TemplateLint.Server

open Json.Decode

/-- A decoder of which only the faults matter. -/
abbrev Shape : Type := Json.Decoder Unit

/-- The shape of what a decoder decodes. -/
def unitOf (decode : Json.Decoder α) : Shape := fun value => (decode value).map fun _ => ()

/-- A field that a shape requires. -/
def needs (name : String) (decode : Json.Decoder α) : Slot Unit :=
  required name decode fun _ s => s

/-- A field that a shape may leave out. -/
def admits (name : String) (decode : Json.Decoder α) : Slot Unit :=
  possible name decode fun _ s => s

/-- The shape of a record. -/
def shape (type : String) (slots : List (Slot Unit)) : Shape := record type slots ()

/-- A field that was decoded, which a record has whose required fields were there. -/
def present (name : String) : Option α → Except Json.Fault α
  | some a => .ok a
  | none => .error (.missingField name)

/-- The URI that a text denotes. -/
def uriOfText (s : String) : Except Json.Fault Uri :=
  match Uri.parse s with
  | .ok u => .ok u
  | .error fault => .error (.other (fault.message ++ ": " ++ Text.quote s))

/-- A URI. -/
def uri : Json.Decoder Uri
  | .text s => uriOfText s
  | other => .error (wrongType other "a string representing an URL")

/-- The shape of a position that is held somewhere. -/
def positionHeld (holding : Holding) : Shape :=
  recordHeld holding "Position" [needs "line" word32, needs "character" word32] ()

/-- The shape of a position. -/
def position : Shape := positionHeld .inPlace

/-- The shape of a range between positions. -/
def range : Shape := shape "Range" [needs "start" position, needs "end" position]

/-- The shape of a place in any document. -/
def location : Shape := shape "Location" [needs "uri" uri, needs "range" range]

/-- The URI of a document that is held somewhere. -/
def identifierHeld (holding : Holding) : Json.Decoder Uri := fun value => do
  let slots : List (Slot (Option Uri)) := [required "uri" uri fun u _ => some u]
  present "uri" (← recordHeld holding "TextDocumentIdentifier" slots none value)

/-- The URI of a document. -/
def identifier : Json.Decoder Uri := identifierHeld .inPlace

/-- The fields of a place in a document, held somewhere. -/
def placeSlots (holding : Holding) : List (Slot Unit) :=
  [needs "textDocument" (identifierHeld holding), needs "position" (positionHeld holding)]

end TemplateLint.Server
