import TemplateLint.Server.Message
import TemplateLint.Text.Blank

/-!
# Frames

Messages on a stream of bytes.  A message is preceded by a header of at most two lines and
an empty line; a header line tells the number of the bytes of the message, and another one
may tell its type.  Nothing is read after a message that is refused, and a header that is
refused counts as such a message.
-/

namespace TemplateLint.Server

namespace Frame

/-- The name of the header line that tells the number of bytes. -/
def lengthName : String := "Content-Length"

/-- The name of the header line that tells the type. -/
def typeName : String := "Content-Type"

/-- The written form of a message with its header. -/
def encode (message : String) : List UInt8 :=
  let body := Text.encode message
  Text.encode (lengthName ++ ": " ++ toString body.length ++ "\x0d\n\x0d\n") ++ body

/-! ### Header lines -/

/-- Why no header stands at the start of some bytes: there are too few of them, or no bytes
after them could complete it. -/
inductive Gap where
  | incomplete
  | broken
deriving DecidableEq

/-- A header line: its name and its value. -/
structure Field where
  name : List UInt8
  value : List UInt8

/-- The bytes besides letters and digits that a name is made of. -/
def nameMarks : List UInt8 := Text.encode "!#$%&'*+-.^_`|~"

/-- Whether a byte may stand in a name. -/
def isNameByte (b : UInt8) : Bool :=
  b < 128 && (Char.ofNat b.toNat).isAlphanum || nameMarks.contains b

/-- Whether a byte is a space or a tab. -/
def isSpaceByte (b : UInt8) : Bool := b == 0x20 || b == 0x09

/-- Whether a byte may stand in a value. -/
def isValueByte (b : UInt8) : Bool := b == 0x09 || (0x20 ≤ b && b != 0x7F)

/-- Bytes without spaces and tabs at their ends. -/
def trim (bytes : List UInt8) : List UInt8 :=
  ((bytes.dropWhile isSpaceByte).reverse.dropWhile isSpaceByte).reverse

/-- The bytes after the end of a line, if they start with one. -/
def lineEnd : List UInt8 → Except Gap (Option (List UInt8))
  | [] => .error .incomplete
  | [0x0D] => .error .incomplete
  | 0x0D :: 0x0A :: rest => .ok (some rest)
  | 0x0D :: _ => .error .broken
  | 0x0A :: rest => .ok (some rest)
  | _ => .ok none

/-- A header line, and the bytes after it. -/
def field (bytes : List UInt8) : Except Gap (Field × List UInt8) := do
  let name := bytes.takeWhile isNameByte
  match bytes.dropWhile isNameByte with
  | [] => throw .incomplete
  | 0x3A :: rest =>
    if name.isEmpty then throw .broken
    match ← lineEnd (rest.dropWhile isValueByte) with
    | some after => return (⟨name, trim (rest.takeWhile isValueByte)⟩, after)
    | none => throw .broken
  | _ => throw .broken

/-- The lines of a header that has at most the given number of them, and the bytes after
it. -/
def fields : Nat → List UInt8 → Except Gap (List Field × List UInt8)
  | count, bytes => do
    match ← lineEnd bytes with
    | some rest => return ([], rest)
    | none =>
      match count with
      | 0 => throw .broken
      | count + 1 =>
        let (first, rest) ← field bytes
        let (others, rest) ← fields count rest
        return (first :: others, rest)

/-- The greatest number of lines of a header. -/
def lineLimit : Nat := 2

/-! ### What a header tells -/

/-- The number that a value denotes: digits, perhaps after a plus sign. -/
def number? (value : List UInt8) : Option Nat :=
  let digits := (Text.decodeLossy value).toList
  let digits := match digits with
    | '+' :: rest => rest
    | _ => digits
  if digits.isEmpty || !digits.all Char.isDigit then none
  else
    let n := digits.foldl (fun n c => n * 10 + (c.toNat - '0'.toNat)) 0
    if n < twoTo 64 then some n else none

/-- The character encoding that a type names among its parameters. -/
def charset? (type : String) : Option String :=
  let named (parameter : List Char) : Option String :=
    let start := "charset=".toList
    let parameter := Text.trimChars parameter
    if start.isPrefixOf parameter then some (String.ofList (parameter.drop start.length)) else none
  ((type.toList.splitOn ';').drop 1).findSome? named

/-- Whether a type is one of texts that the server can read. -/
def isReadable (type : List UInt8) : Bool :=
  match (Text.decode? type).bind charset? with
  | some name => name = "utf-8" || name = "utf8"
  | none => false

/-- Whether a header line has the given name. -/
def Field.isNamed (f : Field) (name : String) : Bool := f.name = Text.encode name

/-- Whether a header line says something that the server understands. -/
def Field.isSound (f : Field) : Bool :=
  if f.isNamed lengthName then (number? f.value).isSome
  else !f.isNamed typeName || isReadable f.value

/-- The number of bytes of the message after a header; of several numbers, the last one
counts. -/
def length? (header : List Field) : Option Nat :=
  if header.all Field.isSound then
    ((header.filter (·.isNamed lengthName)).getLast?).bind fun f => number? f.value
  else none

/-! ### Streams -/

/-- The part of a stream that was received and not yet read: the number of the bytes of the
message whose header was read, if one was, and the bytes after that. -/
structure Buffer where
  length : Option Nat
  bytes : List UInt8

/-- The part before anything is received. -/
def Buffer.empty : Buffer := ⟨none, []⟩

namespace Buffer

/-- The part with more bytes received. -/
def receive (b : Buffer) (more : List UInt8) : Buffer := { b with bytes := b.bytes ++ more }

/-- How many more bytes are needed at least before a message can end. -/
def wanted (b : Buffer) : Nat := max 1 (b.length.getD 0 - b.bytes.length)

/-- The message of some length, unless bytes are missing or it is empty, and what follows. -/
def body (length : Nat) (bytes : List UInt8) : Option Message × Buffer :=
  if bytes.length < length then (none, ⟨some length, bytes⟩)
  else if length = 0 then (none, ⟨none, bytes⟩)
  else (some (.ofBytes (bytes.take length)), ⟨none, bytes.drop length⟩)

/-- The next message, if there is one, and what follows. -/
def next (b : Buffer) : Option Message × Buffer :=
  match b.length with
  | some length => body length b.bytes
  | none =>
    match fields lineLimit b.bytes with
    | .error .incomplete => (none, b)
    | .error .broken => (some (.refused .unreadable), b)
    | .ok (header, rest) =>
      match length? header with
      | some length => body length rest
      | none => (some (.refused .unreadable), ⟨none, rest⟩)

/-- The messages up to the first one that is refused or not there, at most as many as the
fuel, and what follows. -/
def messagesWithin : Nat → Buffer → List Message × Buffer
  | 0, b => ([], b)
  | fuel + 1, b =>
    match b.next with
    | (none, b) => ([], b)
    | (some message, b) =>
      if message.isRefused then ([message], b)
      else
        let (rest, b) := messagesWithin fuel b
        (message :: rest, b)

/-- The messages up to the first one that is refused or not there, and what follows. -/
def messages (b : Buffer) : List Message × Buffer := messagesWithin (b.bytes.length + 1) b

/-- The messages at the end of the stream; bytes that are left over are refused. -/
def lastMessages (b : Buffer) : List Message :=
  let (read, rest) := b.messages
  if read.any Message.isRefused || rest.bytes.isEmpty then read
  else read ++ [.refused .unreadable]

end Buffer

end Frame

end TemplateLint.Server
