import TemplateLint.Command.Perform
import TemplateLint.Server.Delivery
import TemplateLint.Server.Frame

/-!
# The program

The outer layer of the program: it answers the requests of programs and jobs from the file
system, reads and writes the frames of an editor, and performs the command line.  It starts
no other executable, so requests for that fail.
-/

namespace TemplateLint.Outer

/-- The number of an error of the operating system, if it has one. -/
def errorNumber? : IO.Error → Option UInt32
  | .alreadyExists _ number _ => some number
  | .otherError number _ => some number
  | .resourceBusy number _ => some number
  | .resourceVanished number _ => some number
  | .unsupportedOperation number _ => some number
  | .hardwareFault number _ => some number
  | .unsatisfiedConstraints number _ => some number
  | .illegalOperation number _ => some number
  | .protocolError number _ => some number
  | .timeExpired number _ => some number
  | .interrupted _ number _ => some number
  | .noFileOrDirectory _ number _ => some number
  | .invalidArgument _ number _ => some number
  | .permissionDenied _ number _ => some number
  | .resourceExhausted _ number _ => some number
  | .inappropriateType _ number _ => some number
  | .noSuchThing _ number _ => some number
  | _ => none

/-- The number of a fault, which some requests report as a negative word. -/
def faultNumber (number : UInt32) : Nat :=
  if number < 0x80000000 then number.toNat else (0 - number).toNat

/-- The fault that an error stands for. -/
def faultOf (e : IO.Error) : OsFault :=
  match errorNumber? e with
  | some number => .numbered (faultNumber number)
  | none => .worded (toString e)

/-- The result of an action, or the fault with which it ends. -/
def attempt (action : IO α) : IO (Except OsFault α) := do
  try
    return .ok (← action)
  catch e => return .error (faultOf e)

/-- The content of a file. -/
def read (path : Path) : IO (List UInt8) := do
  return (← IO.FS.readBinFile path.toText).toList

/-- The status of what a path leads to.  Every file counts as executable. -/
def status (path : Path) : IO Status := do
  let metadata ← (← IO.FS.realPath path.toText).metadata
  match metadata.type with
  | .dir => return ⟨.directory, true⟩
  | .file => return ⟨.file, true⟩
  | _ => return ⟨.special, false⟩

/-- The names in a directory. -/
def names (path : Path) : IO (List Name) := do
  let entries ← (← IO.FS.realPath path.toText).readDir
  return (entries.map fun entry => Text.encode entry.fileName).toList

/-- The absolute path without links to where a path leads. -/
def canonical (path : Path) : IO Path := do
  return Path.ofText (← IO.FS.realPath path.toText).toString

/-- What lies below a path of a certain type.  What cannot be looked into has no entries, and
an entry of which nothing is known is left out. -/
partial def outlineOf (path : Path) : IO.FS.FileType → IO Outline
  | .file => return .file
  | .symlink => return .link
  | .other => return .special
  | .dir => do
    let .ok place ← attempt (IO.FS.realPath path.toText) | return .directory []
    let .ok entries ← attempt place.readDir | return .directory []
    let inner ← entries.toList.filterMapM fun entry => do
      let .ok metadata ← attempt entry.path.symlinkMetadata | return none
      return some (Text.encode entry.fileName,
        ← outlineOf (Path.ofText entry.path.toString) metadata.type)
    return .directory inner

/-- What lies below what a path leads to. -/
def outline (path : Path) : IO Outline := do
  let place ← IO.FS.realPath path.toText
  outlineOf (Path.ofText place.toString) (← place.metadata).type

/-- The answer of the file system to a request. -/
def answer : (r : Request) → IO r.Answer
  | .read path => attempt (read path)
  | .status path => attempt (status path)
  | .names path => attempt (names path)
  | .canonical path => attempt (canonical path)
  | .outline path => attempt (outline path)
  | .invoke _ => return .error (.worded "executables are not started")

/-- The environment of the program. -/
def environment : IO Environment := do
  let path (name : String) : IO (Option Path) := do
    return (← IO.getEnv name).map Path.ofText
  let list (name : String) : IO (Option (List Path)) := do
    return (← path name).map fun p => Path.splitList p.bytes
  let directory ← attempt IO.currentDir
  return { workingDirectory := directory.map fun place => Path.ofText place.toString
           home := (← path "HOME").filter fun home => home ≠ Path.empty
           executables := ← list "PATH"
           packages := ← list "NODE_PATH"
           node := ← path Interpreter.variableName }

/-! ### Serving -/

/-- The writing of messages. -/
def send (output : IO.FS.Stream) (messages : List Json.Value) : IO Unit := do
  messages.forM fun message =>
    output.write ⟨(Server.Frame.encode (Json.compact message)).toArray⟩
  output.flush

/-- The running of the job of a task. -/
def runner : Server.Runner IO := fun job session => do
  let events ← IO.mkRef []
  let pass (event : Event) : IO Unit := events.modify (event :: ·)
  let (effect, session) ← job.runAloneIn answer pass session
  return (.done effect, session, (← events.get).reverse)

/-- The serving of an editor until the stream ends or is not read on, from what was received
of it.  No more bytes are asked for than the next message needs. -/
partial def serve (setup : Setup) (input output : IO.FS.Stream) (s : Server.State)
    (received : Server.Frame.Buffer) : IO Unit := do
  let more ← input.read (USize.ofNat received.wanted)
  let (messages, rest) :=
    if more.isEmpty then (received.lastMessages, received)
    else (received.receive more.toList).messages
  let outcome ← Server.deliver setup runner more.isEmpty s messages
  send output outcome.sent
  if outcome.goesOn then serve setup input output outcome.state rest

/-- The exit code of a program that breaks off. -/
def brokenCode : UInt32 := 101

/-- The performance of a command line, and its exit code. -/
def perform (arguments : List String) : IO UInt32 := do
  match Command.action (← environment) arguments with
  | .serve context =>
    let setup ← context.setup.runIn answer
    serve setup (← IO.getStdin) (← IO.getStdout) .created .empty
    return 0
  | .perform program =>
    match ← program.runIn answer with
    | none => return brokenCode
    | some output =>
      (← IO.getStderr).putStr output.err
      (← IO.getStdout).putStr output.out
      return UInt32.ofNat output.code

end TemplateLint.Outer

/-- The program. -/
def main (arguments : List String) : IO UInt32 := TemplateLint.Outer.perform arguments
