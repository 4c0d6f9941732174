import TemplateLint.System.OsFault
import TemplateLint.System.Path

/-!
# Programs over a machine

What a program may ask of the machine that it runs on, and programs as the trees of
their requests: a program is done with a result, or it waits for the answer to a
request and goes on with that.  A program does nothing by itself; `Program.run` answers
its requests by a function, and `Program.runIn` in any monad.  Running is compatible
with sequencing.
-/

namespace TemplateLint

/-- What kind of thing a path leads to, links followed.  What is special is neither a file
nor a directory: a pipe, a socket or a device. -/
inductive FileKind where
  | file
  | directory
  | special
deriving DecidableEq

/-- What is known of the thing that a path leads to. -/
structure Status where
  kind : FileKind
  executable : Bool
deriving DecidableEq

/-- What lies below a directory, links not followed and contents left out.  A directory that
cannot be listed has no entries. -/
inductive Outline where
  | file
  | link
  | special
  | directory (entries : List (Name × Outline))

/-- A run of an executable: the executable, its arguments, the bytes given on standard
input, if any, and the working directory. -/
structure Invocation where
  binary : Path
  arguments : List (List UInt8)
  input : Option (List UInt8)
  directory : Path

/-- The end of a run: the exit code, unless the run was killed, and what it wrote. -/
structure Completion where
  code : Option Nat
  output : List UInt8
  errors : List UInt8

/-- A request to the machine. -/
inductive Request where
  | read (path : Path)
  | status (path : Path)
  | names (path : Path)
  | canonical (path : Path)
  | outline (path : Path)
  | invoke (invocation : Invocation)

/-- The answer to a request. -/
abbrev Request.Answer : Request → Type
  | read _ => Except OsFault (List UInt8)
  | status _ => Except OsFault Status
  | names _ => Except OsFault (List Name)
  | canonical _ => Except OsFault Path
  | outline _ => Except OsFault Outline
  | invoke _ => Except OsFault Completion

/-- A program with a result of the given type. -/
inductive Program (α : Type) where
  | done (result : α)
  | ask (request : Request) (next : request.Answer → Program α)

namespace Program

/-- The program that goes on with the result of another one. -/
def bind : Program α → (α → Program β) → Program β
  | done a, next => next a
  | ask request rest, next => ask request fun answer => (rest answer).bind next

instance : Monad Program where
  pure := done
  bind := bind

/-- The program that makes one request. -/
def request (r : Request) : Program r.Answer := ask r done

/-- The result of a program whose requests are answered by a function. -/
def run (answer : (r : Request) → r.Answer) : Program α → α
  | done a => a
  | ask r next => (next (answer r)).run answer

/-- A program whose requests are answered in a monad. -/
def runIn {m : Type → Type} [Monad m] (answer : (r : Request) → m r.Answer) :
    Program α → m α
  | done a => pure a
  | ask r next => answer r >>= fun a => (next a).runIn answer

@[simp] theorem run_pure (answer : (r : Request) → r.Answer) (a : α) :
  (pure a : Program α).run answer = a
  := rfl

@[simp] theorem run_request (answer : (r : Request) → r.Answer) (r : Request) :
  (request r).run answer = answer r
  := rfl

/-- Running a sequence is running its parts one after the other. -/
@[simp] theorem run_bind (answer : (r : Request) → r.Answer) (p : Program α)
    (next : α → Program β) :
  (p >>= next).run answer = (next (p.run answer)).run answer
  := by
  change (p.bind next).run answer = _
  induction p with
  | done a => rfl
  | ask r rest ih => exact ih (answer r)

private theorem bind_done (p : Program α) :
  p.bind done = p
  := by
  induction p with
  | done a => rfl
  | ask r rest ih =>
    change ask r _ = ask r rest
    congr 1
    funext answer
    exact ih answer

private theorem bind_bind (p : Program α) (f : α → Program β) (g : β → Program γ) :
  (p.bind f).bind g = p.bind (fun a => (f a).bind g)
  := by
  induction p with
  | done a => rfl
  | ask r rest ih =>
    change ask r _ = ask r _
    congr 1
    funext answer
    exact ih answer

instance : LawfulMonad Program :=
  LawfulMonad.mk' Program (fun p => bind_done p) (fun _ _ => rfl) bind_bind

end Program

/-! ### Common requests -/

/-- Whether a path leads to a file. -/
def isFile (path : Path) : Program Bool := do
  match ← Program.request (.status path) with
  | .ok status => return status.kind = .file
  | .error _ => return false

/-- Whether a path leads to a directory. -/
def isDirectory (path : Path) : Program Bool := do
  match ← Program.request (.status path) with
  | .ok status => return status.kind = .directory
  | .error _ => return false

/-- What has a status is a file if its status says so. -/
theorem run_isFile {answer : (r : Request) → r.Answer} {path : Path} {status : Status}
    (h : answer (.status path) = .ok status) :
  (isFile path).run answer = decide (status.kind = .file)
  := by
  rw [isFile, Program.run_bind, Program.run_request, h]
  rfl

/-- What has a status is a directory if its status says so. -/
theorem run_isDirectory {answer : (r : Request) → r.Answer} {path : Path} {status : Status}
    (h : answer (.status path) = .ok status) :
  (isDirectory path).run answer = decide (status.kind = .directory)
  := by
  rw [isDirectory, Program.run_bind, Program.run_request, h]
  rfl

/-- Whether a path leads to anything. -/
def exists? (path : Path) : Program Bool := do
  match ← Program.request (.status path) with
  | .ok _ => return true
  | .error _ => return false

/-- The text of a file. -/
def readText (path : Path) : Program (Except OsFault String) := do
  match ← Program.request (.read path) with
  | .error fault => return .error fault
  | .ok bytes =>
    match Text.decode? bytes with
    | some text => return .ok text
    | none => return .error .notText

end TemplateLint
