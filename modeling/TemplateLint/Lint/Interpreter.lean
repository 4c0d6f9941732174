import TemplateLint.System.Environment

/-!
# Running scripts

The node executable, how it is found, and how a script is run with it: the script and
its arguments are passed on the command line, and what the script writes is its result.
A run that does not end with success fails with what the script says about it.
-/

namespace TemplateLint

/-- A node executable. -/
structure Interpreter where
  binary : Path
deriving DecidableEq

namespace Interpreter

/-- The variable of the environment that names the executable. -/
def variableName : String := "PUGLINT_NODE"

/-- The executable that is found: the one that is asked for, the one that the environment
names, or the first one on the search path. -/
def locate (e : Environment) (explicit : Option Path) : Program (Except Failure Interpreter) := do
  match explicit with
  | some path => return .ok ⟨path⟩
  | none =>
    match e.node with
    | some path =>
      if path.bytes = [] then fromSearch else return .ok ⟨path⟩
    | none => fromSearch
where
  fromSearch : Program (Except Failure Interpreter) := do
    match ← e.findExecutable "node" with
    | .ok path => return .ok ⟨path⟩
    | .error fault => return .error (.setup (.noNode fault))

/-- The argument before a script. -/
def scriptFlag : String := "-e"

/-- The invocation for a script. -/
def invocation (i : Interpreter) (script : String) (arguments : List Path)
    (input : Option String) (directory : Path) : Invocation :=
  { binary := i.binary
    arguments := Text.encode scriptFlag :: Text.encode script :: arguments.map Path.bytes
    input := input.map Text.encode
    directory := directory }

/-- The result of the end of a run. -/
def resultOf (c : Completion) : Except Failure String :=
  if c.code = some 0 then .ok (Text.decodeLossy c.output)
  else .error (.ofLinter (Text.trim (Text.decodeLossy c.errors)))

/-- The result of a script. -/
def run (i : Interpreter) (script : String) (arguments : List Path) (input : Option String)
    (directory : Path) : Program (Except Failure String) := do
  match ← Program.request (.invoke (i.invocation script arguments input directory)) with
  | .ok completion => return resultOf completion
  | .error fault => return .error (.file i.binary fault)

end Interpreter

end TemplateLint
