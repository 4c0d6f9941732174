/-!
# Command-line arguments

The reading of command lines.  A command line consists of options, which have a long name
and perhaps a letter, a command and its operands.  Some options take a value, which follows
them or is attached to them.  The options of the program may also stand behind the command.
-/

namespace TemplateLint.Command

/-- An option: its name, its letter if it has one, whether it takes a value, and whether it
may be given more than once. -/
structure Parameter where
  name : String
  letter : Option Char
  takesValue : Bool
  repeatable : Bool

/-- The reason for which the reading of a command line ends: it is refused, or the version
or help is asked for. -/
inductive Stop where
  | refused
  | version
  | help
deriving DecidableEq

/-- The options and operands that were read from the arguments of one level, the last ones
first. -/
structure Reading where
  options : List (String × String)
  operands : List String

/-- The options on every level. -/
def common : List Parameter :=
  [⟨"verbose", some 'v', false, true⟩, ⟨"node", none, true, false⟩,
    ⟨"no-global", none, false, false⟩, ⟨"help", some 'h', false, true⟩]

/-- The options before a command. -/
def outer : List Parameter := common ++ [⟨"version", some 'V', false, true⟩]

/-- The options of serving an editor. -/
def serving : List Parameter := common ++ [⟨"stdio", none, false, false⟩]

/-- The option of the workspace. -/
def workspace : Parameter := ⟨"workspace", some 'w', true, false⟩

/-- The options of checking templates. -/
def checking : List Parameter := common ++ [workspace, ⟨"format", some 'f', true, false⟩]

/-- The options of showing a configuration. -/
def showing : List Parameter := common ++ [workspace]

/-- Whether an argument is read as an option where it stands. -/
def looksLikeOption (argument : String) : Bool :=
  match argument.toList with
  | '-' :: _ :: _ => true
  | _ => false

/-- Whether a value is one of those that an option takes. -/
def accepts (p : Parameter) (value : String) : Bool :=
  if p.name = "format" then value = "human" || value = "json" else value ≠ ""

/-- The reading with an option. -/
def Reading.add (r : Reading) (p : Parameter) (value : String) : Except Stop Reading :=
  if p.name = "help" then .error .help
  else if p.name = "version" then .error .version
  else if !p.repeatable && (r.options.lookup p.name).isSome then .error .refused
  else if p.takesValue && !accepts p value then .error .refused
  else .ok { r with options := (p.name, value) :: r.options }

/-- The reading with an option whose value is the next argument, and the arguments after
that. -/
def Reading.addNext (r : Reading) (p : Parameter) :
    List String → Except Stop (Reading × List String)
  | [] => .error .refused
  | value :: rest =>
    if looksLikeOption value then .error .refused
    else (r.add p value).map fun r => (r, rest)

/-- The reading with the options that letters name; the value of the last one may be
attached to it, or is the next argument. -/
def Reading.addLetters (parameters : List Parameter) :
    List Char → Reading → List String → Except Stop (Reading × List String)
  | [], r, rest => .ok (r, rest)
  | letter :: letters, r, rest =>
    match parameters.find? fun p => p.letter = some letter with
    | none => .error .refused
    | some p =>
      if p.takesValue then
        match letters with
        | [] => r.addNext p rest
        | '=' :: value => (r.add p (String.ofList value)).map fun r => (r, rest)
        | value => (r.add p (String.ofList value)).map fun r => (r, rest)
      else (r.add p "").bind fun r => r.addLetters parameters letters rest

/-- The reading with the option that a long name denotes, with its attached value if there
is one. -/
def Reading.addName (r : Reading) (parameters : List Parameter) (cs : List Char)
    (rest : List String) : Except Stop (Reading × List String) :=
  let name := String.ofList (cs.takeWhile (· ≠ '='))
  match parameters.find? fun p => p.name = name, cs.dropWhile (· ≠ '=') with
  | none, _ => .error .refused
  | some p, [] =>
    if p.takesValue then r.addNext p rest else (r.add p "").map fun r => (r, rest)
  | some p, _ :: value =>
    if p.takesValue then (r.add p (String.ofList value)).map fun r => (r, rest)
    else .error .refused

/-- The reading of the arguments of one level, and the arguments that are left.  A limit on
the number of operands holds, and reading may end before the first operand. -/
def readLevel (parameters : List Parameter) (limit : Option Nat) (beforeOperand : Bool) :
    Nat → Bool → Reading → List String → Except Stop (Reading × List String)
  | 0, _, _, _ => .error .refused
  | _, _, r, [] => .ok (r, [])
  | fuel + 1, literal, r, argument :: rest =>
    let options (next : Except Stop (Reading × List String)) :
        Except Stop (Reading × List String) :=
      next.bind fun (r, rest) => readLevel parameters limit beforeOperand fuel false r rest
    match literal, argument.toList with
    | false, ['-', '-'] => readLevel parameters limit beforeOperand fuel true r rest
    | false, '-' :: '-' :: name => options (r.addName parameters name rest)
    | false, '-' :: letter :: letters => options (r.addLetters parameters (letter :: letters) rest)
    | _, _ =>
      if beforeOperand then
        if literal then .error .refused else .ok (r, argument :: rest)
      else if limit.any fun n => n ≤ r.operands.length then .error .refused
      else if argument = "" then .error .refused
      else
        readLevel parameters limit beforeOperand fuel literal
          { r with operands := argument :: r.operands } rest

/-- The reading of all arguments of a level. -/
def readAll (parameters : List Parameter) (limit : Option Nat) (arguments : List String) :
    Except Stop Reading :=
  (readLevel parameters limit false (arguments.length + 1) false ⟨[], []⟩ arguments).map Prod.fst

/-! ### Commands -/

/-- The form in which reports are written. -/
inductive Format where
  | human
  | json
deriving DecidableEq

/-- What the program is asked to do. -/
inductive Verb where
  | serve
  | check (paths : List String) (workspace : Option String) (format : Format)
  | showConfig (path : Option String) (workspace : Option String)
deriving DecidableEq

/-- The meaning of a command line. -/
structure Line where
  verb : Verb
  node : Option String
  searchGlobal : Bool
deriving DecidableEq

/-- The form that a name denotes. -/
def formatOf : Option String → Format
  | some "json" => .json
  | _ => .human

/-- The names of commands. -/
def commandNames : List String := ["lsp", "check", "lint", "config", "help"]

/-- What comes of a request for help, which may name one command. -/
def helpStop : List String → Stop
  | [] => .help
  | [name] => if commandNames.contains name then .help else .refused
  | _ => .refused

/-- The command of a name, and the reading of its arguments. -/
def verbOf (name : String) (arguments : List String) : Except Stop (Verb × Reading) := do
  match name with
  | "lsp" =>
    let r ← readAll serving (some 0) arguments
    return (.serve, r)
  | "config" =>
    let r ← readAll showing (some 1) arguments
    return (.showConfig r.operands.head? (r.options.lookup "workspace"), r)
  | "help" => throw (helpStop arguments)
  | _ =>
    if name = "check" ∨ name = "lint" then
      let r ← readAll checking none arguments
      return (.check r.operands.reverse (r.options.lookup "workspace")
        (formatOf (r.options.lookup "format")), r)
    else throw .refused

/-- The meaning of arguments, where the environment may name a node executable.  An option
behind the command wins over the one before it. -/
def Line.parse (node : Option String) (arguments : List String) : Except Stop Line := do
  let (before, rest) ← readLevel outer none true (arguments.length + 1) false ⟨[], []⟩ arguments
  let (verb, behind) ←
    match rest with
    | [] => pure (Verb.serve, ⟨[], []⟩)
    | name :: arguments => verbOf name arguments
  if node = some "" then
    if rest ≠ [] ∧ (behind.options.lookup "node").isNone then throw .refused
    if (before.options.lookup "node").isNone then throw .refused
  let options := behind.options ++ before.options
  return ⟨verb, options.lookup "node" <|> node, (options.lookup "no-global").isNone⟩

end TemplateLint.Command
