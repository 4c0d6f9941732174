import TemplateLint.Document.Store
import TemplateLint.Lint.Bridge
import TemplateLint.Settings

/-!
# The state of a session

Everything that a running session knows.  A linter that was loaded stays in the list of
engines, where it is shared by all documents: whoever checks a document takes the engine,
configures it, lets it check and gives it back.  The options of a directory that were
resolved from files are kept until a configuration file changes.
-/

namespace TemplateLint

/-- The phases of a session: before it is started, without a linter that nobody asked
for, with a linter, and without a linter that the workspace is configured for. -/
inductive Phase where
  | uninitialized
  | awaitingPackage
  | ready
  | unavailable
deriving DecidableEq

/-- A loaded linter with the options that it is configured with, and whether it is taken. -/
structure Engine where
  check : Checker
  options : Options
  taken : Bool

/-- The options that were resolved for directories. -/
abbrev Cache : Type := List (Path × Options)

namespace Cache

/-- The options of a directory. -/
def get? (cache : Cache) (directory : Path) : Option Options :=
  (cache.find? fun entry => entry.1.same directory).map Prod.snd

/-- The cache with options for a directory. -/
def insert : Cache → Path → Options → Cache
  | [], directory, options => [(directory, options)]
  | (d, old) :: rest, directory, options =>
    if d.same directory then (d, options) :: rest
    else (d, old) :: insert rest directory options

end Cache

/-- The state of a session. -/
structure Session where
  phase : Phase
  engines : List Engine
  linter : Option Nat
  root : Option Path
  settings : Settings
  cache : Cache
  documents : Store

namespace Session

/-- The state in which a session begins. -/
def start : Session := ⟨.uninitialized, [], none, none, Settings.default, [], Store.empty⟩

/-- The state with a new engine, which is the linter from now on. -/
def addEngine (s : Session) (check : Checker) : Session :=
  { s with
    engines := s.engines ++ [⟨check, Options.empty, false⟩]
    linter := some s.engines.length }

/-- The state with an engine changed. -/
def changeEngine (s : Session) (engine : Nat) (change : Engine → Engine) : Session :=
  { s with engines := s.engines.modify engine change }

/-- The state with an engine taken. -/
def take (s : Session) (engine : Nat) : Session :=
  s.changeEngine engine fun e => { e with taken := true }

/-- The state with an engine given back. -/
def giveBack (s : Session) (engine : Nat) : Session :=
  s.changeEngine engine fun e => { e with taken := false }

/-- The state with an engine configured. -/
def configure (s : Session) (engine : Nat) (options : Options) : Session :=
  s.changeEngine engine fun e => { e with options := options }

/-- Whether an engine can be taken. -/
def isFree (s : Session) (engine : Nat) : Bool :=
  match s.engines[engine]? with
  | some e => !e.taken
  | none => true

end Session

end TemplateLint
