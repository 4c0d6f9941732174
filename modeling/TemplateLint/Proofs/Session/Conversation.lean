import Mathlib.Data.List.Chain
import TemplateLint.Proofs.Session.Kept
import TemplateLint.Proofs.Session.Publication

/-!
# Conversations

A session that gets the messages of an editor one after another: each is worked on to the
end before the next one comes, and what the machine answers may be different at each of
them.  A change of configuration files is announced if the message that comes right after
it names a file which may hold a configuration.
-/

namespace TemplateLint

/-- A message of an editor. -/
inductive Message where
  | start (request : StartRequest)
  | opened (document : Document)
  | changed (uri : Uri) (version : Int) (texts : List String)
  | saved (uri : Uri) (text : Option String)
  | closed (uri : Uri)
  | settings (value : Json.Value)
  | files (uris : List Uri)

namespace Message

/-- The job for a message. -/
def job (setup : Setup) : Message → Job Unit
  | start request => do
    let _ ← Session.startUp setup request
    return ()
  | opened document => Session.didOpen setup document
  | changed uri version texts => Session.didChange setup uri version texts
  | saved uri text => Session.didSave setup uri text
  | closed uri => Session.didClose uri
  | settings value => Session.didChangeSettings setup value
  | files uris => Session.didChangeFiles setup uris

/-- Whether a message names a file that may hold a configuration. -/
def namesConfig : Message → Bool
  | files uris => Session.configNames uris ≠ []
  | _ => false

/-- Whether a message starts a session. -/
def isStart : Message → Bool
  | start _ => true
  | _ => false

/-- Whether a message tells the text of a document that was saved. -/
def tellsSavedText : Message → Bool
  | saved _ text => text.isSome
  | _ => false

end Message

/-- A message, and what the machine answers while it is worked on. -/
structure Turn where
  answer : Answering
  message : Message

/-- What the machine answers at present, the state of a session and all events so far. -/
structure History where
  answer : Answering
  session : Session
  events : List Event

namespace History

/-- The history of a session that begins. -/
def ofSession (answer : Answering) (s : Session) : History := ⟨answer, s, []⟩

/-- The history after a job that runs alone. -/
def run (h : History) (job : Job α) : History :=
  let (_, session, events) := job.run (Job.calmHost h.answer) h.session
  ⟨h.answer, session, h.events ++ events⟩

/-- The history after one more turn. -/
def turn (setup : Setup) (h : History) (t : Turn) : History :=
  { h with answer := t.answer }.run (t.message.job setup)

/-- The history after turns. -/
def after (setup : Setup) (h : History) (turns : List Turn) : History :=
  turns.foldl (turn setup) h

theorem after_append (setup : Setup) (h : History) (earlier later : List Turn) :
  h.after setup (earlier ++ later) = (h.after setup earlier).after setup later
  := List.foldl_append

/-! ### Jobs in a history -/

theorem run_eq (h : History) {job : Job α} {a : α} {session : Session} {events : List Event}
    (run : job.run (Job.calmHost h.answer) h.session = (a, session, events)) :
  h.run job = ⟨h.answer, session, h.events ++ events⟩
  := by
  rw [History.run, run]

theorem run_bind (h : History) (t : Job α) (next : α → Job β) :
  h.run (t >>= next) = (h.run t).run (next (t.run (Job.calmHost h.answer) h.session).1)
  := by
  simp [run, Job.run_bind, List.append_assoc]

@[simp] theorem run_pure (h : History) (a : α) :
  h.run (pure a : Job α) = h
  := by
  simp [run]

@[simp] theorem run_read_bind (h : History) (part : Session → α) (next : α → Job β) :
  h.run (Job.read part >>= next) = h.run (next (part h.session))
  := by
  simp [run, Job.run_bind]

@[simp] theorem run_update_bind (h : History) (f : Session → Session) (next : Unit → Job β) :
  h.run (Job.update f >>= next) = { h with session := f h.session }.run (next ())
  := by
  simp [run, Job.run_bind]

@[simp] theorem run_say_bind (h : History) (event : Event) (next : Unit → Job β) :
  h.run (Job.say event >>= next) = { h with events := h.events ++ [event] }.run (next ())
  := by
  simp [run, Job.run_bind]

@[simp] theorem run_say (h : History) (event : Event) :
  h.run (Job.say event) = { h with events := h.events ++ [event] }
  := rfl

@[simp] theorem run_forEach_say (h : History) (xs : List α) (event : α → Event) :
  h.run (Job.forEach xs fun x => Job.say (event x))
    = { h with events := h.events ++ xs.map event }
  := by
  simp [run]

@[simp] theorem run_updateDocument_bind (h : History) (uri : Uri) (version : Option Int)
    (text : String) (next : Option Document → Job β) :
  h.run (Session.updateDocument uri version text >>= next)
    = { h with
        session :=
          { h.session with documents := (h.session.documents.update uri version text).2 } }.run
      (next (h.session.documents.update uri version text).1)
  := by
  simp [run, Job.run_bind, Session.updateDocument, Job.run]

end History

/-! ### Changes of files -/

/-- Whether files give the same options under two ways to answer requests. -/
def Resolver.Alike (r : Resolver) (a b : Answering) : Prop :=
  ∀ root directory,
    ((r.resolve root directory none).run a).options
      = ((r.resolve root directory none).run b).options

/-- Whether files give the same options as before, unless a turn names a file that may hold
a configuration. -/
def Announced (r : Resolver) (before now : Turn) : Prop :=
  now.message.namesConfig = true ∨ r.Alike before.answer now.answer

/-- A faithful state stays so as long as files give the same options. -/
theorem Session.Faithful.alike {setup : Setup} {a b : Answering} {s : Session}
    (faithful : s.Faithful setup a) (alike : setup.resolver.Alike a b) :
  s.Faithful setup b
  := by
  intro entry present
  rw [faithful entry present]
  apply alike

/-! ### A small workspace -/

namespace Sample

/-- The answers in a workspace in which the linter is installed and which has, perhaps, a
manifest. -/
def answer (manifest : Option String) : Answering
  | .status path =>
    if path = Path.ofText "/w/node_modules/pug-lint/package.json" then .ok ⟨.file, false⟩
    else .error .notFound
  | .read path =>
    if path = Path.ofText "/w/node_modules/pug-lint/package.json" then
      .ok (Text.encode "\x7b\"name\": \"pug-lint\"\x7d")
    else if path = Path.ofText "/w/package.json" then
      match manifest with
      | some text => .ok (Text.encode text)
      | none => .error .notFound
    else .error .notFound
  | .names _ => .error .notFound
  | .canonical _ => .error .notFound
  | .outline _ => .error .notFound
  | .invoke _ => .error .notFound

/-- A linter that finds one problem in each text, unless there are no options. -/
def lint : List (String × Json.Value) → List Problem
  | [] => []
  | _ => [⟨1, 1, "PUG:LINT_SAMPLE", .text "A problem"⟩]

/-- A session in the workspace. -/
def setup : Setup where
  locator := ⟨⟨.ok (Path.ofText "/w"), none, none, none, none⟩, false⟩
  load _ := pure (.ok fun options _ _ => pure (.ok (lint options.members)))
  resolver := ⟨none, none⟩

/-- A template at a path. -/
def template (path : String) : Document :=
  ⟨⟨"file", some ⟨"", "", none⟩, path, none, none⟩, "pug", some 1, "p"⟩

/-- A template in the workspace. -/
def document : Document := template "/w/a.pug"

/-- A manifest with options. -/
def manifest : String :=
  "\x7b\"pugLintConfig\": \x7b\"requireStrictEqualityOperators\": true\x7d\x7d"

/-- The URI of the manifest. -/
def manifestUri : Uri := ⟨"file", some ⟨"", "", none⟩, "/w/package.json", none, none⟩

/-- A request to start in a directory. -/
def startIn (root : String) : StartRequest := ⟨none, some root, [], none⟩

/-- A template is opened, and then options for it appear in a manifest. -/
def turns : List Turn :=
  [⟨answer none, .opened document⟩, ⟨answer (some manifest), .files [manifestUri]⟩]

end Sample

end TemplateLint
