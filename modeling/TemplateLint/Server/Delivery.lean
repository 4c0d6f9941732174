import TemplateLint.Server.Message
import TemplateLint.Server.Serve
import TemplateLint.Session.Turn

/-!
# Deliveries

Messages of an editor that arrive together.  All of them are read before any of the work
that they ask for is done, so a call is judged by the stage in which it is read; the work is
then begun in order.  A request that the server takes on can be canceled until its work is
done: by a later call, or by the end of the server.  Nothing is read after a message that is
refused, nor from the first call on that follows the end of the server.  Work that has to
wait goes on later, also after other messages have arrived.
-/

namespace TemplateLint.Server

open Json.Decode

/-! ### Reading -/

/-- The stage after a call of a method is read. -/
def Stage.afterReading : Stage → String → Stage
  | created, "initialize" => starting
  | started, "shutdown" => stopped
  | _, "exit" => ended
  | stage, _ => stage

/-- Whether the server takes on calls of a method in a stage. -/
def isTakenOn (setup : Setup) : Stage → String → Bool
  | .created, method => method = "initialize"
  | .started, method =>
    method = "shutdown" || (notification? setup method).isSome || (Inquiry.shape? method).isSome
  | _, _ => false

/-- A call that was read: the stage in which it was, the id under which it can be canceled,
and whether that id belongs to another call. -/
structure Task where
  call : Call
  stage : Stage
  handle : Option Id
  isRepeated : Bool

/-- Whether a task is to start the server. -/
def Task.isStart (t : Task) : Bool := t.stage = .created && t.call.method = "initialize"

/-- What was read: the stage after it, the tasks, the error of a message that was refused,
and whether reading goes on. -/
structure Reading where
  stage : Stage
  tasks : List Task
  refusal : Option Error
  goesOn : Bool

/-- The reading of messages in a stage, with the ids of the calls that were taken on. -/
def read (setup : Setup) : Stage → List Id → List Message → Reading
  | stage, _, [] => ⟨stage, [], none, true⟩
  | stage, taken, .response :: rest => read setup stage taken rest
  | stage, _, .refused error :: _ => ⟨stage, [], some error, false⟩
  | stage, taken, .call c :: rest =>
    if stage = .ended then ⟨stage, [], none, false⟩
    else
      let handle := if isTakenOn setup stage c.method then c.id else none
      let task : Task := ⟨c, stage, handle, handle.any taken.contains⟩
      let later := read setup (stage.afterReading c.method) (handle.toList ++ taken) rest
      { later with tasks := task :: later.tasks }

/-- The ids of the tasks that are canceled before any work is done: all of them if the
server is ended. -/
def Reading.canceled (r : Reading) : List Id :=
  if r.tasks.any (·.call.method = "exit") then r.tasks.filterMap (·.handle) else []

/-! ### Working -/

/-- The id of a request in the parameters of a cancellation. -/
def canceledId : Json.Decoder (Option Id) :=
  let id : Json.Decoder Id :=
    choice "NumberOrString" [fun v => (integer32 v).map .number, fun v => (text v).map .text]
  record "CancelParams" [required "id" id fun i _ => some i] none

/-- The id that a call cancels. -/
def Call.canceled? (c : Call) : Option Id :=
  if c.method = cancelMethod && c.id.isNone then
    (decodeParams canceledId c).toOption.join
  else none

/-- The job of a task: the stage after it, if it is to start the server, and the response. -/
def Task.job (setup : Setup) (t : Task) (isCanceled : Bool) : Job Effect := do
  if t.isRepeated then return (none, answer t.call (.error .invalidRequest))
  else if isCanceled then
    return (if t.isStart then some .created else none, answer t.call (.error .canceled))
  else
    let (stage, response) ← respond setup t.stage t.call
    return (if t.isStart then some stage else none, response)

/-- What runs the job of a task to its end or to a step at which it waits, and tells the
events on the way. -/
abbrev Runner (m : Type → Type) : Type :=
  Job Effect → Session → m (Job Effect × Session × List Event)

/-- The calls of the server for the events of a job that was run to a point, the response if
that is its end, and the server after it, where the job waits otherwise. -/
def State.after (s : State) : Job Effect × Session × List Event →
    List Json.Value × Option Response × State
  | (job, session, events) =>
    let (calls, nextId) := callsOf s.stage s.nextId events
    match job with
    | .done (stage, response) =>
      (calls, response, ⟨stage.getD s.stage, session, nextId, s.waiting⟩)
    | unfinished => (calls, none, ⟨s.stage, session, nextId, unfinished :: s.waiting⟩)

/-- What was done: the responses, the calls of the server before each of them and after the
last one, and the state at the end. -/
structure Done where
  responses : List Response
  calls : List (List Json.Value)
  state : State

/-- The work of tasks, some of which are canceled, after calls of the server. -/
def work {m : Type → Type} [Monad m] (setup : Setup) (run : Runner m) :
    List Id → List Json.Value → List Task → State → m Done
  | _, before, [], s => pure ⟨[], [before], s⟩
  | canceled, before, t :: rest, s => do
    let isCanceled := t.handle.any canceled.contains
    let (calls, response, s) := s.after (← run (t.job setup isCanceled) s.session)
    let canceled := t.call.canceled?.toList ++ canceled
    match response with
    | none => work setup run canceled (before ++ calls) rest s
    | some r =>
      let later ← work setup run canceled [] rest s
      return { later with
        responses := r :: later.responses, calls := (before ++ calls) :: later.calls }

/-! ### Sending -/

/-- Responses with calls after each of them. -/
def weave : List Json.Value → List (List Json.Value) → List Json.Value
  | [], calls => calls.flatten
  | r :: rest, calls => r :: (calls.headD [] ++ weave rest calls.tail)

/-- Responses with the calls before each of them and after the last one, in the order in
which they are sent.  A response is sent while the work for the next one is done, so the
calls before it come out just after the response before that; the first response comes
before all calls. -/
def inOrder (responses : List Json.Value) : List (List Json.Value) → List Json.Value
  | first :: second :: rest => weave responses ((first ++ second) :: rest)
  | calls => weave responses calls

/-- What a delivery leads to: what is sent, the state after it, and whether the stream is
read on. -/
structure Outcome where
  sent : List Json.Value
  state : State
  goesOn : Bool

/-- The outcome of messages that arrive together.  The server makes no calls at the end of
the stream or after its own end. -/
def deliver {m : Type → Type} [Monad m] (setup : Setup) (run : Runner m) (isLast : Bool)
    (s : State) (messages : List Message) : m Outcome := do
  let reading := read setup s.stage [] messages
  let done ← work setup run reading.canceled [] reading.tasks { s with stage := reading.stage }
  let responses := (reading.refusal.toList.map refusal ++ done.responses).map Response.toValue
  let calls := if isLast || reading.stage = .ended then [] else done.calls
  return ⟨inOrder responses calls, done.state, reading.goesOn && !isLast⟩

/-- What is sent, and the state, after the first waiting job that can go on had a turn; a
server that has ended gives none. -/
def proceed {m : Type → Type} [Monad m] (run : Runner m) (s : State) :
    m (Option (List Json.Value × State)) :=
  let next := s.waiting.findIdx? fun job => job.canGoOn s.session
  match next.bind fun i => s.waiting[i]?.map fun job => (i, job) with
  | some (i, job) =>
    if s.stage = .ended then pure none
    else do
      let rest : State := { s with waiting := s.waiting.eraseIdx i }
      let (calls, response, s) := rest.after (← run job s.session)
      return some (response.toList.map Response.toValue ++ calls, s)
  | none => pure none

end TemplateLint.Server
