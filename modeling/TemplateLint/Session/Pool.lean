import TemplateLint.Session.Job

/-!
# Pools of jobs

Several jobs that share the state of a session.  A job that is started goes on until it
has to wait; after that, one waiting job at a time is resumed, in any order.  A job that
wants an engine which another one has taken waits until it is given back.  What the
machine answers may change while jobs wait.  A pool is played by a list of moves, so what
holds after all lists of moves holds for every order in which jobs can be resumed.
-/

namespace TemplateLint

namespace Job

/-- Whether a job has come to its end. -/
def isDone : Job α → Bool
  | done _ => true
  | _ => false

/-- A job at the step at which it first waits or ends, with the state there and the events
on the way. -/
def settle (answer : (r : Request) → r.Answer) :
    Job α → Session → Job α × Session × List Event
  | done a, s => (done a, s, [])
  | access update next, s => (access update next, s, [])
  | change update next, s => next.settle answer (update s)
  | take engine next, s => (take engine next, s, [])
  | check engine text path next, s => (check engine text path next, s, [])
  | ask request next, s => (ask request next, s, [])
  | probe request next, s => (next (answer request)).settle answer s
  | tell event next, s =>
    let (job, s, events) := next.settle answer s
    (job, s, event :: events)

/-- A job after the step at which it waited and up to the next such step, unless it has
ended or the engine that it wants is taken. -/
def resume (answer : (r : Request) → r.Answer) :
    Job α → Session → Option (Job α × Session × List Event)
  | done _, _ => none
  | access update next, s => some ((next s).settle answer (update s))
  | change update next, s => some (next.settle answer (update s))
  | take engine next, s =>
    if s.isFree engine then some (next.settle answer (s.take engine)) else none
  | check engine text path next, s =>
    let (options, program) := checkBy s engine text path
    let (job, s, events) := (next (program.run answer)).settle answer s
    some (job, s, .checking options text path :: events)
  | ask request next, s => some ((next (answer request)).settle answer s)
  | probe request next, s => some ((next (answer request)).settle answer s)
  | tell event next, s =>
    let (job, s, events) := next.settle answer s
    some (job, s, event :: events)

/-- The host on which nothing happens during a check. -/
def calmHost (answer : (r : Request) → r.Answer) : Host := ⟨answer, fun _ _ store => store⟩

end Job

/-! ### Pools -/

/-- Jobs on a shared state: what the machine answers at present, the state, the jobs that
were started, each where it waits or at its end, and the events so far. -/
structure Pool where
  answer : (r : Request) → r.Answer
  session : Session
  jobs : List (Job Unit)
  events : List Event

/-- What happens next in a pool: a job is started, the job at a position is resumed, or
the machine changes. -/
inductive Move where
  | start (job : Job Unit)
  | resume (position : Nat)
  | alter (answer : (r : Request) → r.Answer)

namespace Pool

/-- The pool of a state without jobs. -/
def ofSession (answer : (r : Request) → r.Answer) (s : Session) : Pool := ⟨answer, s, [], []⟩

/-- The pool after a move; a job that cannot go on stays where it is. -/
def move (p : Pool) : Move → Pool
  | .start job =>
    let (job, session, events) := job.settle p.answer p.session
    { p with session := session, jobs := p.jobs ++ [job], events := p.events ++ events }
  | .resume position =>
    match p.jobs[position]?.bind fun job => job.resume p.answer p.session with
    | some (job, session, events) =>
      { p with
        session := session
        jobs := p.jobs.set position job
        events := p.events ++ events }
    | none => p
  | .alter answer => { p with answer := answer }

/-- The pool after moves. -/
def play (p : Pool) (moves : List Move) : Pool := moves.foldl move p

/-- Whether all jobs of a pool have come to their ends. -/
def isQuiet (p : Pool) : Bool := p.jobs.all Job.isDone

@[simp] theorem play_append (p : Pool) (first second : List Move) :
  p.play (first ++ second) = (p.play first).play second
  := List.foldl_append

end Pool

end TemplateLint
