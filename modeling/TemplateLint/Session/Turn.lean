import TemplateLint.Session.Job

/-!
# Turns of jobs

How jobs share a program in which only one of them goes on at a time.  A job that has its
turn goes on until it needs something that takes long, which is a check or the run of an
executable, or until it wants an engine which another one has taken.  There it waits for its
next turn.
-/

namespace TemplateLint

/-- Whether the answer to a request may be long in coming. -/
def Request.isSlow : Request → Bool
  | invoke _ => true
  | _ => false

namespace Job

/-- Whether a job can go on when it has its turn. -/
def canGoOn : Job α → Session → Bool
  | done _, _ => false
  | take engine _, s => s.isFree engine
  | _, _ => true

variable {m : Type → Type} [Monad m] (answer : (r : Request) → m r.Answer)
  (pass : Event → m Unit)

/-- A job at the step at which its turn is over, and the state there. -/
def goOnIn : Job α → Session → m (Job α × Session)
  | done a, s => pure (done a, s)
  | access update next, s => (next s).goOnIn (update s)
  | change update next, s => next.goOnIn (update s)
  | take engine next, s =>
    if s.isFree engine then next.goOnIn (s.take engine) else pure (take engine next, s)
  | check engine text path next, s => pure (check engine text path next, s)
  | ask request next, s =>
    if request.isSlow then pure (ask request next, s)
    else do
      let reply ← answer request
      (next reply).goOnIn s
  | probe request next, s => do
    let reply ← answer request
    (next reply).goOnIn s
  | tell event next, s => do
    pass event
    next.goOnIn s

/-- A job after its next turn, which begins with what it waits for, and the state then. -/
def turnIn : Job α → Session → m (Job α × Session)
  | check engine text path next, s => do
    let (options, program) := checkBy s engine text path
    pass (.checking options text path)
    let problems ← program.runIn answer
    (next problems).goOnIn answer pass s
  | ask request next, s => do
    let reply ← answer request
    (next reply).goOnIn answer pass s
  | job, s => job.goOnIn answer pass s

/-- The end of a job that is alone, and the state then. -/
abbrev runAloneIn (job : Job α) (s : Session) : m (α × Session) :=
  job.runIn answer pass (fun _ _ store => store) s

end Job

end TemplateLint
