import Mathlib.Data.List.Infix
import TemplateLint.Proofs.Session.Contract
import TemplateLint.Proofs.Session.Edits

/-!
# The linter is switched off

What is published while the linter is switched off and calls go on in any order.  A call
looks at the switch before it validates, and not again before it publishes.  So no call
that begins when the linter is off publishes problems, but one that was in flight may.
-/

namespace TemplateLint

/-- The contract of jobs while the linter is off: no problems are told. -/
def Contract.silence : Contract where
  replies _ _ := True
  assumes s := s.settings.enable = false
  keeps _ := True
  tells event := event.reports = false

theorem Contract.silence_suits (setup : Setup) :
  Contract.silence.Suits setup
  where
  assumed same _ off := by
    change Settings.enable _ = false at off ⊢
    rw [← same, off]
  kept _ _ _ := trivial
  dropped _ := trivial
  added _ _ _ := trivial
  calm silent := silent
  loud off on := by
    rw [off] at on
    cases on

namespace Pool

/-- While the linter is switched off, let messages come, jobs go on in any order and files
change.  Then problems are published only where a job goes on that was in flight at the
beginning. -/
theorem reports_of_inFlight {setup : Setup} {p : Pool} {moves : List Move}
    (serves : ∀ m ∈ moves, m.Serves setup)
    (off : ∀ earlier, earlier <+: moves → (p.play earlier).session.settings.enable = false)
    {earlier later : List Move} {m : Move} (split : moves = earlier ++ m :: later) :
  ∃ more, (p.play (earlier ++ [m])).events = (p.play earlier).events ++ more
    ∧ ((∃ event ∈ more, event.reports = true) → ∃ i, m = .resume i ∧ p.isInFlight i = true)
  := by
  subst split
  have suits := Contract.silence_suits setup
  have granted : p.Grants .silence (earlier ++ ([m] ++ later)) :=
    ⟨fun _ _ _ => trivial, suits.starts serves, off⟩
  have bound : p.Bound .silence fun i => p.isInFlight i = false := by
    apply Bound.rest
    rintro i job ⟨rests, inFlight⟩
    rw [rests] at inFlight
    cases inFlight
  have played := (bound.play granted.left).1
  have moved := (played.move granted.right.left).2
  rw [play_append]
  by_cases rests : ∀ i, m = .resume i → p.isInFlight i = false
  · obtain ⟨more, told, silent⟩ := (moved rests).2
    refine ⟨more, told, ?_⟩
    rintro ⟨event, present, reports⟩
    rw [silent event present] at reports
    cases reports
  · obtain ⟨more, told⟩ := exists_events_move (p.play earlier) m
    refine ⟨more, told, fun _ => ?_⟩
    by_contra none
    apply rests
    intro i resumes
    apply eq_false_of_ne_true
    intro inFlight
    apply none
    use i

/-- While the check of a template that was opened is awaited, the linter is switched off, and
the call for that returns. -/
def switchedOff : Pool :=
  (ofSession Scene.sample.answer Scene.sample.first).play
    (.start (Message.job Sample.setup (.opened Sample.document))
      :: List.replicate 16 (.resume 0)
      ++ .start (Message.job Sample.setup (.settings (.object [("enable", .bool false)])))
        :: List.replicate 3 (.resume 1))

/-- The template is changed when the linter is off, and the call for that goes on alone. -/
def changedLate : List Move :=
  .start (Message.job Sample.setup (.changed Sample.document.uri 2 ["q"]))
    :: List.replicate 3 (.resume 2)

theorem silent_in_switchedOff :
  ∃ more, (switchedOff.play (changedLate ++ [.resume 2])).events
      = (switchedOff.play changedLate).events ++ more
    ∧ ∀ event ∈ more, event.reports = false
  := by
  have serves : ∀ m ∈ changedLate ++ [.resume 2], m.Serves Sample.setup := by
    rw [changedLate, List.forall_mem_append, List.forall_mem_cons, List.forall_mem_singleton]
    refine ⟨⟨⟨_, rfl, rfl⟩, ?_⟩, trivial⟩
    intro m
    apply Move.serves_of_resumes
  have off earlier (h : earlier <+: changedLate ++ [.resume 2]) :
      (switchedOff.play earlier).session.settings.enable = false := by
    rw [← List.mem_inits] at h
    revert earlier
    decide +kernel
  obtain ⟨more, told, inFlight⟩ := reports_of_inFlight serves off rfl
  use more, told
  intro event present
  by_contra reports
  obtain ⟨_, ⟨⟩, begun⟩ := inFlight ⟨event, present, eq_true_of_ne_false reports⟩
  revert begun
  decide +kernel

/-- A call that was in flight when the linter was switched off publishes problems after the
call that switched it off has returned. -/
theorem reports_in_switchedOff :
  switchedOff.session.phase = .ready ∧ switchedOff.isInFlight 1 = false
    ∧ (∀ moves ∈ [.resume 0, .resume 0].inits,
        (switchedOff.play moves).session.settings.enable = false)
    ∧ ((switchedOff.play [.resume 0, .resume 0]).events.drop switchedOff.events.length).any
        Event.reports = true
  := by
  decide +kernel

end Pool

end TemplateLint
