import TemplateLint.Proofs.Session.Contract
import TemplateLint.Proofs.Session.Edits
import TemplateLint.Proofs.Session.Kept

/-!
# Options that are kept while files change

What is kept when configuration files change, the change is announced, and calls go on in
any order.  The call for the announcement drops all options that are kept.  What is kept
afterwards is what files give, if no call that began before the change is still in flight
when that happens.  A call that is may keep the options that it resolved before the change.
-/

namespace TemplateLint

namespace Cache

/-- Options that are kept after others were added were kept before, or were added. -/
theorem mem_insert {cache : Cache} {directory : Path} {options : Options}
    {entry : Path × Options} (present : entry ∈ cache.insert directory options) :
  entry ∈ cache ∨ entry.1.same directory = true ∧ entry.2 = options
  := by
  induction cache with
  | nil =>
    rw [insert, List.mem_singleton] at present
    subst present
    right
    simp [Path.same]
  | cons first rest ih =>
    obtain ⟨d, old⟩ := first
    rw [insert] at present
    split at present
    · rename_i same
      rcases List.mem_cons.mp present with rfl | present
      · right
        use same
      · left
        apply List.mem_cons_of_mem _ present
    · rcases List.mem_cons.mp present with rfl | present
      · left
        apply List.mem_cons_self
      · apply (ih present).imp_left
        apply List.mem_cons_of_mem

end Cache

/-- A state is current under a root if all options that it keeps for a directory are those
that files give for it, however the directory is written. -/
def Session.Current (setup : Setup) (answer : Answering) (root : Option Path) (s : Session) :
    Prop :=
  ∀ entry ∈ s.cache, ∃ directory, entry.1.same directory = true
    ∧ entry.2 = Session.fileOptions setup answer (root.getD Path.here) directory

namespace Contract

/-- The contract of jobs that keep the root. -/
def rooted (root : Option Path) : Contract where
  replies _ _ := True
  assumes _ := True
  keeps s := s.root = root
  tells _ := True

theorem rooted_suits (root : Option Path) (setup : Setup) :
  (rooted root).Suits setup
  where
  assumed _ _ _ := trivial
  kept same _ kept := by
    change Session.root _ = root at kept ⊢
    rw [same, kept]
  dropped kept := kept
  added _ _ kept := kept
  calm _ := trivial
  loud _ _ _ := trivial

/-- The contract of jobs that keep a state current while files do not change. -/
def renewal (setup : Setup) (answer : Answering) (root : Option Path) : Contract where
  replies r reply := reply = answer r
  assumes s := s.root = root
  keeps s := s.Current setup answer root
  tells _ := True

/-- A program whose requests are all answered in one way has no other result. -/
theorem Yields.eq_run {setup : Setup} {answer : Answering} {root : Option Path}
    {p : Program α} {a : α} (yields : (renewal setup answer root).Yields p a) :
  a = p.run answer
  := by
  induction p with
  | done b => apply yields
  | ask request next ih =>
    obtain ⟨_, rfl, yields⟩ := yields
    apply ih _ yields

theorem renewal_suits (setup : Setup) (answer : Answering) (root : Option Path) :
  (renewal setup answer root).Suits setup
  where
  assumed _ same rooted := by
    change Session.root _ = root at rooted ⊢
    rw [← same, rooted]
  kept _ same kept := by
    intro entry present
    rw [same] at present
    apply kept entry present
  dropped _ := by
    intro entry present
    cases present
  added {r s directory resolution} rooted yields kept := by
    intro entry present
    rcases Cache.mem_insert present with present | ⟨same, options⟩
    · apply kept entry present
    · refine ⟨directory, same, ?_⟩
      rw [options, yields.eq_run, Session.fileOptions, ← rooted]
  calm _ := trivial
  loud _ _ _ := trivial

end Contract

namespace Pool

variable {setup : Setup} {p : Pool}

/-- Whether a pool is what becomes of a session with a root while messages come, jobs go on
in any order and files change. -/
def Serves (setup : Setup) (root : Option Path) (p : Pool) : Prop :=
  ∃ answer s moves, s.root = root ∧ (∀ m ∈ moves, m.Serves setup)
    ∧ p = (ofSession answer s).play moves

theorem Serves.play {root : Option Path} (serves : p.Serves setup root) {more : List Move}
    (moves : ∀ m ∈ more, m.Serves setup) :
  (p.play more).Serves setup root
  := by
  obtain ⟨answer, s, earlier, rooted, serves, rfl⟩ := serves
  refine ⟨answer, s, earlier ++ more, rooted, ?_, ?_⟩
  · rw [List.forall_mem_append]
    use serves
  · rw [play_append]

/-- The root stays as it is. -/
theorem Serves.root_eq {root : Option Path} (serves : p.Serves setup root) :
  p.session.root = root
  := by
  obtain ⟨answer, s, moves, rooted, serves, rfl⟩ := serves
  have suits := Contract.rooted_suits root setup
  have bound : (ofSession answer s).Bound (.rooted root) fun _ => True := by
    intro i job _ here
    cases here
  apply (bound.play ⟨fun _ _ _ => trivial, suits.starts serves, fun _ _ => trivial⟩).2
  · intro _ _
    trivial
  · apply rooted

theorem answer_play {moves : List Move} (unaltered : ∀ answer, .alter answer ∉ moves) :
  (p.play moves).answer = p.answer
  := by
  induction moves generalizing p with
  | nil => rfl
  | cons m rest ih =>
    have same : (p.move m).answer = p.answer := by
      cases m with
      | start job => rfl
      | resume i =>
        rw [Pool.move]
        split
        · rfl
        · rfl
      | alter answer => exact absurd List.mem_cons_self (unaltered answer)
    rw [← same]
    apply ih
    intro answer present
    apply unaltered answer (List.mem_cons_of_mem _ present)

/-- While files do not change any more, the contract of renewal is granted. -/
theorem Serves.grants {root : Option Path} (serves : p.Serves setup root) {moves : List Move}
    (later : ∀ m ∈ moves, m.Serves setup) (unaltered : ∀ answer, .alter answer ∉ moves) :
  p.Grants (.renewal setup p.answer root) moves
  where
  replies earlier h r := by
    rw [answer_play fun answer present => unaltered answer (h.subset present)]
    rfl
  starts := (Contract.renewal_suits setup p.answer root).starts later
  assumes earlier h := (serves.play fun m present => later m (h.subset present)).root_eq

/-- The call that announces a change waits at first. -/
theorem getElem?_announced {uris : List Uri} (named : Session.configNames uris ≠ []) :
  (p.move (.start (Session.didChangeFiles setup uris))).jobs[p.jobs.length]?
    = some (Session.didChangeFiles setup uris)
  := by
  rw [Session.didChangeFiles, if_neg named]
  apply List.getElem?_concat_length

/-- Let messages come, jobs go on in any order, and files change for the last time.  When
all calls that began before the change have returned, let a call that announces the change
of a configuration file wait to go on.  Then, whatever comes and goes on, as soon as that
call has returned, all options that are kept are what the files give now. -/
theorem current_of_announced {root : Option Path} (serves : p.Serves setup root)
    {moves rest : List Move} (later : ∀ m ∈ moves ++ rest, m.Serves setup)
    (unaltered : ∀ answer, .alter answer ∉ moves ++ rest)
    (returned : ∀ i < p.jobs.length, (p.play moves).isInFlight i = false)
    {position : Nat} {uris : List Uri} (named : Session.configNames uris ≠ [])
    (announced : (p.play moves).jobs[position]? = some (Session.didChangeFiles setup uris))
    (ended : (p.play (moves ++ rest)).isInFlight position = false) :
  (p.play (moves ++ rest)).session.Current setup p.answer root
  := by
  have granted := serves.grants later unaltered
  have begun : p.Bound (.renewal setup p.answer root) fun i => p.jobs.length ≤ i := by
    intro i job outside here
    rw [List.getElem?_eq_none outside] at here
    cases here
  have bound : (p.play moves).Bound (.renewal setup p.answer root) fun _ => True := by
    apply Bound.rest
    rintro i job ⟨-, inFlight⟩ here
    have outside : p.jobs.length ≤ i := by
      by_contra inside
      rw [returned i (by omega)] at inFlight
      cases inFlight
    apply (begun.play granted.left).1 i job outside here
  rw [Session.didChangeFiles, if_neg named] at announced
  have dropped (s : Session) : (Contract.renewal setup p.answer root).keeps
      { s with cache := [] } := by
    intro entry present
    cases present
  rw [play_append] at ended ⊢
  rcases bound.establish announced dropped granted.right with waits | current
  · rw [isInFlight, waits] at ended
    cases ended
  · apply current

/-- A template is opened, the call for that goes on so many times, and a manifest appears. -/
def manifestAppears (times : Nat) : Pool :=
  (ofSession (Sample.answer none) Scene.sample.first).play
    (.start (Message.job Sample.setup (.opened Sample.document))
      :: List.replicate times (.resume 0)
      ++ [.alter (Sample.answer (some Sample.manifest))])

/-- The manifest is announced. -/
def announcement : Move := .start (Message.job Sample.setup (.files [Sample.manifestUri]))

theorem serves_manifestAppears (times : Nat) :
  (manifestAppears times).Serves Sample.setup (some (Path.ofText "/w"))
  := by
  refine ⟨_, _, _, rfl, ?_, rfl⟩
  rw [List.forall_mem_append, List.forall_mem_cons, List.forall_mem_singleton]
  refine ⟨⟨⟨_, rfl, rfl⟩, ?_⟩, trivial⟩
  intro m
  apply Move.serves_of_resumes

theorem current_in_manifestAppears :
  let p := (manifestAppears 18).play ([announcement] ++ List.replicate 19 (.resume 1))
  p.session.cache.length = 1
    ∧ p.session.Current Sample.setup (manifestAppears 18).answer (some (Path.ofText "/w"))
  := by
  constructor
  · decide +kernel
  · have named : Session.configNames [Sample.manifestUri] ≠ [] := by decide +kernel
    have length : (manifestAppears 18).jobs.length = 1 := by decide +kernel
    have announced : ((manifestAppears 18).play [announcement]).jobs[1]? = _ :=
      length ▸ getElem?_announced named
    refine current_of_announced (serves_manifestAppears 18) ?_ ?_ ?_ named announced ?_
    · rw [List.forall_mem_append, List.forall_mem_singleton]
      refine ⟨⟨_, rfl, rfl⟩, ?_⟩
      intro m
      apply Move.serves_of_resumes
    · intro answer
      simp [announcement]
    · decide +kernel
    · decide +kernel

/-- A call that was in flight when a configuration file changed keeps the options that it
resolved before, although the change was announced and all calls have returned. -/
theorem stale_in_manifestAppears :
  let p := (manifestAppears 14).play
    (announcement :: List.replicate 19 (.resume 1) ++ List.replicate 4 (.resume 0))
  p.isQuiet = true ∧ ¬ p.session.Faithful Sample.setup p.answer
  := by
  intro p
  constructor
  · decide +kernel
  intro faithful
  have stale : (p.session.cache.any fun entry => entry.2.isEmpty &&
      !(Session.fileOptions Sample.setup p.answer (p.session.root.getD Path.here)
        entry.1).isEmpty) = true := by
    decide +kernel
  obtain ⟨entry, present, differ⟩ := List.any_eq_true.mp stale
  rw [← faithful entry present] at differ
  simp at differ

end Pool

end TemplateLint
