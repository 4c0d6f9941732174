import TemplateLint.Proofs.Session.Conversation
import TemplateLint.Proofs.Session.Interleaving

/-!
# Edits in any order

The jobs for messages that open, change and close documents may go on in any order, and
more messages may come meanwhile.  What is published is always what the stored text gives
at that moment, and when all jobs have ended, the diagnostics of all stored templates are
seen, and nothing under URIs that were closed.
-/

namespace TemplateLint

/-- What comes next among jobs for messages: a message comes, or the job at a position
goes on. -/
inductive Happening where
  | comes (message : Message)
  | resumes (position : Nat)

/-- The move of a pool for what comes next. -/
def Happening.move (setup : Setup) : Happening → Move
  | comes message => .start (message.job setup)
  | resumes position => .resume position

/-- Whether a message opens, changes or closes a document. -/
def Message.isEdit : Message → Bool
  | opened _ => true
  | changed _ _ _ => true
  | closed _ => true
  | _ => false

namespace Scene

variable {c : Scene} {asked : Uri → Prop} {p : Pool} {stages : Nat → Stage}

/-- The stage at which the job for a message begins. -/
def firstStage : Message → Stage
  | .closed uri => .closing uri
  | _ => .idle

/-- Whether a message edits documents that may be open. -/
def Edits (c : Scene) (message : Message) : Prop :=
  message.isEdit = true ∧ ∀ document, message = .opened document → c.opened document.uri

/-- The job for an edit follows its stages. -/
theorem attends_edit (prompt : c.first.settings.Prompt) {message : Message}
    (edits : c.Edits message) :
  c.Attends (firstStage message) (message.job c.setup)
  := by
  cases message with
  | opened document => apply follows_didOpen prompt (edits.2 document rfl)
  | changed uri version texts => apply follows_didChange prompt
  | closed uri => apply follows_didClose
  | _ => cases edits.1

/-- A job that closes a document is to be answered. -/
theorem Sound.begin {s : Session} {events : List Event} {i : Nat}
    (sound : c.Sound asked s events stages) (idle : stages i = .idle) (message : Message) :
  c.Sound (fun uri => asked uri ∨ message = .closed uri) s events
    (Function.update stages i (firstStage message))
  where
  fits := sound.fits
  exclusive := by
    apply sound.exclusive.leave _ rfl
    cases message with
    | _ => rfl
  displays := by
    constructor
    · apply forall_update sound.displays.apt
      cases message with
      | _ => trivial
    · intro uri document stored template
      apply (sound.displays.shown uri document stored template).imp_right
      apply exists_update
      rw [idle]
      exact False.elim
    · intro uri absent
      apply (sound.displays.cleared uri absent).imp_right
      apply exists_update
      rw [idle]
      exact False.elim
    · rintro uri (ask | rfl)
      · apply (sound.displays.answered uri ask).imp_right
        apply exists_update
        rw [idle]
        exact False.elim
      · right
        use i
        rw [Function.update_self]
        rfl

/-- What holds of a pool of jobs that each follow their stages. -/
structure Attended (c : Scene) (asked : Uri → Prop) (p : Pool) (stages : Nat → Stage) :
    Prop where
  answer : p.answer = c.answer
  sound : c.Sound asked p.session p.events stages
  waits : ∀ i, (stages i).waits = true
  attends : ∀ i job, p.jobs[i]? = some job → c.Attends (stages i) job
  vacant : ∀ i, p.jobs[i]? = none → stages i = .idle

/-- How a pool goes on: what is published is genuine. -/
def Publishes (c : Scene) (p next : Pool) : Prop :=
  ∃ more, next.events = p.events ++ more
    ∧ ∀ event ∈ more, c.Genuine next.session.documents event

/-- A pool stays attended when a job comes from its stage to another one and the others
stay at theirs. -/
theorem Attended.update {asked' : Uri → Prop} (attended : c.Attended asked p stages) {i : Nat}
    {stage : Stage} {next : Pool} (answer : next.answer = p.answer)
    (sound : c.Sound asked' next.session next.events (Function.update stages i stage))
    (waits : stage.waits = true) {job : Job Unit} (attends : c.Attends stage job)
    (here : next.jobs[i]? = some job) (others : ∀ j, j ≠ i → next.jobs[j]? = p.jobs[j]?) :
  c.Attended asked' next (Function.update stages i stage)
  where
  answer := by rw [answer, attended.answer]
  sound := sound
  waits := by
    intro j
    by_cases same : j = i
    · subst same
      rw [Function.update_self, waits]
    · rw [Function.update_of_ne same, attended.waits]
  attends := by
    intro j other found
    by_cases same : j = i
    · subst same
      rw [here] at found
      obtain rfl := Option.some.inj found
      rw [Function.update_self]
      apply attends
    · rw [others j same] at found
      rw [Function.update_of_ne same]
      apply attended.attends j other found
  vacant := by
    intro j absent
    by_cases same : j = i
    · subst same
      rw [here] at absent
      cases absent
    · rw [others j same] at absent
      rw [Function.update_of_ne same]
      apply attended.vacant j absent

/-- A job that goes on keeps a pool attended. -/
theorem Attended.resume (attended : c.Attended asked p stages) (apart : c.Apart) (i : Nat) :
  (∃ stages, c.Attended asked (p.move (.resume i)) stages)
    ∧ c.Publishes p (p.move (.resume i))
  := by
  rw [Pool.move]
  split
  · rename_i u next more resumed
    obtain ⟨job, here, resumed⟩ := Option.bind_eq_some_iff.mp resumed
    rw [attended.answer] at resumed
    obtain ⟨after, attends, waits, sound, genuine⟩ :=
      attended.sound.resume apart attended.waits (attended.attends i job here) resumed
    refine ⟨⟨_, attended.update rfl sound waits attends ?_ ?_⟩, more, rfl, genuine⟩
    · obtain ⟨inside, -⟩ := List.getElem?_eq_some_iff.mp here
      simp [inside]
    · intro j differ
      apply List.getElem?_set_ne differ.symm
  · refine ⟨⟨stages, attended⟩, [], ?_, List.forall_mem_nil _⟩
    rw [List.append_nil]

/-- So does a message that edits a document. -/
theorem Attended.start (attended : c.Attended asked p stages) (apart : c.Apart)
    (prompt : c.first.settings.Prompt)
    {message : Message} (edits : c.Edits message) :
  (∃ stages, c.Attended (fun uri => asked uri ∨ message = .closed uri)
      (p.move (.start (message.job c.setup))) stages)
    ∧ c.Publishes p (p.move (.start (message.job c.setup)))
  := by
  rw [Pool.move, attended.answer]
  rcases settled : (message.job c.setup).settle c.answer p.session with ⟨u, next, more⟩
  have vacant : stages p.jobs.length = .idle := attended.vacant _ (by simp)
  have here := Function.update_self p.jobs.length (firstStage message) stages
  obtain ⟨after, attends, waits, sound, documents, genuine⟩ :=
    (attended.sound.begin vacant message).settle apart
      (by rw [here]; apply attends_edit prompt edits) settled
  rw [Function.update_idem] at sound
  rw [← documents] at genuine
  refine ⟨⟨_, attended.update attended.answer.symm sound waits attends ?_ ?_⟩, more, rfl, genuine⟩
  · simp
  · intro j differ
    dsimp only
    rw [List.getElem?_append]
    split
    · rfl
    · rename_i outside
      rw [List.getElem?_eq_none, List.getElem?_eq_none]
      · omega
      · simp
        omega

theorem Attended.weaken {fewer : Uri → Prop} (attended : c.Attended asked p stages)
    (sub : ∀ uri, fewer uri → asked uri) :
  c.Attended fewer p stages
  := by
  have displays := attended.sound.displays
  have sound : c.Sound fewer p.session p.events stages :=
    ⟨attended.sound.fits, attended.sound.exclusive,
      { displays with answered := fun uri ask => displays.answered uri (sub uri ask) }⟩
  apply Attended.mk attended.answer sound attended.waits attended.attends attended.vacant

/-- Whatever comes next, a pool stays attended. -/
theorem Attended.move (attended : c.Attended asked p stages) (apart : c.Apart)
    (prompt : c.first.settings.Prompt)
    (happening : Happening) (edits : ∀ message, happening = .comes message → c.Edits message) :
  (∃ stages, c.Attended (fun uri => asked uri ∨ happening = .comes (.closed uri))
      (p.move (happening.move c.setup)) stages)
    ∧ c.Publishes p (p.move (happening.move c.setup))
  := by
  cases happening with
  | comes message =>
    obtain ⟨⟨stages, attended⟩, publishes⟩ :=
      attended.start apart prompt (edits message rfl)
    refine ⟨⟨stages, attended.weaken ?_⟩, publishes⟩
    rintro uri (ask | same)
    · left
      apply ask
    · right
      cases same
      rfl
  | resumes position =>
    obtain ⟨⟨stages, attended⟩, publishes⟩ := attended.resume apart position
    refine ⟨⟨stages, attended.weaken ?_⟩, publishes⟩
    rintro uri (ask | same)
    · apply ask
    · cases same

/-- After whatever has come, a pool is still attended. -/
theorem Attended.play (attended : c.Attended asked p stages) (apart : c.Apart)
    (prompt : c.first.settings.Prompt)
    (happenings : List Happening)
    (edits : ∀ message, .comes message ∈ happenings → c.Edits message) :
  ∃ stages, c.Attended (fun uri => asked uri ∨ .comes (.closed uri) ∈ happenings)
    (p.play (happenings.map (Happening.move c.setup))) stages
  := by
  induction happenings generalizing p asked stages with
  | nil =>
    use stages
    apply attended.weaken
    rintro uri (ask | absent)
    · apply ask
    · cases absent
  | cons happening rest ih =>
    obtain ⟨⟨stages, attended⟩, -⟩ :=
      attended.move apart prompt happening fun message same =>
        edits message (same ▸ List.mem_cons_self)
    obtain ⟨stages, attended⟩ :=
      ih attended fun message present => edits message (List.mem_cons_of_mem _ present)
    use stages
    apply attended.weaken
    rintro uri (ask | present)
    · left
      left
      apply ask
    · rcases List.mem_cons.mp present with same | present
      · left
        right
        apply same.symm
      · right
        apply present

/-- A quiet pool owes nothing. -/
theorem Attended.idle (attended : c.Attended asked p stages) (quiet : p.isQuiet = true)
    (i : Nat) :
  stages i = .idle
  := by
  cases here : p.jobs[i]? with
  | none => apply attended.vacant i here
  | some job =>
    have ended := List.all_eq_true.mp quiet job (List.mem_of_getElem? here)
    have attends := attended.attends i job here
    cases job with
    | done => apply attends
    | _ => cases ended

end Scene

/-- A session whose linter is idle and computes a function, that validates documents when
they change, and that has no open documents. -/
structure Session.Attentive (answer : Answering) (lint : Lint) (engine : Nat) (s : Session) :
    Prop where
  linter : s.linter = some engine
  idle : ∃ e, s.engines[engine]? = some e ∧ e.Computes answer lint ∧ e.taken = false
  prompt : s.settings.Prompt
  documents : s.documents = Store.empty

namespace Scene

theorem attended_first {c : Scene} (begins : c.first.Attentive c.answer c.lint c.engine) :
  c.Attended (fun _ => False) (Pool.ofSession c.answer c.first) fun _ => .idle
  := by
  obtain ⟨e, present, computes, free⟩ := begins.idle
  have absent (uri : Uri) : c.first.documents.get? uri = none := by
    rw [begins.documents]
    rfl
  constructor
  · rfl
  · refine ⟨⟨rfl, begins.linter, rfl, ⟨e, present, computes⟩, ?_, ?_, ?_⟩, ?_, ?_⟩
    · intro document options _ inForce
      left
      apply inForce
    · dsimp only [Pool.ofSession]
      rw [begins.documents]
      apply Store.wellKeyed_empty
    · intro uri document found
      dsimp only [Pool.ofSession] at found
      rw [absent] at found
      cases found
    · constructor
      · intro i j holds
        cases holds
      · intro i holds
        cases holds
      · intro i document options holding
        cases holding
    · constructor
      · intro i
        trivial
      · intro uri document found
        dsimp only [Pool.ofSession] at found
        rw [absent] at found
        cases found
      · intro uri _
        left
        apply Event.cleared_nil
      · intro uri ask
        cases ask
  · intro i
    rfl
  · intro i job here
    cases here
  · intro i _
    rfl

/-- In a session that validates documents when they change, let messages that open, change
and close documents come and the jobs for them go on in any order.  When all jobs have
ended, the diagnostics of all stored templates are seen, and nothing under URIs that were
closed and have no stored document.  And whatever is published on the way is an empty list
for a URI that has no stored document, or the diagnostics of the text that is stored at
that moment, with its version. -/
theorem seen_after_edits (c : Scene) (begins : c.first.Attentive c.answer c.lint c.engine)
    (apart : c.Apart) (happenings : List Happening)
    (edits : ∀ message, .comes message ∈ happenings → c.Edits message) :
  let after (happenings : List Happening) :=
    (Pool.ofSession c.answer c.first).play (happenings.map (Happening.move c.setup))
  ((after happenings).isQuiet = true →
      (∀ uri document, (after happenings).session.documents.get? uri = some document →
        document.isTemplate = true → c.Seen (after happenings).events uri document)
      ∧ ∀ uri, .comes (.closed uri) ∈ happenings →
        (after happenings).session.documents.get? uri = none →
          Event.lastPublished (after happenings).events uri = some [])
    ∧ ∀ earlier happening later, happenings = earlier ++ happening :: later →
      c.Publishes (after earlier) (after (earlier ++ [happening]))
  := by
  intro after
  have played (happenings : List Happening)
      (edits : ∀ message, .comes message ∈ happenings → c.Edits message) :=
    (attended_first begins).play apart begins.prompt happenings edits
  constructor
  · intro quiet
    obtain ⟨stages, attended⟩ := played happenings edits
    have displays := attended.sound.displays
    have idle := attended.idle quiet
    constructor
    · intro uri document stored template
      rcases displays.shown uri document stored template with seen | ⟨i, owes⟩
      · apply seen
      · rw [idle i] at owes
        cases owes
    · intro uri closed absent
      rcases displays.answered uri (.inr closed) with answered | ⟨i, closes⟩
      · rcases displays.cleared uri absent with cleared | ⟨i, clears⟩
        · obtain ⟨diagnostics, seen⟩ := Option.ne_none_iff_exists'.mp answered
          rw [cleared diagnostics seen] at seen
          apply seen
        · rw [idle i] at clears
          cases clears
      · rw [idle i] at closes
        cases closes
  · rintro earlier happening later rfl
    obtain ⟨stages, attended⟩ := played earlier fun message present =>
      edits message (List.mem_append_left _ present)
    have publishes :=
      (attended.move apart begins.prompt happening fun message same =>
        edits message (by simp [same])).2
    dsimp only [after]
    rw [List.map_append, Pool.play_append]
    apply publishes

/-- The sample workspace with a linter that is loaded. -/
def sample : Scene where
  setup := Sample.setup
  answer := Sample.answer (some Sample.manifest)
  lint options _ _ := Sample.lint options.members
  first :=
    { Session.start with
      phase := .ready
      engines := [⟨fun options _ _ => pure (.ok (Sample.lint options.members)), .empty, false⟩]
      linter := some 0
      root := some (Path.ofText "/w") }
  engine := 0
  opened uri := uri = Sample.document.uri ∨ uri = (Sample.template "/w/b.pug").uri

/-- Two templates are opened; while they are validated, one is changed and the other one is
closed. -/
def sampleEdits : List Happening :=
  [.comes (.opened Sample.document), .comes (.opened (Sample.template "/w/b.pug")),
    .resumes 0, .resumes 1, .comes (.changed Sample.document.uri 2 ["q"]),
    .comes (.closed (Sample.template "/w/b.pug").uri)]
    ++ (List.replicate 20 [.resumes 3, .resumes 2, .resumes 1, .resumes 0]).flatten

/-- The pool of the sample in the end. -/
def samplePool : Pool :=
  (Pool.ofSession sample.answer sample.first).play
    (sampleEdits.map (Happening.move sample.setup))

theorem seen_in_samplePool :
  sample.Seen samplePool.events Sample.document.uri
      { Sample.document with version := some 2, text := "q" }
    ∧ Event.lastPublished samplePool.events (Sample.template "/w/b.pug").uri = some []
  := by
  have begins : sample.first.Attentive sample.answer sample.lint sample.engine := by
    refine ⟨rfl, ⟨_, rfl, ?_, rfl⟩, ⟨by decide, by decide⟩, rfl⟩
    intro options text path
    rfl
  have apart : sample.Apart := by
    rintro _ _ (rfl | rfl) (rfl | rfl) same
    · rfl
    · revert same
      decide +kernel
    · revert same
      decide +kernel
    · rfl
  have edits message (present : .comes message ∈ sampleEdits) : sample.Edits message := by
    simp only [sampleEdits, List.reduceReplicate, List.flatten_cons, List.flatten_nil,
      List.append_nil, List.cons_append, List.nil_append, List.mem_cons,
      Happening.comes.injEq, reduceCtorEq, List.not_mem_nil, or_self, or_false,
      false_or] at present
    rcases present with rfl | rfl | rfl | rfl
    · use rfl
      rintro _ ⟨⟩
      left
      rfl
    · use rfl
      rintro _ ⟨⟩
      right
      rfl
    · use rfl
      rintro _ ⟨⟩
    · use rfl
      rintro _ ⟨⟩
  have quiet : samplePool.isQuiet = true := by decide +kernel
  obtain ⟨shown, closed⟩ := (seen_after_edits sample begins apart sampleEdits edits).1 quiet
  constructor
  · apply shown
    · decide +kernel
    · decide +kernel
  · apply closed
    · simp [sampleEdits]
    · decide +kernel

end Scene

end TemplateLint
