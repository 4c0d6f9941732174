import TemplateLint.Session.Event

/-!
# What a client sees

A client sees, under each URI, the list of diagnostics that was published for it last;
URIs are told apart by their texts.  Of two sequences of events the second one decides,
unless it publishes nothing for the URI.
-/

namespace TemplateLint

namespace Event

/-- The diagnostics that an event publishes for a URI, if any. -/
def published? (uri : Uri) : Event → Option (List Diagnostic)
  | published other diagnostics _ => if other.text = uri.text then some diagnostics else none
  | _ => none

/-- The events that neither publish diagnostics nor ask for a check. -/
def isMute : Event → Bool
  | published _ _ _ => false
  | checking _ _ _ => false
  | _ => true

/-- The events that tell of the loading of the linter. -/
def isNote : Event → Bool
  | loading _ => true
  | logged _ _ => true
  | _ => false

/-- The warnings that are shown. -/
def isWarning : Event → Bool
  | shown .warning _ => true
  | _ => false

/-- A check that an event asks for: the options, the text and the path. -/
def check? : Event → Option (Options × String × Path)
  | checking options text path => some (options, text, path)
  | _ => none

/-- The list that was published last for a URI, if any. -/
def lastPublished (events : List Event) (uri : Uri) : Option (List Diagnostic) :=
  (events.filterMap (published? uri)).getLast?

/-- Whether nothing is seen under a URI: no list was published for it, or the last one is
empty. -/
def Cleared (events : List Event) (uri : Uri) : Prop :=
  ∀ diagnostics, lastPublished events uri = some diagnostics → diagnostics = []

/-- The checks that events ask for. -/
def checks (events : List Event) : List (Options × String × Path) := events.filterMap check?

theorem isMute_of_isNote {event : Event} (note : event.isNote = true) :
  event.isMute = true
  := by
  cases event with
  | loading => rfl
  | logged => rfl
  | _ => cases note

theorem cleared_nil (uri : Uri) :
  Cleared [] uri
  := by
  intro diagnostics seen
  cases seen

theorem lastPublished_append (first second : List Event) (uri : Uri) :
  lastPublished (first ++ second) uri
    = (lastPublished second uri).or (lastPublished first uri)
  := by
  rw [lastPublished, List.filterMap_append, List.getLast?_append]
  rfl

/-- What was seen stays as long as nothing is published. -/
theorem lastPublished_append_none {first second : List Event} {uri : Uri}
    (h : lastPublished second uri = none) :
  lastPublished (first ++ second) uri = lastPublished first uri
  := by
  rw [lastPublished_append, h, Option.none_or]

/-- What is published is seen, whatever came before it. -/
theorem lastPublished_append_some {first second : List Event} {uri : Uri}
    {diagnostics : List Diagnostic} (h : lastPublished second uri = some diagnostics) :
  lastPublished (first ++ second) uri = some diagnostics
  := by
  rw [lastPublished_append, h, Option.some_or]

/-- A list that is published is seen under its URI; under others nothing changes. -/
theorem lastPublished_append_published (events : List Event) (uri : Uri)
    (diagnostics : List Diagnostic) (version : Option Int) (other : Uri) :
  lastPublished (events ++ [published uri diagnostics version]) other
    = if uri.text = other.text then some diagnostics else lastPublished events other
  := by
  by_cases same : uri.text = other.text
  · simp [lastPublished, published?, same]
  · simp [lastPublished, published?, same]

/-- Mute events publish nothing. -/
theorem lastPublished_mute {events : List Event} (mute : ∀ event ∈ events, event.isMute)
    (uri : Uri) :
  lastPublished events uri = none
  := by
  rw [lastPublished, List.getLast?_eq_none_iff, List.filterMap_eq_nil_iff]
  intro event present
  have h := mute event present
  cases event with
  | published => cases h
  | _ => rfl

theorem checks_append (first second : List Event) :
  checks (first ++ second) = checks first ++ checks second
  := List.filterMap_append

/-- Mute events ask for no checks. -/
theorem checks_mute {events : List Event} (mute : ∀ event ∈ events, event.isMute) :
  checks events = []
  := by
  rw [checks, List.filterMap_eq_nil_iff]
  intro event present
  have h := mute event present
  cases event with
  | checking => cases h
  | _ => rfl

/-- Nothing is seen under a URI after events that publish nothing but empty lists for it,
if nothing was seen before. -/
theorem Cleared.append {first second : List Event} {uri : Uri} (h : Cleared first uri)
    (h' : Cleared second uri) :
  Cleared (first ++ second) uri
  := by
  intro diagnostics seen
  cases last : lastPublished second uri with
  | none =>
    rw [lastPublished_append_none last] at seen
    apply h diagnostics seen
  | some published =>
    rw [lastPublished_append_some last] at seen
    apply h' diagnostics
    rw [last, seen]

/-- Nothing is seen under a URI after events that publish only empty lists for it. -/
theorem cleared_of_empty {events : List Event} {uri : Uri}
    (empty : ∀ event ∈ events, ∀ diagnostics, event.published? uri = some diagnostics →
      diagnostics = []) :
  Cleared events uri
  := by
  intro diagnostics seen
  obtain ⟨event, here, publishes⟩ := List.mem_filterMap.mp (List.mem_of_getLast? seen)
  apply empty event here diagnostics publishes

/-- What was seen before does not matter after events that publish something. -/
theorem Cleared.prepend (first : List Event) {second : List Event} {uri : Uri}
    (h : Cleared second uri)
    (present : ∃ event ∈ second, ∃ diagnostics, event.published? uri = some diagnostics) :
  Cleared (first ++ second) uri
  := by
  intro diagnostics seen
  rw [lastPublished_append] at seen
  cases last : lastPublished second uri with
  | none =>
    obtain ⟨event, here, diagnostics, publishes⟩ := present
    rw [lastPublished, List.getLast?_eq_none_iff, List.filterMap_eq_nil_iff] at last
    rw [last event here] at publishes
    cases publishes
  | some published =>
    rw [last, Option.some_or] at seen
    obtain rfl := Option.some.inj seen
    apply h published last

/-- Nothing is seen after mute events, if nothing was seen before. -/
theorem Cleared.append_mute {first second : List Event} {uri : Uri} (h : Cleared first uri)
    (mute : ∀ event ∈ second, event.isMute) :
  Cleared (first ++ second) uri
  := by
  intro diagnostics
  rw [lastPublished_append_none (lastPublished_mute mute uri)]
  apply h

end Event

end TemplateLint
