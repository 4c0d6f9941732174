import Mathlib.Data.List.Perm.Basic
import TemplateLint.Proofs.Document.Store

/-!
# Versions

What becomes of an open document while changes of it arrive in any order.  As long as no
call of the store opens or closes it, it keeps its URI and its language, and its version
never goes back.  Versioned changes lead to the one with the highest version, whatever the
order in which they come: `after_changes` says so of the entire store.
-/

namespace TemplateLint

namespace Store

/-! ### Runs of calls -/

/-- A call of the store. -/
inductive Call where
  | insert (document : Document)
  | update (uri : Uri) (version : Option Int) (text : String)
  | close (uri : Uri)
  | get (uri : Uri)
  | all

/-- The store after a call. -/
def Call.apply (s : Store) : Call → Store
  | insert document => s.insert document
  | update uri version text => (s.update uri version text).2
  | close uri => s.close uri
  | get _ => s
  | all => s

/-- The store after calls. -/
def after (s : Store) (calls : List Call) : Store := calls.foldl Call.apply s

/-- Whether a call neither opens nor closes the document under a URI. -/
def Call.Spares (uri : Uri) : Call → Prop
  | insert document => document.uri.text ≠ uri.text
  | close other => other.text ≠ uri.text
  | _ => True

@[simp] theorem after_append (s : Store) (first second : List Call) :
  s.after (first ++ second) = (s.after first).after second
  := List.foldl_append

/-! ### Single updates -/

/-- Whether a version may take the place of another one: it is not older, and a version
that is known stays known. -/
def Reaches : Option Int → Option Int → Prop
  | some old, some new => old ≤ new
  | some _, none => False
  | none, _ => True

theorem Reaches.refl (version : Option Int) :
  Reaches version version
  := by
  cases version with
  | none => trivial
  | some v => apply Int.le_refl

theorem Reaches.trans {first second third : Option Int} (h : Reaches first second)
    (h' : Reaches second third) :
  Reaches first third
  := by
  cases first with
  | none => trivial
  | some a =>
    cases second with
    | none => cases h
    | some b =>
      cases third with
      | none => cases h'
      | some c => apply Int.le_trans h h'

/-- A change is not stale if it has no version, or there is none to compare it with, or its
version is newer. -/
theorem isStale_eq_false_iff (version current : Option Int) :
  isStale version current = false
    ↔ ∀ new, version = some new → ∀ old, current = some old → old < new
  := by
  cases version with
  | none => simp [isStale]
  | some new =>
    cases current with
    | none => simp [isStale]
    | some old => simp [isStale]

theorem reaches_changed {document : Document} {version : Option Int}
    (fresh : isStale version document.version = false) (text : String) :
  Reaches document.version (changed document version text).version
  := by
  cases version with
  | none => apply Reaches.refl
  | some new =>
    cases old : document.version with
    | none => trivial
    | some v =>
      apply Int.le_of_lt
      apply (isStale_eq_false_iff _ _).mp fresh new rfl v old

/-- What an update does, in terms of the document that is found. -/
theorem update_eq {s : Store} {uri : Uri} {held : Document} (found : s.get? uri = some held)
    (version : Option Int) (text : String) :
  s.update uri version text
    = if isStale version held.version then (none, s)
      else (some (changed held version text),
        ⟨setEntry s.entries uri.text (changed held version text)⟩)
  := by
  rw [update, found]

/-- What an update of an open document does.  It is accepted exactly if it has no version,
or none is stored, or the stored one is smaller; a refused one leaves the entire store as
it is.  One without a version keeps the version and replaces the text; one with a version
replaces both.  All other documents stay. -/
structure Updates (s : Store) (uri : Uri) (held : Document) (version : Option Int)
    (text : String) : Prop where
  accepted : (s.update uri version text).1 ≠ none
    ↔ ∀ new, version = some new → held.version = none ∨ ∃ old, held.version = some old ∧ old < new
  refused : (s.update uri version text).1 = none → (s.update uri version text).2 = s
  unversioned : version = none →
    (s.update uri version text).1 = some { held with text := text }
      ∧ (s.update uri version text).2.get? uri = some { held with text := text }
  versioned : ∀ new, version = some new → (s.update uri version text).1 ≠ none →
    (s.update uri version text).1 = some { held with version := version, text := text }
      ∧ (s.update uri version text).2.get? uri
        = some { held with version := version, text := text }
  others : ∀ other : Uri, other.text ≠ uri.text →
    (s.update uri version text).2.get? other = s.get? other

theorem updates_of_get? {s : Store} {uri : Uri} {held : Document}
    (found : s.get? uri = some held) (version : Option Int) (text : String) :
  s.Updates uri held version text
  := by
  have accepts : isStale version held.version = false
      ↔ ∀ new, version = some new →
        held.version = none ∨ ∃ old, held.version = some old ∧ old < new := by
    rw [isStale_eq_false_iff]
    cases held.version with
    | none => simp
    | some old => simp
  have places (new : Document) (other : Uri) :
      (⟨setEntry s.entries uri.text new⟩ : Store).get? other
        = if other.text = uri.text then some new else s.get? other :=
    lookup_setEntry s.entries uri.text other.text new
  have updated := update_eq found version text
  cases stale : isStale version held.version with
  | true =>
    rw [stale, if_pos rfl] at updated
    constructor
    · rw [updated, ← accepts, stale]
      simp
    · rw [updated]
      simp
    · rintro rfl
      cases stale
    · rw [updated]
      simp
    · rw [updated]
      simp
  | false =>
    rw [stale, if_neg Bool.false_ne_true] at updated
    constructor
    · rw [updated, ← accepts, stale]
      simp
    · rw [updated]
      simp
    · rintro rfl
      rw [updated]
      simp [places, changed]
    · rintro new rfl -
      rw [updated]
      simp [places, changed]
    · intro other differ
      rw [updated]
      simp [places, differ]

/-! ### What runs keep -/

/-- Whether a document comes of another one by changes: URI and language are the same, and
the version has not gone back. -/
structure ComesOf (old new : Document) : Prop where
  uri : new.uri = old.uri
  language : new.language = old.language
  version : Reaches old.version new.version

theorem ComesOf.refl (document : Document) :
  ComesOf document document
  := ⟨rfl, rfl, Reaches.refl _⟩

theorem ComesOf.trans {first second third : Document} (h : ComesOf first second)
    (h' : ComesOf second third) :
  ComesOf first third
  := ⟨h'.uri.trans h.uri, h'.language.trans h.language, h.version.trans h'.version⟩

/-- A call that neither opens nor closes a document leaves it open, and what is stored then
comes of what was stored. -/
theorem Call.Spares.comesOf {call : Call} {uri : Uri} (spares : call.Spares uri) {s : Store}
    {held : Document} (found : s.get? uri = some held) :
  ∃ next, (call.apply s).get? uri = some next ∧ ComesOf held next
  := by
  have stays : ∃ next, some held = some next ∧ ComesOf held next :=
    ⟨held, rfl, ComesOf.refl held⟩
  cases call with
  | insert document =>
    rw [Call.apply, get?_insert, if_neg fun same => spares same.symm, found]
    apply stays
  | update other version text =>
    rw [Call.apply]
    by_cases same : uri.text = other.text
    · rw [get?_congr same] at found ⊢
      rw [update_eq found]
      cases stale : isStale version held.version with
      | true =>
        rw [if_pos rfl, found]
        apply stays
      | false =>
        have replaced : (⟨setEntry s.entries other.text (changed held version text)⟩
              : Store).get? other = some (changed held version text) := by
          simp [get?, lookup_setEntry]
        refine ⟨_, replaced, rfl, rfl, reaches_changed stale text⟩
    · rcases updated : s.update other version text with ⟨_ | document, next⟩
      · obtain rfl := update_none updated
        rw [found]
        apply stays
      · rw [get?_update updated, if_neg same, found]
        apply stays
  | close other =>
    rw [Call.apply, get?_close, if_neg fun same => spares same.symm, found]
    apply stays
  | get other =>
    rw [Call.apply, found]
    apply stays
  | all =>
    rw [Call.apply, found]
    apply stays

/-- So do several calls. -/
theorem comesOf_after {uri : Uri} {calls : List Call}
    (spares : ∀ call ∈ calls, call.Spares uri) {s : Store} {held : Document}
    (found : s.get? uri = some held) :
  ∃ next, (s.after calls).get? uri = some next ∧ ComesOf held next
  := by
  induction calls generalizing s held with
  | nil => refine ⟨held, found, ComesOf.refl held⟩
  | cons call rest ih =>
    obtain ⟨next, found, comes⟩ := (spares call List.mem_cons_self).comesOf found
    obtain ⟨last, found, comes'⟩ :=
      ih (fun call present => spares call (List.mem_cons_of_mem _ present)) found
    refine ⟨last, found, comes.trans comes'⟩

/-! ### Changes in any order -/

/-- The calls for versioned changes of a document. -/
def changesOf (uri : Uri) (changes : List (Int × String)) : List Call :=
  changes.map fun change => .update uri (some change.1) change.2

/-- Setting an entry twice is setting it the second time. -/
theorem setEntry_setEntry (entries : List (String × Document)) (key : String)
    (first second : Document) :
  setEntry (setEntry entries key first) key second = setEntry entries key second
  := by
  induction entries with
  | nil => simp [setEntry]
  | cons entry rest ih =>
    obtain ⟨k, old⟩ := entry
    rw [setEntry, setEntry]
    split
    · rename_i same
      rw [setEntry, if_pos same]
    · rename_i differ
      rw [setEntry, if_neg differ, ih]

/-- Setting an entry to what is found under its key changes nothing. -/
theorem setEntry_of_lookup {entries : List (String × Document)} {key : String}
    {document : Document} (found : entries.lookup key = some document) :
  setEntry entries key document = entries
  := by
  induction entries with
  | nil => cases found
  | cons entry rest ih =>
    obtain ⟨k, old⟩ := entry
    rw [lookup_cons] at found
    rw [setEntry]
    split
    · rename_i same
      rw [if_pos same.symm] at found
      rw [Option.some.inj found]
    · rename_i differ
      rw [if_neg fun same => differ same.symm] at found
      rw [ih found]

/-- The document that versioned changes of a document lead to. -/
def latest (document : Document) (changes : List (Int × String)) : Document :=
  changes.foldl
    (fun d change =>
      if isStale (some change.1) d.version then d else changed d (some change.1) change.2)
    document

/-- Versioned changes put the document that they lead to in the place of the one that is
found, and do nothing else. -/
theorem after_changesOf {s : Store} {uri : Uri} {held : Document}
    (found : s.get? uri = some held) (changes : List (Int × String)) :
  s.after (changesOf uri changes) = ⟨setEntry s.entries uri.text (latest held changes)⟩
  := by
  induction changes generalizing s held with
  | nil =>
    change s = ⟨setEntry s.entries uri.text held⟩
    rw [setEntry_of_lookup found]
  | cons change rest ih =>
    have updated := update_eq found (some change.1) change.2
    change ((s.update uri (some change.1) change.2).2).after (changesOf uri rest)
      = ⟨setEntry s.entries uri.text (latest held (change :: rest))⟩
    rw [latest, List.foldl_cons, updated]
    split
    · apply ih found
    · have replaced : (⟨setEntry s.entries uri.text (changed held (some change.1) change.2)⟩
            : Store).get? uri
          = some (changed held (some change.1) change.2) := by
        simp [get?, lookup_setEntry]
      rw [ih replaced, setEntry_setEntry]
      rfl

/-- Stale changes lead nowhere. -/
theorem latest_of_stale {document : Document} {changes : List (Int × String)}
    (stale : ∀ change ∈ changes, isStale (some change.1) document.version = true) :
  latest document changes = document
  := by
  induction changes with
  | nil => rfl
  | cons change rest ih =>
    rw [latest, List.foldl_cons, if_pos (stale change List.mem_cons_self)]
    apply ih
    intro other present
    apply stale other (List.mem_cons_of_mem _ present)

/-- Changes of which one has the highest version lead to that one, unless it is stale. -/
theorem latest_of_highest {document : Document} {changes : List (Int × String)}
    {version : Int} {text : String} (present : (version, text) ∈ changes)
    (highest : ∀ change ∈ changes, change.1 ≤ version)
    (single : ∀ change ∈ changes, change.1 = version → change.2 = text)
    (fresh : isStale (some version) document.version = false) :
  latest document changes = { document with version := some version, text := text }
  := by
  induction changes generalizing document with
  | nil => cases present
  | cons change rest ih =>
    obtain ⟨v, t⟩ := change
    have highest' := fun other h => highest other (List.mem_cons_of_mem _ h)
    have single' := fun other h => single other (List.mem_cons_of_mem _ h)
    rw [latest, List.foldl_cons]
    dsimp only
    cases stale : isStale (some v) document.version with
    | true =>
      apply ih _ highest' single' fresh
      rcases List.mem_cons.mp present with same | present
      · cases same
        rw [fresh] at stale
        cases stale
      · apply present
    | false =>
      rw [if_neg Bool.false_ne_true]
      by_cases same : v = version
      · have text_eq : t = text := single (v, t) List.mem_cons_self same
        subst same text_eq
        apply latest_of_stale
        intro other h
        simpa [isStale, changed] using highest' other h
      · have lower : v < version := by
          have := highest (v, t) List.mem_cons_self
          dsimp only at this
          omega
        apply ih _ highest' single'
        · simpa [isStale, changed] using lower
        · rcases List.mem_cons.mp present with same' | present
          · cases same'
            cases same rfl
          · apply present

/-- Changes of a document in any order lead to the store in which it is opened with the
highest version and the text of that. -/
theorem after_changes {s : Store} {uri : Uri} {held : Document}
    (found : s.get? uri = some held) (place : held.uri = uri)
    {changes order : List (Int × String)} (distinct : (changes.map Prod.fst).Nodup)
    (newer : ∀ change ∈ changes, ∀ old, held.version = some old → old < change.1)
    (reordered : order.Perm changes) {version : Int} {text : String}
    (present : (version, text) ∈ changes) (highest : ∀ change ∈ changes, change.1 ≤ version) :
  s.after (changesOf uri order)
    = s.insert { held with version := some version, text := text }
  := by
  have single change (h : change ∈ changes) (same : change.1 = version) :
      change.2 = text := by
    rw [List.inj_on_of_nodup_map distinct h present same]
  have fresh : isStale (some version) held.version = false := by
    apply (isStale_eq_false_iff _ _).mpr
    rintro _ ⟨⟩
    apply newer _ present
  rw [after_changesOf found, latest_of_highest (reordered.mem_iff.mpr present) _ _ fresh]
  · rw [← place]
    rfl
  · intro change h
    apply highest change (reordered.mem_iff.mp h)
  · intro change h
    apply single change (reordered.mem_iff.mp h)

/-! ### Between opening and closing -/

/-- As long as a document is open, that is, after calls that neither open nor close it, its
URI and its language are those with which it was opened, and its version has never gone
back.  At each such time an update does what `Updates` says; and changes with distinct
versions that are all newer than the stored one lead, in whatever order they come, to the
store in which the document is opened with the highest of these versions and its text. -/
theorem open_document_advances (s : Store) (document : Document) (calls : List Call)
    (spares : ∀ call ∈ calls, call.Spares document.uri) :
  let opened := s.insert document
  let now := opened.after calls
  ∃ held, now.get? document.uri = some held ∧ ComesOf document held
    ∧ (∀ first second, calls = first ++ second →
        ∃ earlier, (opened.after first).get? document.uri = some earlier
          ∧ ComesOf earlier held)
    ∧ (∀ version text, now.Updates document.uri held version text)
    ∧ ∀ changes : List (Int × String), (changes.map Prod.fst).Nodup →
        (∀ change ∈ changes, ∀ old, held.version = some old → old < change.1) →
        ∀ version text, (version, text) ∈ changes →
          (∀ change ∈ changes, change.1 ≤ version) →
          ∀ order, order.Perm changes →
            now.after (changesOf document.uri order)
              = now.insert { held with version := some version, text := text }
  := by
  intro opened now
  have start : opened.get? document.uri = some document := by
    rw [get?_insert, if_pos rfl]
  obtain ⟨held, found, comes⟩ := comesOf_after spares start
  refine ⟨held, found, comes, ?_, ?_, ?_⟩
  · rintro first second rfl
    obtain ⟨earlier, before, -⟩ :=
      comesOf_after (fun call present => spares call (List.mem_append_left _ present)) start
    obtain ⟨later, after, comes⟩ :=
      comesOf_after (fun call present => spares call (List.mem_append_right _ present)) before
    rw [← after_append] at after
    obtain rfl := Option.some.inj (found.symm.trans after)
    use earlier, before
  · intro version text
    apply updates_of_get? found
  · intro changes distinct newer version text present highest order reordered
    apply after_changes found comes.uri distinct newer reordered present highest

/-- A template that is opened in version 1 and saved, while another one is opened. -/
theorem open_document_advances_sample :
  let uri : Uri := ⟨"file", some ⟨"", "", none⟩, "/w/a.pug", none, none⟩
  let other : Uri := ⟨"file", some ⟨"", "", none⟩, "/w/b.pug", none, none⟩
  let now := (empty.insert ⟨uri, "pug", some 1, "p"⟩).after
    [.update uri none "p saved", .insert ⟨other, "pug", none, "q"⟩, .all]
  now.after (changesOf uri [(4, "four"), (2, "two"), (3, "three")])
    = now.insert ⟨uri, "pug", some 4, "four"⟩
  := by
  intro uri other now
  have spares : ∀ call ∈ [.update uri none "p saved", .insert ⟨other, "pug", none, "q"⟩, .all],
      Call.Spares uri call := by
    intro call present
    simp only [List.mem_cons, List.not_mem_nil, or_false] at present
    rcases present with rfl | rfl | rfl
    · trivial
    · change other.text ≠ uri.text
      decide +kernel
    · trivial
  obtain ⟨held, found, -, -, -, converge⟩ :=
    open_document_advances empty ⟨uri, "pug", some 1, "p"⟩ _ spares
  have same : held = ⟨uri, "pug", some 1, "p saved"⟩ := by
    apply Option.some.inj
    rw [← found]
    decide +kernel
  subst same
  apply converge [(2, "two"), (3, "three"), (4, "four")]
  · decide
  · decide
  · decide
  · decide
  · decide

end Store

end TemplateLint
