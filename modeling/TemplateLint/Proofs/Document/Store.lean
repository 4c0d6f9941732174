import Mathlib.Data.List.Nodup
import Mathlib.Tactic.Use
import TemplateLint.Document.Store

/-!
# Properties of the store

What each operation of the store does to the documents under all URIs.  A store is well
keyed if each of its documents stands under the text of its own URI and no two entries
have the same key; the operations keep it so.  The documents of a well keyed store are
those that it gives under their own URIs.
-/

namespace TemplateLint

namespace Store

/-! ### Entries -/

theorem lookup_cons (k key : String) (document : Document)
    (rest : List (String × Document)) :
  ((k, document) :: rest).lookup key = if key = k then some document else rest.lookup key
  := by
  rw [List.lookup_cons]
  by_cases h : key = k
  · simp [h]
  · have h' : (key == k) = false := by simpa using h
    simp only [h, h', if_false]

/-- Setting an entry changes what is found under its key and nothing else. -/
theorem lookup_setEntry (entries : List (String × Document)) (key other : String)
    (document : Document) :
  (setEntry entries key document).lookup other
    = if other = key then some document else entries.lookup other
  := by
  induction entries with
  | nil => apply lookup_cons
  | cons entry rest ih =>
    obtain ⟨k, old⟩ := entry
    rw [setEntry, lookup_cons]
    by_cases hk : k = key
    · rw [if_pos hk, lookup_cons, hk]
      split <;> rfl
    · rw [if_neg hk, lookup_cons, ih]
      split
      · rename_i h
        rw [if_neg (by simpa [h] using hk)]
      · rfl

/-- Setting an entry adds its key at the end, unless it is there already. -/
theorem keys_setEntry (entries : List (String × Document)) (key : String)
    (document : Document) :
  (setEntry entries key document).map Prod.fst
    = if key ∈ entries.map Prod.fst then entries.map Prod.fst
      else entries.map Prod.fst ++ [key]
  := by
  induction entries with
  | nil => rfl
  | cons entry rest ih =>
    obtain ⟨k, old⟩ := entry
    rw [setEntry]
    by_cases hk : k = key
    · simp [hk]
    · have hk' : ¬ key = k := fun h => hk h.symm
      by_cases h : key ∈ rest.map Prod.fst <;> simp_all

/-- The entries after one was set are that entry and old ones. -/
theorem mem_setEntry {entries : List (String × Document)} {key : String}
    {document : Document} {entry : String × Document}
    (h : entry ∈ setEntry entries key document) :
  entry = (key, document) ∨ entry ∈ entries
  := by
  induction entries with
  | nil => simpa [setEntry] using h
  | cons first rest ih =>
    obtain ⟨k, old⟩ := first
    rw [setEntry] at h
    split at h
    · rename_i hk
      subst hk
      rcases List.mem_cons.mp h with h | h
      · left
        apply h
      · right
        apply List.mem_cons_of_mem _ h
    · rcases List.mem_cons.mp h with h | h
      · right
        rw [h]
        apply List.mem_cons_self
      · rcases ih h with h | h
        · left
          apply h
        · right
          apply List.mem_cons_of_mem _ h

/-- What the store finds under a URI is one of its entries. -/
theorem mem_of_get? {s : Store} {uri : Uri} {document : Document}
    (found : s.get? uri = some document) :
  (uri.text, document) ∈ s.entries
  := by
  obtain ⟨entries⟩ := s
  rw [get?] at found
  dsimp only at found ⊢
  induction entries with
  | nil => cases found
  | cons entry rest ih =>
    obtain ⟨k, old⟩ := entry
    rw [lookup_cons] at found
    split at found
    · rename_i same
      rw [same, Option.some.inj found]
      apply List.mem_cons_self
    · apply List.mem_cons_of_mem _ (ih found)

/-! ### Operations -/

/-- URIs are told apart by their texts. -/
theorem get?_congr {s : Store} {uri other : Uri} (same : uri.text = other.text) :
  s.get? uri = s.get? other
  := by
  rw [get?, get?, same]

/-- A document that is inserted is found under its URI; all others stay. -/
theorem get?_insert (s : Store) (document : Document) (uri : Uri) :
  (s.insert document).get? uri
    = if uri.text = document.uri.text then some document else s.get? uri
  := by
  apply lookup_setEntry

/-- The document under a URI that is closed is gone; all others stay. -/
theorem get?_close (s : Store) (closed uri : Uri) :
  (s.close closed).get? uri = if uri.text = closed.text then none else s.get? uri
  := by
  obtain ⟨entries⟩ := s
  simp only [close, get?]
  induction entries with
  | nil => simp
  | cons entry rest ih =>
    obtain ⟨k, document⟩ := entry
    rw [List.filter_cons, lookup_cons]
    by_cases hk : k = closed.text
    · simp only [hk, ne_eq, not_true_eq_false, decide_false, Bool.false_eq_true, if_false, ih]
      split <;> rfl
    · simp only [hk, ne_eq, not_false_eq_true, decide_true, if_true, lookup_cons, ih]
      split
      · rename_i h
        rw [if_neg (by simpa [h] using hk)]
      · rfl

/-- A change that is not refused replaces the document under the URI by its result. -/
theorem get?_update {s : Store} {uri : Uri} {version : Option Int} {text : String}
    {document : Document} {next : Store}
    (h : s.update uri version text = (some document, next)) (other : Uri) :
  next.get? other = if other.text = uri.text then some document else s.get? other
  := by
  rw [update] at h
  split at h
  · cases h
  · split at h
    · cases h
    · cases h
      apply lookup_setEntry

/-- A change that is refused leaves the store as it is. -/
theorem update_none {s : Store} {uri : Uri} {version : Option Int} {text : String}
    {next : Store} (h : s.update uri version text = (none, next)) :
  next = s
  := by
  rw [update] at h
  split at h
  · cases h
    rfl
  · split at h
    · cases h
      rfl
    · cases h

/-- A change that is not refused changes a document of the store. -/
theorem update_some {s : Store} {uri : Uri} {version : Option Int} {text : String}
    {document : Document} {next : Store}
    (h : s.update uri version text = (some document, next)) :
  ∃ old, s.get? uri = some old ∧ document = changed old version text
    ∧ isStale version old.version = false
  := by
  rw [update] at h
  split at h
  · cases h
  · rename_i old found
    split at h
    · cases h
    · rename_i fresh
      cases h
      use old, found, rfl
      simpa using fresh

/-! ### Well keyed stores -/

/-- The stores whose documents stand under the texts of their URIs, each key once. -/
structure WellKeyed (s : Store) : Prop where
  uri : ∀ entry ∈ s.entries, entry.2.uri.text = entry.1
  distinct : (s.entries.map Prod.fst).Nodup

theorem wellKeyed_empty :
  empty.WellKeyed
  := ⟨by simp [empty], by simp [empty]⟩

/-- A well keyed store has an entry if and only if it finds it. -/
theorem WellKeyed.mem_iff {s : Store} (keyed : s.WellKeyed) (uri : Uri)
    (document : Document) :
  s.get? uri = some document ↔ (uri.text, document) ∈ s.entries
  := by
  obtain ⟨entries⟩ := s
  have distinct := keyed.distinct
  simp only [get?] at distinct ⊢
  clear keyed
  induction entries with
  | nil => simp
  | cons entry rest ih =>
    obtain ⟨k, old⟩ := entry
    simp only [List.map_cons, List.nodup_cons] at distinct
    rw [lookup_cons, List.mem_cons]
    by_cases h : uri.text = k
    · subst h
      have absent : (uri.text, document) ∉ rest := by
        intro present
        apply distinct.1
        apply List.mem_map_of_mem (f := Prod.fst) present
      simp [absent, eq_comm]
    · simp [h, ih distinct.2]

/-- The document that a well keyed store finds under a URI has the text of this URI. -/
theorem WellKeyed.uri_eq {s : Store} (keyed : s.WellKeyed) {uri : Uri}
    {document : Document} (h : s.get? uri = some document) :
  document.uri.text = uri.text
  := by
  apply keyed.uri (uri.text, document)
  apply (keyed.mem_iff uri document).mp h

/-- The documents of a well keyed store are the ones that it finds under their URIs. -/
theorem WellKeyed.mem_all {s : Store} (keyed : s.WellKeyed) (document : Document) :
  document ∈ s.all ↔ s.get? document.uri = some document
  := by
  rw [keyed.mem_iff, all, List.mem_mergeSort, List.mem_map]
  constructor
  · rintro ⟨⟨key, d⟩, present, rfl⟩
    have h := keyed.uri _ present
    dsimp only at h ⊢
    rw [h]
    apply present
  · intro present
    use (document.uri.text, document), present

/-- Setting an entry under the text of its URI keeps a store well keyed. -/
theorem WellKeyed.setEntry {s : Store} (keyed : s.WellKeyed) {key : String}
    {document : Document} (h : document.uri.text = key) :
  WellKeyed ⟨setEntry s.entries key document⟩
  := by
  constructor
  · intro entry present
    rcases mem_setEntry present with rfl | old
    · apply h
    · apply keyed.uri entry old
  · rw [keys_setEntry]
    split
    · apply keyed.distinct
    · rename_i absent
      apply List.Nodup.append keyed.distinct (List.nodup_singleton key)
      simpa using absent

theorem WellKeyed.insert {s : Store} (keyed : s.WellKeyed) (document : Document) :
  (s.insert document).WellKeyed
  := keyed.setEntry rfl

theorem WellKeyed.close {s : Store} (keyed : s.WellKeyed) (uri : Uri) :
  (s.close uri).WellKeyed
  := by
  constructor
  · intro entry present
    apply keyed.uri entry
    apply List.mem_of_mem_filter present
  · apply List.Nodup.sublist _ keyed.distinct
    apply List.Sublist.map
    apply List.filter_sublist

theorem WellKeyed.update {s : Store} (keyed : s.WellKeyed) (uri : Uri)
    (version : Option Int) (text : String) :
  (s.update uri version text).2.WellKeyed
  := by
  rw [Store.update]
  split
  · apply keyed
  · rename_i document found
    split
    · apply keyed
    · apply keyed.setEntry
      apply keyed.uri_eq found

/-- A document is current if the store holds its version and its text under its URI. -/
theorem isCurrent_iff (s : Store) (document : Document) :
  s.isCurrent document = true
    ↔ ∃ stored, s.get? document.uri = some stored
      ∧ stored.version = document.version ∧ stored.text = document.text
  := by
  rw [isCurrent]
  cases s.get? document.uri with
  | none => simp
  | some stored => simp

/-- A document that the store finds under its URI is current. -/
theorem isCurrent_of_get? {s : Store} {document : Document}
    (h : s.get? document.uri = some document) :
  s.isCurrent document = true
  := by
  simp [isCurrent, h]

end Store

end TemplateLint
