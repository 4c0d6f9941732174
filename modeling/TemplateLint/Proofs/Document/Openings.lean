import Mathlib.Data.List.Induction
import TemplateLint.Proofs.Document.Versions

/-!
# Openings

Which documents are open after any calls of the store.  A document is open exactly if its last
opening comes after its last closing; it stands under its own URI, in the language in which it
was opened last; and all open documents are listed in strictly ascending order of their URIs,
so that none of them is listed twice.
-/

namespace TemplateLint

namespace Store

/-! ### Well keyed stores -/

theorem WellKeyed.apply {s : Store} (keyed : s.WellKeyed) (call : Call) :
  (call.apply s).WellKeyed
  := by
  cases call with
  | insert document => apply keyed.insert
  | update uri version text => apply keyed.update
  | close uri => apply keyed.close
  | get uri => apply keyed
  | all => apply keyed

/-- Calls keep a store well keyed. -/
theorem WellKeyed.after {s : Store} (keyed : s.WellKeyed) (calls : List Call) :
  (s.after calls).WellKeyed
  := by
  induction calls generalizing s with
  | nil => apply keyed
  | cons call rest ih => apply ih (keyed.apply call)

/-- The documents of a well keyed store are listed in strictly ascending order of their
URIs. -/
theorem WellKeyed.ascending_all {s : Store} (keyed : s.WellKeyed) :
  s.all.Pairwise fun first second => first.uri.text < second.uri.text
  := by
  have sorted : s.all.Pairwise fun first second => precedes first second = true := by
    apply List.pairwise_mergeSort
    · intro first second third h h'
      rw [precedes, decide_eq_true_iff] at h h' ⊢
      apply String.le_trans h h'
    · intro first second
      rw [Bool.or_eq_true, precedes, precedes, decide_eq_true_iff, decide_eq_true_iff]
      apply String.le_total
  have distinct : s.all.Pairwise fun first second => first.uri.text ≠ second.uri.text := by
    have listed : (s.entries.map Prod.snd).Pairwise
        fun first second => first.uri.text ≠ second.uri.text := by
      have keys := keyed.distinct
      rw [List.Nodup, List.pairwise_map] at keys
      rw [List.pairwise_map]
      apply keys.imp_of_mem
      intro first second present present' differ
      rw [keyed.uri _ present, keyed.uri _ present']
      apply differ
    apply listed.perm (List.mergeSort_perm _ _).symm
    intro first second differ
    apply differ.symm
  apply (sorted.and distinct).imp
  rintro first second ⟨ordered, differ⟩
  rw [precedes, decide_eq_true_iff] at ordered
  apply Std.lt_of_le_of_ne ordered differ

/-! ### What is open -/

/-- A call that neither opens nor closes a document leaves it closed. -/
theorem Call.Spares.get?_eq_none {call : Call} {uri : Uri} (spares : call.Spares uri)
    {s : Store} (absent : s.get? uri = none) :
  (call.apply s).get? uri = none
  := by
  cases call with
  | insert document =>
    rw [Call.apply, get?_insert, if_neg fun same => spares same.symm, absent]
  | update other version text =>
    rw [Call.apply]
    rcases updated : s.update other version text with ⟨_ | document, next⟩
    · rw [update_none updated, absent]
    · obtain ⟨old, found, -, -⟩ := update_some updated
      have differ : uri.text ≠ other.text := by
        intro same
        rw [get?_congr same, found] at absent
        cases absent
      rw [get?_update updated, if_neg differ, absent]
  | close other => rw [Call.apply, get?_close, absent, ite_self]
  | get other => apply absent
  | all => apply absent

/-- What is open was opened, and neither opened nor closed since. -/
theorem exists_opening_of_get? {calls : List Call} {uri : Uri} {held : Document}
    (found : (empty.after calls).get? uri = some held) :
  ∃ before opened rest, calls = before ++ .insert opened :: rest
    ∧ opened.uri.text = uri.text ∧ ∀ call ∈ rest, call.Spares uri
  := by
  induction calls using List.reverseRecOn generalizing held with
  | nil => cases found
  | append_singleton calls call ih =>
    rw [after_append] at found
    change (call.apply (empty.after calls)).get? uri = some held at found
    by_cases spares : call.Spares uri
    · cases earlier : (empty.after calls).get? uri with
      | none =>
        rw [spares.get?_eq_none earlier] at found
        cases found
      | some document =>
        obtain ⟨before, opened, rest, rfl, same, others⟩ := ih earlier
        refine ⟨before, opened, rest ++ [call], by simp, same, ?_⟩
        intro other present
        rcases List.mem_append.mp present with present | present
        · apply others other present
        · rw [List.mem_singleton.mp present]
          apply spares
    · cases call with
      | insert document =>
        refine ⟨calls, document, [], rfl, of_not_not spares, ?_⟩
        intro other present
        cases present
      | close other =>
        rw [Call.apply, get?_close, if_pos (of_not_not spares).symm] at found
        cases found
      | _ => exact absurd trivial spares

/-! ### Positions of calls -/

/-- Whether the document under a URI is closed at a position. -/
def ClosedAt (calls : List Call) (uri : Uri) (position : Nat) : Prop :=
  ∃ closed : Uri, calls[position]? = some (.close closed) ∧ closed.text = uri.text

/-- Whether the document under a URI is opened at a position. -/
def OpenedAt (calls : List Call) (uri : Uri) (position : Nat) : Prop :=
  ∃ opened : Document, calls[position]? = some (.insert opened) ∧ opened.uri.text = uri.text

/-- An opening of a document that comes after all its closings and all its other openings, that
is, after the last one of each: its position, and the document that is opened there. -/
structure OpenSince (calls : List Call) (uri : Uri) (position : Nat) (opened : Document) :
    Prop where
  opens : calls[position]? = some (.insert opened)
  sameUri : opened.uri.text = uri.text
  last : ∀ other, OpenedAt calls uri other → other ≤ position
  closed : ∀ other, ClosedAt calls uri other → other < position

/-- Behind calls that neither open nor close a document there is no position at which it is
opened or closed. -/
theorem le_of_opens_or_closes {before rest : List Call} {call : Call} {uri : Uri}
    (spares : ∀ other ∈ rest, other.Spares uri) {position : Nat}
    (changes : OpenedAt (before ++ call :: rest) uri position
      ∨ ClosedAt (before ++ call :: rest) uri position) :
  position ≤ before.length
  := by
  apply Nat.le_of_not_lt
  intro late
  obtain ⟨i, rfl⟩ := Nat.exists_eq_add_of_le late
  have shifted : (before ++ call :: rest)[before.length + 1 + i]? = rest[i]? := by
    rw [List.append_cons, List.getElem?_append_right (by simp)]
    simp
  rcases changes with ⟨document, here, same⟩ | ⟨other, here, same⟩
  · rw [shifted] at here
    exact spares _ (List.mem_of_getElem? here) same
  · rw [shifted] at here
    exact spares _ (List.mem_of_getElem? here) same

/-- The last opening comes after all closings exactly if nothing but calls that spare the
document follows it. -/
theorem openSince_iff {calls : List Call} {uri : Uri} {position : Nat} {opened : Document} :
  OpenSince calls uri position opened
    ↔ ∃ before rest, calls = before ++ .insert opened :: rest ∧ before.length = position
      ∧ opened.uri.text = uri.text ∧ ∀ call ∈ rest, call.Spares uri
  := by
  constructor
  · rintro ⟨opens, same, last, closed⟩
    obtain ⟨inside, here⟩ := List.getElem?_eq_some_iff.mp opens
    refine ⟨calls.take position, calls.drop (position + 1), ?_, ?_, same, ?_⟩
    · rw [← here, ← List.drop_eq_getElem_cons, List.take_append_drop]
    · rw [List.length_take, Nat.min_eq_left (Nat.le_of_lt inside)]
    · intro call present
      obtain ⟨i, there⟩ := List.mem_iff_getElem?.mp present
      rw [List.getElem?_drop] at there
      cases call with
      | insert document =>
        intro sameUri
        have := last _ ⟨document, there, sameUri⟩
        omega
      | close other =>
        intro sameUri
        have := closed _ ⟨other, there, sameUri⟩
        omega
      | _ => trivial
  · rintro ⟨before, rest, rfl, rfl, same, spares⟩
    have here : (before ++ .insert opened :: rest)[before.length]? = some (.insert opened) := by
      simp
    refine ⟨here, same, ?_, ?_⟩
    · intro other opensThere
      apply le_of_opens_or_closes spares (.inl opensThere)
    · intro other closesThere
      apply Nat.lt_of_le_of_ne (le_of_opens_or_closes spares (.inr closesThere))
      rintro rfl
      obtain ⟨closed, there, -⟩ := closesThere
      rw [here] at there
      cases there

/-- What is open comes of what was opened last. -/
theorem exists_openSince_of_get? {calls : List Call} {uri : Uri} {held : Document}
    (found : (empty.after calls).get? uri = some held) :
  ∃ position opened, OpenSince calls uri position opened ∧ ComesOf opened held
  := by
  obtain ⟨before, opened, rest, rfl, same, spares⟩ := exists_opening_of_get? found
  refine ⟨before.length, opened, openSince_iff.mpr ⟨before, rest, rfl, rfl, same, spares⟩, ?_⟩
  have start : ((empty.after before).insert opened).get? uri = some opened := by
    rw [get?_insert, if_pos same.symm]
  obtain ⟨last, reached, comes⟩ := comesOf_after spares start
  rw [after_append] at found
  change (((empty.after before).insert opened).after rest).get? uri = some held at found
  rw [found] at reached
  rw [Option.some.inj reached]
  apply comes

theorem exists_get?_of_openSince {calls : List Call} {uri : Uri} {position : Nat}
    {opened : Document} (h : OpenSince calls uri position opened) :
  ∃ held, (empty.after calls).get? uri = some held
  := by
  obtain ⟨before, rest, rfl, -, same, spares⟩ := openSince_iff.mp h
  have start : ((empty.after before).insert opened).get? uri = some opened := by
    rw [get?_insert, if_pos same.symm]
  obtain ⟨held, found, -⟩ := comesOf_after spares start
  use held
  rw [after_append]
  apply found

/-! ### What is listed -/

/-- After any calls, every document stands under the text of its own URI.  The open documents
are listed in strictly ascending order of their URIs; a document is among them exactly if it
was opened after it was closed last, if ever; and it has the URI and the language with which
it was opened last. -/
theorem all_after_openings (calls : List Call) :
  let now := empty.after calls
  (∀ entry ∈ now.entries, entry.1 = entry.2.uri.text)
    ∧ (now.all.Pairwise fun first second => first.uri.text < second.uri.text)
    ∧ (∀ uri : Uri, (∃ document ∈ now.all, document.uri.text = uri.text)
      ↔ ∃ position opened, OpenSince calls uri position opened)
    ∧ ∀ document ∈ now.all, now.get? document.uri = some document
      ∧ ∃ position opened, OpenSince calls document.uri position opened
        ∧ document.uri = opened.uri ∧ document.language = opened.language
  := by
  intro now
  have keyed : now.WellKeyed := wellKeyed_empty.after calls
  refine ⟨?own, keyed.ascending_all, ?listed, ?language⟩
  case own =>
    intro entry present
    exact (keyed.uri entry present).symm
  case listed =>
    intro uri
    constructor
    · rintro ⟨document, present, same⟩
      have found := (keyed.mem_all document).mp present
      rw [get?_congr same] at found
      obtain ⟨position, opened, since, -⟩ := exists_openSince_of_get? found
      use position, opened
    · rintro ⟨position, opened, since⟩
      obtain ⟨held, found⟩ := exists_get?_of_openSince since
      have same := keyed.uri_eq found
      refine ⟨held, (keyed.mem_all held).mpr ?_, same⟩
      rw [get?_congr same]
      apply found
  case language =>
    intro document present
    have found := (keyed.mem_all document).mp present
    obtain ⟨position, opened, since, comes⟩ := exists_openSince_of_get? found
    exact ⟨found, position, opened, since, comes.uri, comes.language⟩

/-- A template that is closed and opened again in another language, while another one is open:
a change that comes too late does not open it. -/
theorem all_after_openings_of_reopened :
  let uri : Uri := ⟨"file", some ⟨"", "", none⟩, "/w/a.pug", none, none⟩
  let other : Uri := ⟨"file", some ⟨"", "", none⟩, "/w/b.pug", none, none⟩
  let reopened : Document := ⟨uri, "pug", some 1, "p again"⟩
  let calls := [.insert ⟨other, "pug", some 1, "q"⟩, .insert ⟨uri, "jade", some 1, "p"⟩,
    .close uri, .update uri (some 2) "late", .insert reopened]
  reopened ∈ (empty.after calls).all
    ∧ ∃ position opened, OpenSince calls uri position opened ∧ opened.language = "pug"
  := by
  intro uri other reopened calls
  obtain ⟨-, -, listed, kept⟩ := all_after_openings calls
  have since : OpenSince calls uri 4 reopened :=
    openSince_iff.mpr ⟨calls.dropLast, [], rfl, rfl, rfl, by simp⟩
  obtain ⟨document, present, same⟩ := (listed uri).mpr ⟨4, reopened, since⟩
  obtain ⟨found, position, opened, since, -, language⟩ := kept document present
  have stored : (empty.after calls).get? uri = some reopened := by decide +kernel
  rw [get?_congr same, stored] at found
  obtain rfl := Option.some.inj found
  exact ⟨present, position, opened, since, language.symm⟩

end Store

end TemplateLint
