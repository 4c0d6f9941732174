import TemplateLint.Proofs.Session.Run

/-!
# Options that are kept

The options of a directory are kept under the directory as it was first written.  They
are faithful as long as they are what resolution would give for that directory now, and
in force for a document if the session would take them for it.
-/

namespace TemplateLint

namespace Cache

/-- Options for a directory that has none yet are kept behind all others. -/
theorem insert_new {cache : Cache} {directory : Path} {options : Options}
    (new : cache.get? directory = none) :
  cache.insert directory options = cache ++ [(directory, options)]
  := by
  induction cache with
  | nil => rfl
  | cons entry rest ih =>
    obtain ⟨d, old⟩ := entry
    rw [get?, List.find?_cons] at new
    cases h : d.same directory with
    | true => simp [h] at new
    | false =>
      simp only [h] at new
      simp [insert, h, ih new]

theorem get?_cons (d : Path) (options : Options) (rest : Cache) (directory : Path) :
  get? ((d, options) :: rest) directory
    = if d.same directory then some options else rest.get? directory
  := by
  cases h : d.same directory with
  | true => simp [get?, h]
  | false => simp [get?, h]

/-- Options are found under all directories that are the same as the one for which they
are kept; under others nothing changes. -/
theorem get?_insert (cache : Cache) (directory : Path) (options : Options) (other : Path) :
  (cache.insert directory options).get? other
    = if directory.same other then some options else cache.get? other
  := by
  induction cache with
  | nil => rw [insert, get?_cons]
  | cons entry rest ih =>
    obtain ⟨d, old⟩ := entry
    rw [insert]
    split
    · rename_i same
      have alike : d.same other = directory.same other := by
        simp only [Path.same, decide_eq_true_eq] at same ⊢
        rw [same]
      rw [get?_cons, get?_cons, alike]
      split
      · rfl
      · rfl
    · rename_i differ
      rw [get?_cons, get?_cons, ih]
      split
      · rename_i here
        rw [if_neg]
        simp only [Path.same, decide_eq_true_eq] at differ here ⊢
        rw [← here]
        apply Ne.symm differ
      · rfl

/-- Options that are kept stay when others are added. -/
theorem get?_append {cache : Cache} {directory : Path} {options : Options}
    (kept : cache.get? directory = some options) (more : Cache) :
  Cache.get? (cache ++ more) directory = some options
  := by
  rw [get?, Option.map_eq_some_iff] at kept
  obtain ⟨entry, found, rfl⟩ := kept
  rw [get?, List.find?_append, found]
  rfl

/-- Options are found under the directory for which they were added. -/
theorem get?_append_new {cache : Cache} {directory : Path}
    (new : cache.get? directory = none) (options : Options) :
  Cache.get? (cache ++ [(directory, options)]) directory = some options
  := by
  rw [get?, Option.map_eq_none_iff] at new
  rw [get?, List.find?_append, new]
  simp [Path.same]

/-- A directory as it is written in the cache, if its options are kept there. -/
def spelling (cache : Cache) (directory : Path) : Path :=
  ((cache.find? fun entry => entry.1.same directory).map Prod.fst).getD directory

/-- Options that are kept for a directory stand in the cache under its spelling there. -/
theorem mem_of_get? {cache : Cache} {directory : Path} {options : Options}
    (kept : cache.get? directory = some options) :
  (cache.spelling directory, options) ∈ cache
  := by
  rw [get?, Option.map_eq_some_iff] at kept
  obtain ⟨entry, found, rfl⟩ := kept
  rw [spelling, found]
  apply List.mem_of_find?_eq_some found

end Cache

namespace Session

variable (setup : Setup) (answer : Answering)

/-- The options that files give for a directory. -/
def fileOptions (root directory : Path) : Options :=
  ((setup.resolver.resolve root directory none).run answer).options

/-- A state is faithful if the options that it keeps are those that files give. -/
def Faithful (s : Session) : Prop :=
  ∀ entry ∈ s.cache, entry.2 = fileOptions setup answer (s.root.getD Path.here) entry.1

/-- Whether options are in force for a document: they are those of the editor, or else
those that are kept for the directory of the document. -/
def InForce (s : Session) (document : Document) (options : Options) : Prop :=
  match s.settings.inlineOptions with
  | some inline => options = inline.expandExtends (s.root.getD Path.here)
  | none => s.cache.get? (s.directory document) = some options

variable {setup answer}

/-- Options of the editor that are not empty take precedence over all files. -/
theorem resolution_inline {s : Session} {inline : Options}
    (h : s.settings.inlineOptions = some inline) (directory : Path) :
  s.resolution setup answer directory
    = ⟨inline.expandExtends (s.root.getD Path.here), .editor, []⟩
  := by
  have present : inline.isEmpty = false := by
    rw [Settings.inlineOptions] at h
    split at h
    · cases h
    · rename_i absent
      cases h
      simpa using absent
  rw [resolution, h, Resolver.resolve, Option.filter_some, present]
  rfl

theorem resolution_files {s : Session} (h : s.settings.inlineOptions = none)
    (directory : Path) :
  (s.resolution setup answer directory).options
    = fileOptions setup answer (s.root.getD Path.here) directory
  := by
  rw [resolution, h, fileOptions]

end Session

end TemplateLint
