import TemplateLint.Config.Resolution
import TemplateLint.Proofs.Text.Ascii

/-!
# Expanded options

Expansion looks at one member only, and what it writes there contains a separator, so there
is nothing left to expand, whatever the workspace.  Resolution gives expanded options from
every source and under any answers.
-/

namespace TemplateLint

namespace Json.Members

/-- Insertion under a key that is present replaces the value under its first occurrence and
nothing else. -/
theorem insert_of_get? {members : Members} {key : String} {old : Value}
    (found : members.get? key = some old) :
  ∃ before after, members = before ++ (key, old) :: after ∧ key ∉ keys before
    ∧ ∀ value, members.insert key value = before ++ (key, value) :: after
  := by
  induction members with
  | nil => cases found
  | cons pair rest ih =>
    obtain ⟨k, v⟩ := pair
    rw [get?] at found
    split at found
    · rename_i same
      subst same
      obtain rfl := Option.some.inj found
      refine ⟨[], rest, rfl, by simp [keys], fun value => ?_⟩
      simp [insert]
    · rename_i differ
      obtain ⟨before, after, rfl, absent, inserts⟩ := ih found
      refine ⟨(k, v) :: before, after, rfl, ?_, fun value => ?_⟩
      · rw [keys, List.map_cons, List.mem_cons, not_or]
        exact ⟨fun same => differ same.symm, absent⟩
      · rw [insert, if_neg differ, inserts, List.cons_append]

end Json.Members

/-! ### Paths of presets -/

namespace Path

theorem bytes_join_ne_nil {directory p : Path} (h : directory.bytes ≠ [] ∨ p.bytes ≠ []) :
  (directory.join p).bytes ≠ []
  := by
  rw [join]
  split
  · rename_i absolute
    intro empty
    simp [isAbsolute, empty] at absolute
  · split
    · rename_i unnamed
      apply h.resolve_left (not_not.mpr unnamed)
    · rename_i named
      split <;> simp [named]

/-- A path within a directory that has a name contains a separator. -/
theorem slash_mem_join {directory p : Path} (named : directory.bytes ≠ []) :
  slash ∈ (directory.join p).bytes
  := by
  rw [join, if_neg named]
  split
  · rename_i absolute
    apply List.mem_of_head? (by simpa [isAbsolute] using absolute)
  · split
    · rename_i ending
      apply List.mem_append_left _ (List.mem_of_getLast? ending)
    · simp

end Path

namespace Options

/-- The path of a preset contains a separator, whatever the workspace and the name. -/
theorem slash_mem_presetPath (workspace : Path) (name : String) :
  '/' ∈ (presetPath workspace name).toText.toList
  := by
  have modules : (workspace.child "node_modules").bytes ≠ [] :=
    Path.bytes_join_ne_nil (.inr (by decide))
  have written : Path.slash ∈ (presetPath workspace name).bytes :=
    Path.slash_mem_join (Path.bytes_join_ne_nil (.inl modules))
  exact Text.mem_decodeLossy (by decide) written

/-! ### Expansion -/

/-- Whether there is no bare preset name: what is extended, if that is a text, is empty or
contains a separator. -/
def IsExpanded (o : Options) : Prop :=
  ∀ name, o.extends? = some name → name = "" ∨ '/' ∈ name.toList ∨ '\\' ∈ name.toList

theorem isBare_iff {name : String} :
  isBare name ↔ ¬ (name = "" ∨ '/' ∈ name.toList ∨ '\\' ∈ name.toList)
  := by
  simp [isBare, and_assoc]

theorem extends?_insert (o : Options) (value : Json.Value) :
  (o.insert "extends" value).extends? = value.text?
  := by
  rw [extends?, get?, insert, Json.Members.get?_insert, if_pos rfl]
  rfl

theorem isExpanded_empty :
  empty.IsExpanded
  := by
  rintro name ⟨⟩

/-- Options without a bare preset name stay as they are. -/
theorem expandExtends_of_isExpanded {o : Options} (h : o.IsExpanded) (workspace : Path) :
  o.expandExtends workspace = o
  := by
  rw [expandExtends]
  split
  · rename_i name named
    rw [if_neg]
    rw [isBare_iff, not_not]
    apply h name named
  · rfl

/-- A bare preset name is replaced in its place, and all else is kept. -/
theorem expandExtends_of_isBare {o : Options} {name : String} (named : o.extends? = some name)
    (bare : isBare name) (workspace : Path) :
  ∃ before after, o.members = before ++ ("extends", .text name) :: after
    ∧ "extends" ∉ Json.Members.keys before
    ∧ (o.expandExtends workspace).members
      = before ++ ("extends", .text (presetPath workspace name).toText) :: after
  := by
  obtain ⟨value, found, text⟩ := Option.bind_eq_some_iff.mp named
  obtain rfl : value = .text name := by
    cases value <;> simp_all [Json.Value.text?]
  obtain ⟨before, after, members, absent, inserts⟩ := Json.Members.insert_of_get? found
  refine ⟨before, after, members, absent, ?_⟩
  simp only [expandExtends, named, bare, if_true, insert]
  apply inserts

theorem isExpanded_expandExtends (o : Options) (workspace : Path) :
  (o.expandExtends workspace).IsExpanded
  := by
  rw [expandExtends]
  split
  · rename_i name named
    split
    · intro path extended
      rw [extends?_insert] at extended
      obtain rfl := Option.some.inj extended
      exact .inr (.inl (slash_mem_presetPath workspace name))
    · rename_i whole
      intro other extended
      obtain rfl : name = other := Option.some.inj (named.symm.trans extended)
      rw [isBare_iff, not_not] at whole
      apply whole
  · rename_i unnamed
    intro name extended
    rw [unnamed] at extended
    cases extended

/-- Expansion changes options exactly if they have a bare preset name. -/
theorem expandExtends_eq_iff {o : Options} {workspace : Path} :
  o.expandExtends workspace = o ↔ o.IsExpanded
  := by
  constructor
  · intro same
    rw [← same]
    apply isExpanded_expandExtends
  · intro expanded
    apply expandExtends_of_isExpanded expanded

theorem not_isExpanded_iff {o : Options} :
  ¬ o.IsExpanded ↔ ∃ name, o.extends? = some name ∧ isBare name
  := by
  simp only [IsExpanded, isBare_iff, not_forall, exists_prop]

theorem keys_expandExtends (o : Options) (workspace : Path) :
  Json.Members.keys (o.expandExtends workspace).members = Json.Members.keys o.members
  := by
  by_cases expanded : o.IsExpanded
  · rw [expandExtends_of_isExpanded expanded]
  · obtain ⟨name, named, bare⟩ := not_isExpanded_iff.mp expanded
    obtain ⟨before, after, members, _, replaced⟩ := expandExtends_of_isBare named bare workspace
    rw [replaced, members]
    simp [Json.Members.keys]

/-- Members other than a text that is extended stay where they are. -/
theorem getElem?_expandExtends {o : Options} {i : Nat} {key : String} {value : Json.Value}
    (found : o.members[i]? = some (key, value)) (other : key ≠ "extends" ∨ value.text? = none)
    (workspace : Path) :
  (o.expandExtends workspace).members[i]? = some (key, value)
  := by
  by_cases expanded : o.IsExpanded
  · rw [expandExtends_of_isExpanded expanded, found]
  · obtain ⟨name, named, bare⟩ := not_isExpanded_iff.mp expanded
    obtain ⟨before, after, members, _, replaced⟩ := expandExtends_of_isBare named bare workspace
    rw [members] at found
    rw [replaced]
    rcases Nat.lt_or_ge i before.length with earlier | later
    · rwa [List.getElem?_append_left earlier] at found ⊢
    · obtain ⟨j, rfl⟩ := Nat.exists_eq_add_of_le later
      rw [List.getElem?_append_right later, Nat.add_sub_cancel_left] at found ⊢
      cases j with
      | zero =>
        cases found
        rcases other with differ | noText
        · cases differ rfl
        · cases noText
      | succ j => rwa [List.getElem?_cons_succ] at found ⊢

end Options

/-! ### Resolution -/

/-- Whether a program ends with a result that has a property, whatever answers it gets. -/
def Program.Ends (p : α → Prop) : Program α → Prop
  | .done a => p a
  | .ask _ next => ∀ reply, (next reply).Ends p

@[simp]
theorem Program.ends_pure {p : α → Prop} {a : α} :
  (pure a : Program α).Ends p ↔ p a
  := Iff.rfl

theorem Program.Ends.bind {p : α → Prop} {q : β → Prop} {first : Program α}
    {next : α → Program β} (h : first.Ends p) (h' : ∀ a, p a → (next a).Ends q) :
  (first >>= next).Ends q
  := by
  change (first.bind next).Ends q
  induction first with
  | done a => apply h' a h
  | ask request rest ih =>
    intro reply
    apply ih reply (h reply)

theorem Program.ends_trivially (program : Program α) :
  program.Ends fun _ => True
  := by
  induction program with
  | done a => trivial
  | ask request next ih =>
    intro reply
    apply ih

theorem Program.Ends.run {p : α → Prop} {program : Program α} (h : program.Ends p)
    (answer : (r : Request) → r.Answer) :
  p (program.run answer)
  := by
  induction program with
  | done a => apply h
  | ask request next ih => apply ih _ (h _)

theorem Resolver.isExpanded_resolutionOf (workspace : Path) (found : Found (Options × Source)) :
  (resolutionOf workspace found).options.IsExpanded
  := by
  rw [resolutionOf]
  split <;> apply Options.isExpanded_expandExtends

/-- Resolution ends with expanded options. -/
theorem Resolver.resolve_ends (r : Resolver) (workspace directory : Path)
    (editor : Option Options) :
  (r.resolve workspace directory editor).Ends fun resolution => resolution.options.IsExpanded
  := by
  rw [resolve]
  split
  · rw [Program.ends_pure]
    apply isExpanded_resolutionOf
  · apply (Program.ends_trivially _).bind
    intro found _
    rw [Program.ends_pure]
    apply isExpanded_resolutionOf

end TemplateLint
