import Mathlib.Data.List.Basic
import TemplateLint.Proofs.System.Listing
import TemplateLint.Proofs.Uri.Files

/-!
# Locations

The absolute path of a location is written with the names that lead to it, and no other
location has a path with the same components.  In a sound tree, where every directory lists
proper names and each of them once, a path leads to a location at which there is a file or a
directory, and the absolute path of that location leads there again, without passing through
a link.  An outline of a node shows what lies at the locations below it.
-/

namespace TemplateLint

namespace Path

/-! ### Paths of locations -/

/-- Names that each follow a separator are the last segments. -/
theorem segments_append_names {names : List Name} (proper : ∀ name ∈ names, isEntryName name)
    (front : List UInt8) :
  segments (front ++ names.flatMap fun name => slash :: name) = segments front ++ names
  := by
  induction names generalizing front with
  | nil => simp
  | cons name rest ih =>
    obtain ⟨first, others⟩ := List.forall_mem_cons.mp proper
    rw [List.flatMap_cons, List.cons_append, segments_append_slash, ih others,
      segments_of_isEntryName first]
    rfl

theorem component?_of_isEntryName {name : Name} (h : isEntryName name) :
  component? name = some (.name name)
  := by
  have proper := proper_of_isEntryName h
  simp only [List.mem_cons, List.not_mem_nil, or_false, not_or] at proper
  simp [component?, proper]

/-- The components of the path of a location are the root and the names. -/
theorem components_ofNames {names : List Name} (proper : ∀ name ∈ names, isEntryName name) :
  (ofNames names).components = .root :: names.map .name
  := by
  cases names with
  | nil => rfl
  | cons name rest =>
    obtain ⟨first, others⟩ := List.forall_mem_cons.mp proper
    have body : segments (name ++ rest.flatMap fun n => slash :: n) = name :: rest := by
      rw [segments_append_names others, segments_of_isEntryName first]
      rfl
    have kept : (name :: rest).filterMap component? = (name :: rest).map .name := by
      apply List.filterMap_eq_map_iff_forall_eq_some.mpr
      intro n present
      apply component?_of_isEntryName (proper n present)
    change components ⟨slash :: (name ++ rest.flatMap fun n => slash :: n)⟩ = _
    rw [components_slash, body, kept]

/-- Locations whose paths have the same components are equal. -/
theorem eq_of_same_ofNames {first second : List Name}
    (properFirst : ∀ name ∈ first, isEntryName name)
    (properSecond : ∀ name ∈ second, isEntryName name)
    (same : (ofNames first).same (ofNames second)) :
  first = second
  := by
  have components := of_decide_eq_true same
  rw [components_ofNames properFirst, components_ofNames properSecond, List.cons.injEq]
    at components
  exact List.map_injective_iff.mpr (fun _ _ same => Component.name.inj same) components.2

/-- The segments of the path of a location are an empty one and the names. -/
theorem segments_ofNames {names : List Name} (proper : ∀ name ∈ names, isEntryName name)
    (below : names ≠ []) :
  segments (ofNames names).bytes = [] :: names
  := by
  cases names with
  | nil => cases below rfl
  | cons name rest => exact segments_append_names proper []

theorem ofNames_bytes_ne_nil (names : List Name) :
  (ofNames names).bytes ≠ []
  := by
  cases names <;> simp [ofNames, rootDirectory]

theorem isAbsolute_ofNames (names : List Name) :
  (ofNames names).isAbsolute
  := by
  cases names <;> rfl

/-- The path of an entry in the directory at a location is the path of its location. -/
theorem join_ofNames {names : List Name} {name : Name}
    (proper : ∀ name ∈ names, isEntryName name) (entry : isEntryName name) :
  (ofNames names).join ⟨name⟩ = ofNames (names ++ [name])
  := by
  rw [join_entry (ofNames_bytes_ne_nil names) entry]
  rcases List.eq_nil_or_concat names with rfl | ⟨front, last, rfl⟩
  · simp [ofNames, rootDirectory]
  · rw [List.concat_eq_append] at proper ⊢
    have lastProper := proper last (by simp)
    have filled : last ≠ [] := by
      rintro rfl
      exact proper_of_isEntryName lastProper (by simp)
    obtain ⟨b, rest, spelled⟩ := List.exists_cons_of_ne_nil filled
    have written (n : List Name) (m : Name) :
        ofNames (n ++ [m]) = ⟨(n.flatMap fun name => slash :: name) ++ slash :: m⟩ := by
      cases n <;> simp [ofNames]
    have noSlash : (ofNames (front ++ [last])).bytes.getLast? ≠ some slash := by
      rw [written]
      intro ending
      have : last.getLast? = some slash := by
        rw [spelled] at ending ⊢
        simpa [List.getLast?_append, List.getLast?_cons_cons] using ending
      exact slash_notMem_of_isEntryName lastProper (List.mem_of_getLast? this)
    rw [if_neg noSlash, written (front ++ [last]), written front]
    simp

end Path

/-! ### Sound trees -/

namespace Node

/-- Whether a name can be given to an entry of a directory. -/
def isStorable (name : Name) : Bool :=
  Path.isEntryName name && !name.contains 0 && name.length ≤ nameLimit

mutual

/-- Whether the directories of a tree list names that can be given to entries, each name
once. -/
def isSound : Node → Bool
  | file _ _ => true
  | link _ => true
  | special _ => true
  | directory entries => areSound entries

/-- Whether entries have names that can be given to entries, each one another name, and lead
to sound trees. -/
def areSound : List (Name × Node) → Bool
  | [] => true
  | (name, node) :: rest =>
    isStorable name && !(rest.map Prod.fst).contains name && node.isSound && areSound rest

end

theorem areSound_cons (entry : Name × Node) (rest : List (Name × Node)) :
  areSound (entry :: rest)
    ↔ (isStorable entry.1 ∧ entry.1 ∉ rest.map Prod.fst) ∧ entry.2.isSound ∧ areSound rest
  := by
  rw [areSound]
  simp [and_assoc]

/-- An entry that is listed is the one under its name, which can be given to it, and it is
sound. -/
theorem entry_of_areSound {entries : List (Name × Node)} (sound : areSound entries)
    (name : Name) (node : Node) :
  (entries.lookup name = some node ↔ (name, node) ∈ entries)
    ∧ ((name, node) ∈ entries → isStorable name ∧ node.isSound)
  := by
  induction entries with
  | nil => simp
  | cons entry rest ih =>
    obtain ⟨first, inner⟩ := entry
    obtain ⟨⟨storable, once⟩, innerSound, sound⟩ := (areSound_cons _ _).mp sound
    obtain ⟨found, kept⟩ := ih sound
    have distinct : (name, node) ∈ rest → name ≠ first := by
      rintro present rfl
      exact once (List.mem_map.mpr ⟨_, present, rfl⟩)
    constructor
    · rw [List.lookup_cons, List.mem_cons, Prod.mk.injEq]
      by_cases same : name = first
      · subst same
        simpa [eq_comm] using fun present => absurd rfl (distinct present)
      · simp [beq_eq_false_iff_ne.mpr same, same, found]
    · intro present
      rcases List.mem_cons.mp present with same | later
      · cases same
        exact ⟨storable, innerSound⟩
      · exact kept later

theorem at?_append (tree : Node) (first rest : Location) :
  tree.at? (first ++ rest) = tree.at? first >>= fun node => node.at? rest
  := by
  induction first generalizing tree with
  | nil => rfl
  | cons name first ih =>
    rw [List.cons_append, at?, at?]
    cases tree.entry? name with
    | none => rfl
    | some inner => apply ih

theorem at?_concat (tree : Node) (here : Location) (name : Name) :
  tree.at? (here ++ [name]) = tree.at? here >>= fun node => node.entry? name
  := by
  rw [at?_append]
  congr 1
  funext node
  rw [at?]
  cases node.entry? name <;> rfl

/-- In a sound tree, the names that lead to a node can be given to entries, and the node is
sound. -/
theorem sound_of_at? {tree node : Node} (sound : tree.isSound) {location : Location}
    (present : tree.at? location = some node) :
  (∀ name ∈ location, isStorable name) ∧ node.isSound
  := by
  induction location generalizing tree with
  | nil =>
    obtain rfl := Option.some.inj present
    simp [sound]
  | cons name rest ih =>
    rw [at?] at present
    cases tree with
    | directory entries =>
      obtain ⟨inner, found, present⟩ := Option.bind_eq_some_iff.mp present
      rw [isSound] at sound
      obtain ⟨lookup, kept⟩ := entry_of_areSound sound name inner
      obtain ⟨storable, innerSound⟩ := kept (lookup.mp found)
      obtain ⟨others, nodeSound⟩ := ih innerSound present
      exact ⟨List.forall_mem_cons.mpr ⟨storable, others⟩, nodeSound⟩
    | _ => cases present

theorem isEntryName_of_isStorable {name : Name} (h : isStorable name) :
  Path.isEntryName name
  := by
  simp only [isStorable, Bool.and_eq_true] at h
  apply h.1.1

theorem proper_of_at? {tree node : Node} (sound : tree.isSound) {location : Location}
    (present : tree.at? location = some node) :
  ∀ name ∈ location, Path.isEntryName name
  := by
  intro name member
  apply isEntryName_of_isStorable ((sound_of_at? sound present).1 name member)

/-- What is in a sound tree is at one place if it has one path. -/
theorem eq_of_ofNames {tree node other : Node} (sound : tree.isSound) {first second : Location}
    (present : tree.at? first = some node) (there : tree.at? second = some other)
    (same : Path.ofNames first = Path.ofNames second) :
  first = second
  := by
  apply Path.eq_of_same_ofNames (proper_of_at? sound present) (proper_of_at? sound there)
  apply decide_eq_true (congrArg Path.components same)

/-! ### Where paths lead -/

/-- Whether there is a file or a directory at a location. -/
def Stands (tree : Node) (location : Location) : Prop :=
  ∃ node, tree.at? location = some node ∧ ∀ target, node ≠ link target

theorem stands_of_directory {tree : Node} {location : Location} {entries : List (Name × Node)}
    (present : tree.at? location = some (directory entries)) :
  tree.Stands location
  := ⟨_, present, fun _ same => nomatch same⟩

/-- The locations above a directory, and the directory itself, are directories. -/
theorem directory_above {tree : Node} (first rest : Location) {entries : List (Name × Node)}
    (present : tree.at? (first ++ rest) = some (directory entries)) :
  ∃ entries, tree.at? first = some (directory entries)
  := by
  rw [at?_append] at present
  obtain ⟨node, above, below⟩ := Option.bind_eq_some_iff.mp present
  cases rest with
  | nil =>
    obtain rfl := Option.some.inj below
    use entries
  | cons name rest =>
    cases node with
    | directory entries => use entries
    | _ => cases below

/-- A hop lands on a file or on a directory. -/
theorem stands_of_hop {tree : Node} {links left : Nat} {here next : Location} {segment : Name}
    {front : List Name} (h : tree.hop links here segment = .ok (left, next, front)) :
  tree.Stands next
  := by
  revert h
  fun_cases hop tree links here segment with
  | case1 _ _ present =>
    rintro ⟨⟩
    apply stands_of_directory present
  | case2 _ _ present =>
    rintro ⟨⟩
    have parts : here = here.dropLast ++ here.drop (here.length - 1) := by
      rw [List.dropLast_eq_take, List.take_append_drop]
    rw [parts] at present
    obtain ⟨_, above⟩ := directory_above _ _ present
    apply stands_of_directory above
  | case7 entries present =>
    rintro ⟨⟩
    split
    · obtain ⟨_, above⟩ := directory_above [] here present
      apply stands_of_directory above
    · apply stands_of_directory present
  | case8 _ entries present _ _ _ node noLink found =>
    rintro ⟨⟩
    refine ⟨node, ?_, noLink⟩
    rw [at?_concat, present]
    apply found
  | _ => rintro ⟨⟩

/-- Segments lead to a file or to a directory. -/
theorem stands_of_follow {tree : Node} {links : Nat} {here there : Location}
    {segments : List Name} (h : tree.follow true links here segments = .ok there)
    (stands : tree.Stands here) :
  tree.Stands there
  := by
  induction links using Nat.strongRecOn generalizing here segments with
  | ind links farther =>
    induction segments generalizing here with
    | nil =>
      rw [follow] at h
      obtain rfl := Except.ok.inj h
      apply stands
    | cons segment rest ih =>
      rw [follow_cons] at h
      cases hopped : tree.hop links here segment with
      | error fault =>
        rw [hopped] at h
        cases h
      | ok landing =>
        obtain ⟨left, next, front⟩ := landing
        rw [hopped] at h
        have stands := stands_of_hop hopped
        rcases hop_decreases hopped with fewer | ⟨rfl, rfl⟩
        · apply farther left fewer h stands
        · apply ih h stands

/-- A path leads to a file or to a directory. -/
theorem stands_of_locate {tree : Node} {cwd location : Location} {path : Path}
    (h : tree.locate cwd true path = .ok location) :
  tree.Stands location
  := by
  obtain ⟨_, walked⟩ := locate_eq_ok h
  cases written : Path.segments path.bytes with
  | nil => exact absurd written (List.splitOn_ne_nil _ _)
  | cons segment rest =>
    rw [written, follow_cons] at walked
    split at walked
    · rename_i hopped
      apply stands_of_follow walked (stands_of_hop hopped)
    · cases walked

/-- A name leads to the file or directory under it. -/
theorem hop_entry {tree : Node} {links : Nat} {here : Location} {name : Name} {inner : Node}
    {entries : List (Name × Node)} (present : tree.at? here = some (directory entries))
    (storable : isStorable name) (found : entries.lookup name = some inner)
    (noLink : ∀ target, inner ≠ link target) :
  tree.hop links here name = .ok (links, here ++ [name], [])
  := by
  simp only [isStorable, Bool.and_eq_true, decide_eq_true_eq] at storable
  obtain ⟨⟨entry, _⟩, short⟩ := storable
  have proper := Path.proper_of_isEntryName entry
  simp only [List.mem_cons, List.not_mem_nil, or_false, not_or] at proper
  cases inner with
  | link target => cases noLink target rfl
  | _ => simp [hop, present, proper, Nat.not_lt.mpr short, found]

/-- The names of a location where a file or a directory stands lead there, without passing
through a link. -/
theorem follow_names {tree : Node} (sound : tree.isSound) {links : Nat}
    (here names : Location) (stands : tree.Stands (here ++ names)) :
  tree.follow true links here names = .ok (here ++ names)
  := by
  induction names generalizing here with
  | nil => rw [follow, List.append_nil]
  | cons name rest ih =>
    rw [List.append_cons] at stands ⊢
    obtain ⟨node, present, noLink⟩ := stands
    rw [at?_append] at present
    obtain ⟨inner, at_name, below⟩ := Option.bind_eq_some_iff.mp present
    have storable := (sound_of_at? sound at_name).1 name (by simp)
    have innerNoLink : ∀ target, inner ≠ link target := by
      rintro target rfl
      cases rest with
      | nil => exact noLink target (Option.some.inj below).symm
      | cons _ _ => cases below
    rw [at?_concat] at at_name
    obtain ⟨above, at_here, found⟩ := Option.bind_eq_some_iff.mp at_name
    cases above with
    | directory entries =>
      rw [follow_cons, hop_entry at_here storable found innerNoLink]
      apply ih _ ⟨node, _, noLink⟩
      rw [at?_append, at?_concat, at_here]
      exact (congrArg (· >>= _) found).trans below
    | _ => cases found

/-- The location that a path leads to, as far as that is known after so many hops. -/
def locateWithin (tree : Node) (hops : Nat) (cwd : Location) (path : Path) :
    Option (Except OsFault Location) :=
  if 0 ∉ path.bytes ∧ path.bytes.length < pathLimit ∧ path.bytes ≠ [] then
    tree.followWithin hops linkLimit (if path.isAbsolute then [] else cwd)
      (Path.segments path.bytes)
  else none

theorem locate_of_locateWithin (hops : Nat) {tree : Node} {cwd : Location} {path : Path}
    {result : Except OsFault Location} (h : tree.locateWithin hops cwd path = some result) :
  tree.locate cwd true path = result
  := by
  rw [locateWithin] at h
  split at h
  · rename_i proper
    obtain ⟨clean, short, named⟩ := proper
    rw [locate_eq_follow clean short named, follow_of_followWithin h]
  · cases h

/-- Where a path leads, the root is a directory. -/
theorem directory_of_locate {tree : Node} {cwd location : Location} {path : Path}
    (h : tree.locate cwd true path = .ok location) :
  ∃ entries, tree.at? [] = some (directory entries)
  := by
  obtain ⟨_, walked⟩ := locate_eq_ok h
  cases written : Path.segments path.bytes with
  | nil => exact absurd written (List.splitOn_ne_nil _ _)
  | cons segment rest =>
    rw [written, follow] at walked
    split at walked
    · rename_i present
      exact directory_above [] _ present
    · cases walked

theorem zero_notMem_ofNames {names : List Name} (storable : ∀ name ∈ names, isStorable name) :
  0 ∉ (Path.ofNames names).bytes
  := by
  have clean : ∀ name ∈ names, (0 : UInt8) ∉ name := by
    intro name present
    have h := storable name present
    simp only [isStorable, Bool.and_eq_true, Bool.not_eq_true', List.contains_eq_mem,
      decide_eq_false_iff_not] at h
    apply h.1.2
  cases names with
  | nil => decide
  | cons name rest =>
    simp only [Path.ofNames, List.mem_flatMap, List.mem_cons, not_exists, not_and, not_or]
    intro n present
    exact ⟨by decide, clean n (List.mem_cons.mpr present)⟩

/-- The path of a location where a file or a directory stands leads there. -/
theorem locate_ofNames {tree : Node} (sound : tree.isSound) (cwd : Location)
    {location : Location} {entries : List (Name × Node)}
    (root : tree.at? [] = some (directory entries)) (stands : tree.Stands location)
    (short : (Path.ofNames location).bytes.length < pathLimit) :
  tree.locate cwd true (Path.ofNames location) = .ok location
  := by
  have ⟨node, present, _⟩ := stands
  have storable := (sound_of_at? sound present).1
  rw [locate_eq_ok_iff, Path.isAbsolute_ofNames]
  refine ⟨zero_notMem_ofNames storable, short, Path.ofNames_bytes_ne_nil location, ?_⟩
  have idle (rest : List Name) :
      tree.follow true linkLimit [] ([] :: rest) = tree.follow true linkLimit [] rest := by
    rw [follow_cons, hop_idle root (.inl rfl)]
    rfl
  by_cases below : location = []
  · subst below
    change tree.follow true linkLimit [] [[], []] = .ok []
    rw [idle, idle, follow]
  · rw [if_pos rfl, Path.segments_ofNames (proper_of_at? sound present) below, idle]
    apply follow_names sound [] location stands

end Node

/-! ### Outlines -/

/-- What an outline shows under the names that lead to it. -/
inductive Outline.Shows : Outline → Location → Outline → Prop
  | self (shown : Outline) : Shows shown [] shown
  | entry {entries : List (Name × Outline)} {name : Name} {inner shown : Outline}
      {rest : Location} : (name, inner) ∈ entries → inner.Shows rest shown →
      Shows (.directory entries) (name :: rest) shown

namespace Outline

theorem shows_nil_iff {outline shown : Outline} :
  outline.Shows [] shown ↔ outline = shown
  := by
  constructor
  · intro h
    generalize location : ([] : Location) = names at h
    cases h with
    | self => rfl
    | entry _ _ => cases location
  · rintro rfl
    apply Shows.self

theorem shows_cons_iff {outline shown : Outline} {name : Name} {rest : Location} :
  outline.Shows (name :: rest) shown
    ↔ ∃ entries inner, outline = directory entries ∧ (name, inner) ∈ entries
      ∧ inner.Shows rest shown
  := by
  constructor
  · rintro (_ | ⟨listed, shows⟩)
    exact ⟨_, _, rfl, listed, shows⟩
  · rintro ⟨entries, inner, rfl, listed, shows⟩
    apply Shows.entry listed shows

end Outline

namespace Node

theorem outlines_eq_map (entries : List (Name × Node)) :
  outlines entries = entries.map fun entry => (entry.1, entry.2.outline)
  := by
  induction entries with
  | nil => rfl
  | cons entry rest ih => rw [outlines, ih, List.map_cons]

/-- The outline of a sound tree shows what lies at the locations in it. -/
theorem shows_outline_iff {tree : Node} (sound : tree.isSound) {location : Location}
    {shown : Outline} :
  tree.outline.Shows location shown
    ↔ ∃ node, tree.at? location = some node ∧ node.outline = shown
  := by
  induction location generalizing tree with
  | nil =>
    rw [Outline.shows_nil_iff, at?]
    simp
  | cons name rest ih =>
    rw [Outline.shows_cons_iff, at?]
    cases tree with
    | directory entries =>
      have child := entry_of_areSound sound name
      rw [outline, outlines_eq_map]
      constructor
      · rintro ⟨_, inner, ⟨⟩, listed, shows⟩
        obtain ⟨⟨_, node⟩, present, same⟩ := List.mem_map.mp listed
        cases same
        obtain ⟨deeper, found, outlined⟩ := (ih ((child node).2 present).2).mp shows
        refine ⟨deeper, ?_, outlined⟩
        apply Option.bind_eq_some_iff.mpr ⟨node, (child node).1.mpr present, found⟩
      · rintro ⟨deeper, found, outlined⟩
        obtain ⟨node, found, deep⟩ := Option.bind_eq_some_iff.mp found
        have present := (child node).1.mp found
        refine ⟨_, node.outline, rfl, List.mem_map.mpr ⟨_, present, rfl⟩, ?_⟩
        apply (ih ((child node).2 present).2).mpr ⟨deeper, deep, outlined⟩
    | _ =>
      rw [outline]
      constructor
      · rintro ⟨_, _, ⟨⟩, _⟩
      · rintro ⟨_, ⟨⟩, _⟩

end Node

/-! ### Machines with sound trees -/

namespace Machine

variable {m : Machine}

theorem canonical_eq_ok {path target : Path} (h : m.canonical path = .ok target) :
  ∃ location, m.tree.locate m.cwd true path = .ok location ∧ target = Path.ofNames location
  := by
  simp only [Machine.canonical, bind, Except.bind] at h
  split at h
  · cases h
  · rename_i location located
    exact ⟨location, located, (Except.ok.inj h).symm⟩

theorem canonical_of_locate {path : Path} {location : Location}
    (located : m.tree.locate m.cwd true path = .ok location) :
  m.canonical path = .ok (Path.ofNames location)
  := by
  rw [canonical, located]
  rfl

theorem outline_eq_ok {path : Path} {outline : Outline} (h : m.outline path = .ok outline) :
  ∃ node, m.node path = .ok node ∧ outline = node.outline
  := by
  simp only [Machine.outline, bind, Except.bind] at h
  split at h
  · cases h
  · rename_i node found
    exact ⟨node, found, (Except.ok.inj h).symm⟩

/-- The absolute path of where a path leads leads to what is there. -/
theorem node_ofNames (sound : m.tree.isSound) {path : Path} {location : Location} {node : Node}
    (located : m.tree.locate m.cwd true path = .ok location)
    (short : (Path.ofNames location).bytes.length < Node.pathLimit)
    (present : m.tree.at? location = some node) :
  m.node (Path.ofNames location) = .ok node
  := by
  obtain ⟨_, root⟩ := Node.directory_of_locate located
  apply node_of_locate _ present
  apply Node.locate_ofNames sound m.cwd root (Node.stands_of_locate located) short

end Machine

end TemplateLint
