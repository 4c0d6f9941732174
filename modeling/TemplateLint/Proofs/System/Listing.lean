import TemplateLint.System.Machine
import Mathlib.Tactic.Use

/-!
# What directories list

A path into a directory leads to something only if the directory is one and lists the name.
To follow a path is to hop from segment to segment, and a hop with a name lands on an entry
of the directory that it starts from, or on what a link under that name leads to.  Where a
path leads on a given machine can be computed by counting the hops.
-/

namespace TemplateLint

namespace Node

/-! ### Hops -/

/-- What the first segment on a path leads to: the number of links left to follow, the
location to go on from, and the segments that come before the remaining ones, which are
those of the target of a link. -/
def hop (tree : Node) (links : Nat) (here : Location) (segment : Name) :
    Except OsFault (Nat × Location × List Name) :=
  match tree.at? here with
  | some (directory entries) =>
    if segment = [] ∨ segment = [Path.dot] then .ok (links, here, [])
    else if segment = [Path.dot, Path.dot] then .ok (links, here.dropLast, [])
    else if nameLimit < segment.length then .error .nameTooLong
    else
      match entries.lookup segment with
      | none => .error .notFound
      | some (link target) =>
        match links with
        | 0 => .error .tooManyLinks
        | left + 1 =>
          if target.bytes = [] then .error .notFound
          else .ok (left, if target.isAbsolute then [] else here, Path.segments target.bytes)
      | some _ => .ok (links, here ++ [segment], [])
  | _ => .error .notDirectory

/-- Following a path is hopping along it. -/
theorem follow_cons (tree : Node) (links : Nat) (here : Location) (segment : Name)
    (rest : List Name) :
  tree.follow true links here (segment :: rest)
    = match tree.hop links here segment with
      | .ok (left, next, front) => tree.follow true left next (front ++ rest)
      | .error fault => .error fault
  := by
  rw [follow]
  fun_cases hop tree links here segment with
  | _ => simp [*]

/-- A hop uses up a link, or nothing comes before the remaining segments. -/
theorem hop_decreases {tree : Node} {links left : Nat} {here next : Location} {segment : Name}
    {front : List Name} (h : tree.hop links here segment = .ok (left, next, front)) :
  left < links ∨ (left = links ∧ front = [])
  := by
  revert h
  fun_cases hop tree links here segment with
  | case1 => rintro ⟨⟩; simp
  | case2 => rintro ⟨⟩; simp
  | case7 => rintro ⟨⟩; simp
  | case8 => rintro ⟨⟩; simp
  | _ => rintro ⟨⟩

theorem mem_of_lookup {entries : List (Name × Node)} {name : Name} {node : Node}
    (h : entries.lookup name = some node) :
  name ∈ entries.map Prod.fst
  := by
  obtain ⟨before, after, rfl, _⟩ := List.lookup_eq_some_iff.mp h
  simp

/-- A hop with a proper name starts from a directory that lists the name. -/
theorem listed_of_hop {tree : Node} {links : Nat} {here : Location} {segment : Name}
    {next : Nat × Location × List Name} (h : tree.hop links here segment = .ok next)
    (proper : segment ∉ [[], [Path.dot], [Path.dot, Path.dot]]) :
  ∃ entries, tree.at? here = some (directory entries) ∧ segment ∈ entries.map Prod.fst
  := by
  revert h
  fun_cases hop tree links here segment with
  | case1 _ _ _ idle => rcases idle with rfl | rfl <;> simp at proper
  | case2 _ _ _ _ up => simp [up] at proper
  | case7 entries present _ _ _ target found =>
    intro _
    exact ⟨entries, present, mem_of_lookup found⟩
  | case8 _ entries present _ _ _ node _ found =>
    intro _
    exact ⟨entries, present, mem_of_lookup found⟩
  | _ => rintro ⟨⟩

/-! ### Following paths -/

/-- Following segments is following the first ones, and the remaining ones from there.  A link
uses up one of the links that may be followed, and all else a segment. -/
theorem follow_append {tree : Node} {links : Nat} {here there : Location}
    {first rest : List Name} (h : tree.follow true links here (first ++ rest) = .ok there) :
  ∃ left middle, tree.follow true links here first = .ok middle
    ∧ tree.follow true left middle rest = .ok there
  := by
  induction links using Nat.strongRecOn generalizing here first with
  | ind links farther =>
    induction first generalizing here with
    | nil =>
      use links, here
      exact ⟨by rw [follow], h⟩
    | cons segment first ih =>
      rw [List.cons_append, follow_cons] at h
      cases hopped : tree.hop links here segment with
      | error fault =>
        rw [hopped] at h
        cases h
      | ok landing =>
        obtain ⟨left, next, front⟩ := landing
        rw [hopped] at h
        dsimp only at h
        rw [follow_cons, hopped]
        rcases hop_decreases hopped with fewer | ⟨rfl, rfl⟩
        · rw [← List.append_assoc] at h
          apply farther left fewer h
        · apply ih h

/-- A proper name leads somewhere only from a directory that lists the name. -/
theorem listed_of_follow {tree : Node} {links : Nat} {here there : Location} {name : Name}
    (h : tree.follow true links here [name] = .ok there)
    (proper : name ∉ [[], [Path.dot], [Path.dot, Path.dot]]) :
  ∃ entries, tree.at? here = some (directory entries) ∧ name ∈ entries.map Prod.fst
  := by
  rw [follow_cons] at h
  cases hopped : tree.hop links here name with
  | error fault =>
    rw [hopped] at h
    cases h
  | ok landing => apply listed_of_hop hopped proper

/-- What segments lead to, as far as that is known after so many hops. -/
def followWithin (tree : Node) : Nat → Nat → Location → List Name →
    Option (Except OsFault Location)
  | _, _, here, [] => some (.ok here)
  | 0, _, _, _ :: _ => none
  | hops + 1, links, here, segment :: rest =>
    match tree.hop links here segment with
    | .ok (left, next, front) => tree.followWithin hops left next (front ++ rest)
    | .error fault => some (.error fault)

theorem follow_of_followWithin {tree : Node} {hops links : Nat} {here : Location}
    {segments : List Name} {result : Except OsFault Location}
    (h : tree.followWithin hops links here segments = some result) :
  tree.follow true links here segments = result
  := by
  induction hops generalizing links here segments with
  | zero =>
    cases segments with
    | nil =>
      rw [follow]
      apply Option.some.inj h
    | cons segment rest => cases h
  | succ hops ih =>
    cases segments with
    | nil =>
      rw [follow]
      apply Option.some.inj h
    | cons segment rest =>
      rw [followWithin] at h
      rw [follow_cons]
      cases hopped : tree.hop links here segment with
      | error fault =>
        rw [hopped] at h
        apply Option.some.inj h
      | ok landing =>
        obtain ⟨left, next, front⟩ := landing
        rw [hopped] at h
        apply ih h

/-- An empty segment leads nowhere else. -/
theorem follow_empty {tree : Node} {links : Nat} {here there : Location}
    (h : tree.follow true links here [[]] = .ok there) :
  there = here
  := by
  rw [follow] at h
  split at h
  · simp [follow] at h
    exact h.symm
  · cases h

/-- In a directory, an empty segment and the name of the directory itself lead nowhere else. -/
theorem hop_idle {tree : Node} {links : Nat} {here : Location} {segment : Name}
    {entries : List (Name × Node)} (present : tree.at? here = some (directory entries))
    (idle : segment = [] ∨ segment = [Path.dot]) :
  tree.hop links here segment = .ok (links, here, [])
  := by
  simp [hop, present, idle]

/-- Segments that lead to a directory still do with an empty one at the end. -/
theorem follow_concat_empty {tree : Node} {links : Nat} {here there : Location}
    {segments : List Name} {entries : List (Name × Node)}
    (h : tree.follow true links here segments = .ok there)
    (present : tree.at? there = some (directory entries)) :
  tree.follow true links here (segments ++ [[]]) = .ok there
  := by
  induction links using Nat.strongRecOn generalizing here segments with
  | ind links farther =>
    induction segments generalizing here with
    | nil =>
      rw [follow] at h
      obtain rfl := Except.ok.inj h
      rw [List.nil_append, follow_cons, hop_idle present (.inl rfl)]
      dsimp only
      rw [List.append_nil, follow]
    | cons segment rest ih =>
      rw [follow_cons] at h
      rw [List.cons_append, follow_cons]
      cases hopped : tree.hop links here segment with
      | error fault =>
        rw [hopped] at h
        cases h
      | ok landing =>
        obtain ⟨left, next, front⟩ := landing
        rw [hopped] at h
        dsimp only at h ⊢
        rcases hop_decreases hopped with fewer | ⟨rfl, rfl⟩
        · rw [← List.append_assoc]
          apply farther left fewer h
        · apply ih h

/-- A path that is one leads to where its segments lead. -/
theorem locate_eq_follow {path : Path} (clean : 0 ∉ path.bytes)
    (short : path.bytes.length < pathLimit) (named : path.bytes ≠ []) (tree : Node)
    (cwd : Location) :
  tree.locate cwd true path
    = tree.follow true linkLimit (if path.isAbsolute then [] else cwd)
      (Path.segments path.bytes)
  := by
  simp [locate, clean, Nat.not_le.mpr short, named]

theorem locate_eq_ok_iff {tree : Node} {cwd : Location} {path : Path} {location : Location} :
  tree.locate cwd true path = .ok location
    ↔ 0 ∉ path.bytes ∧ path.bytes.length < pathLimit ∧ path.bytes ≠ []
      ∧ tree.follow true linkLimit (if path.isAbsolute then [] else cwd)
        (Path.segments path.bytes) = .ok location
  := by
  constructor
  · intro h
    rw [locate] at h
    split at h
    · cases h
    · rename_i clean
      split at h
      · cases h
      · rename_i short
        split at h
        · cases h
        · rename_i named
          exact ⟨by simpa using clean, Nat.not_le.mp short, named, h⟩
  · rintro ⟨clean, short, named, h⟩
    rw [locate_eq_follow clean short named, h]

theorem locate_eq_ok {tree : Node} {cwd : Location} {path : Path} {location : Location}
    (h : tree.locate cwd true path = .ok location) :
  path.bytes ≠ [] ∧ tree.follow true linkLimit (if path.isAbsolute then [] else cwd)
    (Path.segments path.bytes) = .ok location
  := (locate_eq_ok_iff.mp h).2.2

end Node

namespace Path

/-! ### Paths into directories -/

/-- The names that an entry of a directory may have. -/
def isEntryName (name : Name) : Bool :=
  !name.contains slash && !([[], [dot], [dot, dot]] : List Name).contains name

theorem slash_notMem_of_isEntryName {name : Name} (h : isEntryName name) :
  slash ∉ name
  := by
  simp only [isEntryName, Bool.and_eq_true, Bool.not_eq_true', List.contains_eq_mem,
    decide_eq_false_iff_not] at h
  apply h.1

theorem proper_of_isEntryName {name : Name} (h : isEntryName name) :
  name ∉ [[], [dot], [dot, dot]]
  := by
  simp only [isEntryName, Bool.and_eq_true, Bool.not_eq_true', List.contains_eq_mem,
    decide_eq_false_iff_not] at h
  apply h.2

theorem isAbsolute_of_isEntryName {name : Name} (h : isEntryName name) :
  isAbsolute ⟨name⟩ = false
  := by
  cases name with
  | nil => rfl
  | cons b rest =>
    have different : b ≠ slash := by
      rintro rfl
      apply slash_notMem_of_isEntryName h List.mem_cons_self
    simpa [isAbsolute] using different

theorem segments_of_isEntryName {name : Name} (h : isEntryName name) :
  segments name = [name]
  := List.splitOn_eq_singleton (slash_notMem_of_isEntryName h)

/-- The path to an entry is the path of the directory, a separator unless that ends with one,
and the name. -/
theorem join_entry {directory : Path} {name : Name} (named : directory.bytes ≠ [])
    (h : isEntryName name) :
  directory.join ⟨name⟩
    = if directory.bytes.getLast? = some slash then ⟨directory.bytes ++ name⟩
      else ⟨directory.bytes ++ slash :: name⟩
  := by
  rw [join, isAbsolute_of_isEntryName h, if_neg Bool.false_ne_true, if_neg named]

theorem isAbsolute_join {directory : Path} {name : Name} (named : directory.bytes ≠ [])
    (h : isEntryName name) :
  (directory.join ⟨name⟩).isAbsolute = directory.isAbsolute
  := by
  obtain ⟨first, rest, written⟩ := List.exists_cons_of_ne_nil named
  rw [join_entry named h]
  split
  · simp [isAbsolute, written]
  · simp [isAbsolute, written]

theorem segments_append_slash (first second : List UInt8) :
  segments (first ++ slash :: second) = segments first ++ segments second
  := List.splitOnP_append_cons first second (beq_self_eq_true slash)

/-- The segments of the path to an entry are those of the directory, without an empty one at
the end, and the name. -/
theorem segments_join {directory : Path} {name : Name} (named : directory.bytes ≠ [])
    (h : isEntryName name) :
  ∃ front tail, segments directory.bytes = front ++ tail ∧ (tail = [] ∨ tail = [[]])
    ∧ segments (directory.join ⟨name⟩).bytes = front ++ [name]
  := by
  have single := segments_of_isEntryName h
  rw [join_entry named h]
  split
  · rename_i ending
    obtain ⟨front, written⟩ := List.getLast?_eq_some_iff.mp ending
    use segments front, [[]]
    rw [written, List.append_assoc, List.singleton_append, segments_append_slash,
      segments_append_slash, single]
    exact ⟨rfl, .inr rfl, rfl⟩
  · use segments directory.bytes, []
    rw [segments_append_slash, single, List.append_nil]
    exact ⟨rfl, .inl rfl, rfl⟩

end Path

/-! ### Listings -/

namespace Machine

variable {m : Machine}

theorem node_eq_ok {path : Path} {node : Node} (h : m.node path = .ok node) :
  ∃ location, m.tree.locate m.cwd true path = .ok location
    ∧ m.tree.at? location = some node
  := by
  simp only [Machine.node, bind, Except.bind] at h
  split at h
  · cases h
  · rename_i location located
    use location, located
    split at h
    · rename_i found present
      obtain rfl : found = node := Except.ok.inj h
      apply present
    · cases h

/-- What can be read is a file or a special node. -/
theorem read_eq_ok {path : Path} {content : List UInt8} (h : m.read path = .ok content) :
  (∃ executable, m.node path = .ok (.file content executable))
    ∨ m.node path = .ok (.special (.ok content))
  := by
  simp only [Machine.read, bind, Except.bind] at h
  split at h
  · cases h
  · rename_i node found
    split at h
    · rename_i executable
      rw [← Except.ok.inj h]
      exact .inl ⟨executable, found⟩
    · rw [← h]
      exact .inr found
    · cases h

theorem status_eq_ok {path : Path} {status : Status} (h : m.status path = .ok status) :
  ∃ node, m.node path = .ok node
    ∧ (∀ content executable, node = .file content executable → status.kind = .file)
    ∧ ∀ stream, node = .special stream → status.kind = .special
  := by
  simp only [Machine.status, bind, Except.bind] at h
  split at h
  · cases h
  · rename_i node found
    use node, found
    constructor
    · rintro content executable rfl
      rw [← Except.ok.inj h]
    · rintro stream rfl
      rw [← Except.ok.inj h]

/-- What can be read and is not special is a file. -/
theorem file_of_read {path : Path} {content : List UInt8} {status : Status}
    (read : m.read path = .ok content) (told : m.status path = .ok status)
    (regular : status.kind ≠ .special) :
  ∃ executable, m.node path = .ok (.file content executable) ∧ status.kind = .file
  := by
  obtain ⟨node, found, file, special⟩ := status_eq_ok told
  rcases read_eq_ok read with ⟨executable, there⟩ | there
  · rw [there] at found
    exact ⟨executable, there, file _ _ (Except.ok.inj found).symm⟩
  · rw [there] at found
    exact absurd (special _ (Except.ok.inj found).symm) regular

theorem names_eq_ok {path : Path} {names : List Name} (h : m.names path = .ok names) :
  ∃ entries, m.node path = .ok (.directory entries) ∧ names = entries.map Prod.fst
  := by
  simp only [Machine.names, bind, Except.bind] at h
  split at h
  · cases h
  · split at h
    · rename_i entries found
      use entries, found
      apply (Except.ok.inj h).symm
    · cases h

/-- A path into a directory that can be listed leads to something only under a name that is
listed. -/
theorem mem_names {directory : Path} {name : Name} {names : List Name} {node : Node}
    (proper : Path.isEntryName name) (listed : m.names directory = .ok names)
    (found : m.node (directory.join ⟨name⟩) = .ok node) :
  name ∈ names
  := by
  obtain ⟨entries, listing, rfl⟩ := names_eq_ok listed
  obtain ⟨location, located, present⟩ := node_eq_ok listing
  obtain ⟨named, walked⟩ := Node.locate_eq_ok located
  obtain ⟨front, tail, written, ending, within⟩ := Path.segments_join named proper
  obtain ⟨_, located', _⟩ := node_eq_ok found
  obtain ⟨_, walked'⟩ := Node.locate_eq_ok located'
  rw [Path.isAbsolute_join named proper, within] at walked'
  obtain ⟨left, middle, walked', last⟩ := Node.follow_append walked'
  have same : location = middle := by
    rw [written] at walked
    rcases ending with rfl | rfl
    · rw [List.append_nil, walked'] at walked
      apply (Except.ok.inj walked).symm
    · obtain ⟨_, middle', walked, idle⟩ := Node.follow_append walked
      rw [walked'] at walked
      rw [Node.follow_empty idle, Except.ok.inj walked]
  obtain ⟨entries', present', member⟩ :=
    Node.listed_of_follow last (Path.proper_of_isEntryName proper)
  rw [← same, present] at present'
  cases present'
  apply member

theorem node_of_locate {path : Path} {location : Location} {node : Node}
    (located : m.tree.locate m.cwd true path = .ok location)
    (present : m.tree.at? location = some node) :
  m.node path = .ok node
  := by
  rw [Machine.node, located]
  simp only [bind, Except.bind, present]
  rfl

/-- What a path leads to, as far as that is known after so many hops. -/
def nodeWithin (m : Machine) (hops : Nat) (path : Path) : Option (Except OsFault Node) :=
  if 0 ∉ path.bytes ∧ path.bytes.length < Node.pathLimit ∧ path.bytes ≠ [] then
    (m.tree.followWithin hops Node.linkLimit (if path.isAbsolute then [] else m.cwd)
      (Path.segments path.bytes)).map fun
      | .ok location =>
        match m.tree.at? location with
        | some node => .ok node
        | none => .error .notFound
      | .error fault => .error fault
  else none

theorem node_of_nodeWithin (hops : Nat) {path : Path} {result : Except OsFault Node}
    (h : m.nodeWithin hops path = some result) :
  m.node path = result
  := by
  rw [nodeWithin] at h
  split at h
  · rename_i proper
    obtain ⟨clean, short, named⟩ := proper
    obtain ⟨reached, walked, rfl⟩ := Option.map_eq_some_iff.mp h
    rw [Machine.node, Node.locate_eq_follow clean short named, Node.follow_of_followWithin walked]
    cases reached with
    | error fault => rfl
    | ok location =>
      simp only [bind, Except.bind]
      cases m.tree.at? location with
      | none => rfl
      | some node => rfl
  · cases h

/-! ### Directories of entries -/

/-- What has an entry is a directory. -/
theorem directory_of_entry {directory : Path} {name : Name} {node : Node}
    (named : directory.bytes ≠ []) (proper : Path.isEntryName name)
    (found : m.node (directory.join ⟨name⟩) = .ok node) :
  ∃ entries, m.node directory = .ok (.directory entries)
  := by
  obtain ⟨_, located, _⟩ := node_eq_ok found
  obtain ⟨clean, short, _, walked⟩ := Node.locate_eq_ok_iff.mp located
  obtain ⟨front, tail, written, ending, within⟩ := Path.segments_join named proper
  rw [Path.isAbsolute_join named proper, within] at walked
  obtain ⟨left, middle, walked, last⟩ := Node.follow_append walked
  obtain ⟨entries, present, _⟩ := Node.listed_of_follow last (Path.proper_of_isEntryName proper)
  have inside : directory.bytes <+: (directory.join ⟨name⟩).bytes := by
    rw [Path.join_entry named proper]
    split
    · apply List.prefix_append
    · apply List.prefix_append
  use entries
  apply node_of_locate _ present
  apply Node.locate_eq_ok_iff.mpr
  have short' := Nat.lt_of_le_of_lt inside.length_le short
  refine ⟨fun nul => clean (inside.subset nul), short', named, ?_⟩
  rw [written]
  rcases ending with rfl | rfl
  · rw [List.append_nil, walked]
  · apply Node.follow_concat_empty walked present

/-- The name of an entry alone leads to something only if the working directory is one. -/
theorem directory_of_name {name : Name} {node : Node} (proper : Path.isEntryName name)
    (found : m.node ⟨name⟩ = .ok node) :
  ∃ entries, m.node Path.here = .ok (.directory entries)
  := by
  obtain ⟨_, located, _⟩ := node_eq_ok found
  obtain ⟨_, walked⟩ := Node.locate_eq_ok located
  rw [Path.isAbsolute_of_isEntryName proper, if_neg Bool.false_ne_true,
    Path.segments_of_isEntryName proper] at walked
  obtain ⟨entries, present, _⟩ :=
    Node.listed_of_follow walked (Path.proper_of_isEntryName proper)
  have here : m.tree.locate m.cwd true Path.here = .ok m.cwd := by
    have stays : m.tree.follow true Node.linkLimit m.cwd [[Path.dot]] = .ok m.cwd := by
      rw [Node.follow_cons, Node.hop_idle present (.inr rfl)]
      dsimp only
      rw [List.append_nil, Node.follow]
    apply stays
  use entries, node_of_locate here present

/-! ### Access -/

/-- Answers grant only what a machine has: they read, tell the status of and list what is
there, or refuse to; and they tell the status of what they read.  Names are the same only byte
by byte.  Runs of executables may come to any end. -/
structure Grants (m : Machine) (answer : (r : Request) → r.Answer) : Prop where
  read {path : Path} {content : List UInt8} : answer (.read path) = .ok content →
    m.read path = .ok content ∧ ∃ status, answer (.status path) = .ok status
  status {path : Path} {status : Status} : answer (.status path) = .ok status →
    m.status path = .ok status
  names {path : Path} {names : List Name} : answer (.names path) = .ok names →
    m.names path = .ok names

/-- A machine that refuses nothing grants what it has. -/
theorem grants_answer (m : Machine) :
  m.Grants m.answer
  := by
  constructor
  case read =>
    intro path content h
    use h
    change ∃ status, m.status path = .ok status
    rcases read_eq_ok h with ⟨executable, found⟩ | found
    · use ⟨.file, executable⟩
      rw [Machine.status, found]
      rfl
    · use ⟨.special, false⟩
      rw [Machine.status, found]
      rfl
  case status =>
    intro path status h
    apply h
  case names =>
    intro path names h
    apply h

namespace Grants

variable {answer : (r : Request) → r.Answer}

/-- What is told to be there is under a name that is listed. -/
theorem mem_names_of_status (h : m.Grants answer) {directory : Path} {name : Name}
    {names : List Name} {status : Status} (proper : Path.isEntryName name)
    (listed : answer (.names directory) = .ok names)
    (found : answer (.status (directory.join ⟨name⟩)) = .ok status) :
  name ∈ names
  := by
  obtain ⟨node, found, _⟩ := status_eq_ok (h.status found)
  apply mem_names proper (h.names listed) found

/-- What can be read is a file, unless it is told to be special. -/
theorem run_isFile_of_read (h : m.Grants answer) {path : Path} {content : List UInt8}
    (found : answer (.read path) = .ok content)
    (regular : ∀ status, answer (.status path) = .ok status → status.kind ≠ .special) :
  (isFile path).run answer = true
  := by
  obtain ⟨there, status, told⟩ := h.read found
  obtain ⟨executable, _, file⟩ := file_of_read there (h.status told) (regular status told)
  rw [run_isFile told, file]
  rfl

end Grants

end Machine

end TemplateLint
