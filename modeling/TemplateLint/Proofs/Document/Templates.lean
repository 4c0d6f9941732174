import TemplateLint.Proofs.Command.Directories
import TemplateLint.Proofs.Uri.Pieces
import TemplateLint.Uri.Reading

/-!
# Templates under encoded paths

A document whose language is none of templates is a template by the last segment in its URI
as it is written there, and its file by the last component of the decoded path.  The two agree
as long as no slash, no full stop and no letter of an extension is escaped; and an escape of
any of these bytes can make them differ.
-/

namespace TemplateLint

namespace Path

/-! ### Segments -/

/-- A byte sequence is a segment, or a segment before a separator and more. -/
@[elab_as_elim]
theorem segments_induction {motive : List UInt8 → Prop}
    (segment : ∀ name, slash ∉ name → motive name)
    (separator : ∀ name rest, slash ∉ name → motive rest → motive (name ++ slash :: rest))
    (bytes : List UInt8) :
  motive bytes
  := by
  induction hlen : bytes.length using Nat.strongRecOn generalizing bytes with
  | ind n shorter =>
    by_cases present : slash ∈ bytes
    · obtain ⟨name, rest, rfl, absent⟩ := List.eq_append_cons_of_mem present
      apply separator name rest absent
      apply shorter rest.length _ rest rfl
      rw [← hlen, List.length_append, List.length_cons]
      omega
    · apply segment bytes present

theorem segments_of_slash_notMem {name : Name} (h : slash ∉ name) :
  segments name = [name]
  := List.splitOn_eq_singleton h

end Path

namespace Uri

theorem separates_slash :
  Separates Path.slash
  := ⟨by decide, by decide⟩

theorem separates_dot :
  Separates Path.dot
  := ⟨by decide, by decide⟩

/-- The bytes that are escaped in a segment are escaped in the whole. -/
theorem mem_escapedIn_of_segment {bytes segment : List UInt8} (h : segment ∈ Path.segments bytes)
    {b : UInt8} (escaped : b ∈ escapedIn segment) :
  b ∈ escapedIn bytes
  := by
  induction bytes using Path.segments_induction with
  | segment name absent =>
    rw [Path.segments_of_slash_notMem absent, List.mem_singleton] at h
    rw [← h]
    apply escaped
  | separator name rest absent ih =>
    rw [Path.segments_append_slash, Path.segments_of_slash_notMem absent,
      List.singleton_append, List.mem_cons] at h
    rw [escapedIn_append_cons separates_slash, List.mem_append]
    rcases h with rfl | h
    · exact .inl escaped
    · exact .inr (ih h)

/-- The segments of a decoded byte sequence are decoded one by one, unless a slash is
escaped. -/
theorem segments_decode {bytes : List UInt8} (h : Path.slash ∉ escapedIn bytes) :
  Path.segments (decode bytes) = (Path.segments bytes).map decode
  := by
  induction bytes using Path.segments_induction with
  | segment name absent =>
    rw [Path.segments_of_slash_notMem absent,
      Path.segments_of_slash_notMem (notMem_decode absent h)]
    rfl
  | separator name rest absent ih =>
    rw [escapedIn_append_cons separates_slash, List.mem_append, not_or] at h
    rw [decode_append_cons separates_slash, Path.segments_append_slash,
      Path.segments_append_slash, Path.segments_of_slash_notMem absent,
      Path.segments_of_slash_notMem (notMem_decode absent h.1), ih h.2]
    rfl

/-! ### Components -/

/-- A component with the escapes in its name decoded. -/
def decodeComponent : Component → Component
  | .name name => .name (decode name)
  | component => component

/-- Full stops are decoded only from full stops, unless one is escaped. -/
theorem decode_eq_dots_iff {segment dots : Name} (unescaped : Path.dot ∉ escapedIn segment)
    (only : ∀ b ∈ dots, b = Path.dot) :
  decode segment = dots ↔ segment = dots
  := by
  constructor
  · rintro rfl
    symm
    apply decode_of_unescaped
    intro b present
    rw [only b present]
    apply unescaped
  · rintro rfl
    apply decode_of_no_percent
    intro present
    exact absurd (only 37 present) (by decide)

theorem component?_decode {segment : Name} (h : Path.dot ∉ escapedIn segment) :
  Path.component? (decode segment) = (Path.component? segment).map decodeComponent
  := by
  have empty : decode segment = [] ↔ segment = [] := decode_eq_nil_iff
  have current : decode segment = [Path.dot] ↔ segment = [Path.dot] :=
    decode_eq_dots_iff h (by simp)
  have parent : decode segment = [Path.dot, Path.dot] ↔ segment = [Path.dot, Path.dot] :=
    decode_eq_dots_iff h (by simp)
  simp only [Path.component?, empty, current, parent]
  split_ifs <;> rfl

/-- The last component of a decoded absolute path is the decoded one, unless a slash or a full
stop is escaped. -/
theorem fileName?_decode {body : List UInt8} (slash : Path.slash ∉ escapedIn body)
    (dot : Path.dot ∉ escapedIn body) :
  Path.fileName? ⟨Path.slash :: decode body⟩
    = (Path.fileName? ⟨Path.slash :: body⟩).map decode
  := by
  have components : Path.components ⟨Path.slash :: decode body⟩
      = (Path.components ⟨Path.slash :: body⟩).map decodeComponent := by
    rw [Path.components_slash, Path.components_slash, segments_decode slash, List.filterMap_map,
      List.map_cons, List.map_filterMap]
    congr 1
    apply List.filterMap_congr
    intro segment present
    apply component?_decode
    exact mt (mem_escapedIn_of_segment present) dot
  rw [Path.fileName?, Path.fileName?, components, List.getLast?_map]
  rcases (Path.components ⟨Path.slash :: body⟩).getLast? with _ | _ | _ | _ | _ <;> rfl

/-- A separator after the letter of a drive makes no difference to the last component. -/
theorem fileName?_closeDrive (body : List UInt8) :
  Path.fileName? ⟨closeDrive (Path.slash :: body)⟩ = Path.fileName? ⟨Path.slash :: body⟩
  := by
  have closed : Path.fileName? ⟨Path.slash :: body ++ [Path.slash]⟩
      = Path.fileName? ⟨Path.slash :: body⟩ := by
    have empty : (Path.segments []).filterMap Path.component? = [] := rfl
    rw [Path.fileName?, Path.fileName?, List.cons_append, Path.components_slash,
      Path.components_slash, Path.segments_append_slash, List.filterMap_append, empty,
      List.append_nil]
  fun_cases closeDrive (Path.slash :: body) with
  | case1 => apply closed
  | _ => rfl

/-- A last component is a segment. -/
theorem mem_segments_of_fileName? {body : List UInt8} {name : Name}
    (h : Path.fileName? ⟨Path.slash :: body⟩ = some name) :
  name ∈ Path.segments body
  := by
  have last : Component.name name ∈ Path.components ⟨Path.slash :: body⟩ := by
    apply List.mem_of_getLast?
    rw [Path.fileName?] at h
    split at h
    · rename_i last
      rw [last, Option.some.inj h]
    · cases h
  rw [Path.components_slash, List.mem_cons] at last
  rcases last with ⟨⟨⟩⟩ | later
  obtain ⟨segment, present, kept⟩ := List.mem_filterMap.mp later
  unfold Path.component? at kept
  split_ifs at kept
  · cases kept
  · rw [← Component.name.inj (Option.some.inj kept)]
    apply present

/-! ### Files -/

/-- To decode the parts between slashes one by one is to decode the whole. -/
theorem flatMap_decode_splitOn (rest : List Char) :
  ((rest.splitOn '/').flatMap fun part => Path.slash :: decode (Text.encodeChars part))
    = Path.slash :: decode (Text.encodeChars rest)
  := by
  have whole : '/' :: rest = (rest.splitOn '/').flatMap fun part => '/' :: part := by
    rw [flatMap_cons_eq '/' (List.splitOn_ne_nil _ _), List.intercalate_splitOn]
  have encoded : Text.encodeChars ('/' :: rest)
      = ((rest.splitOn '/').map Text.encodeChars).flatMap fun part => Path.slash :: part := by
    rw [whole, Text.encodeChars, List.flatMap_assoc, List.flatMap_map]
    rfl
  have parts := decode_append_flatMap separates_slash [] ((rest.splitOn '/').map Text.encodeChars)
  rw [List.nil_append, ← encoded, List.flatMap_map] at parts
  exact parts.symm.trans (decode_append_cons separates_slash [] _)

/-- The path of the file of a URI is the decoded path of the URI. -/
theorem eq_decode_of_filePath? {u : Uri} {p : Path} (leads : u.filePath? = some p) :
  ∃ body, Text.encode u.path = Path.slash :: body
    ∧ p = ⟨closeDrive (Path.slash :: decode body)⟩
  := by
  obtain ⟨segments, parts, here⟩ := Option.bind_eq_some_iff.mp leads
  rw [segments?] at parts
  split at parts
  · rename_i rest written
    obtain rfl := Option.some.inj parts
    obtain ⟨_, here⟩ := Option.ite_none_right_eq_some.mp here
    refine ⟨Text.encodeChars rest, ?_, ?_⟩
    · rw [Text.encode, written]
      rfl
    · rw [← flatMap_decode_splitOn, ← Option.some.inj here, List.flatMap_map]
      simp only [Text.encode, String.toList_ofList]
  · cases parts

end Uri

namespace Template

/-! ### Names -/

/-- Whether a byte decides on templates: as a separator, as a full stop or as a letter of an
extension. -/
def isDecisive (b : UInt8) : Bool :=
  b = Path.slash || b = Path.dot || letters.contains (Char.ofNat b.toNat).toLower

theorem isDecisive_of_isExtension {bytes : Name} (h : isExtension bytes) {b : UInt8}
    (present : b ∈ bytes) :
  isDecisive b
  := by
  have letter := List.contains_iff_mem.mpr (letter_of_isExtension h b present)
  simp only [isDecisive, letter, Bool.or_true]

/-- A name is that of a template if the decoded one is, unless a byte is escaped that
decides. -/
theorem isName_decode_iff {name : Name} (harmless : ∀ b ∈ Uri.escapedIn name, ¬ isDecisive b) :
  IsName (Uri.decode name) ↔ IsName name
  := by
  constructor
  · rintro ⟨stem, text, nonempty, parts, extension⟩
    have template : isExtension (Text.encode text) := isExtension_iff.mpr ⟨text, rfl, extension⟩
    rw [Uri.decode_eq_map] at parts
    obtain ⟨front, back, pieces, rfl, read⟩ := List.map_eq_append_iff.mp parts
    have decisive : ∀ b ∈ back.map Uri.Piece.byte, isDecisive b := by
      rw [read, List.forall_mem_cons]
      exact ⟨by decide, fun b present => isDecisive_of_isExtension template present⟩
    have plain : back.flatMap Uri.Piece.written = back.map Uri.Piece.byte := by
      apply Uri.flatMap_written_of_unescaped
      intro b present escaped
      apply harmless b _ (decisive b present)
      rw [Uri.escapedIn, pieces, List.filterMap_append, List.mem_append]
      exact .inr escaped
    refine ⟨front.flatMap Uri.Piece.written, text, ?_, ?_, extension⟩
    · rw [ne_eq, Uri.flatMap_written_eq_nil_iff]
      rintro rfl
      cases nonempty rfl
    · rw [← read, ← plain, ← List.flatMap_append, ← pieces, Uri.flatMap_written]
  · rintro ⟨stem, text, nonempty, rfl, extension⟩
    have template : isExtension (Text.encode text) := isExtension_iff.mpr ⟨text, rfl, extension⟩
    have unescaped : Uri.decode (Text.encode text) = Text.encode text := by
      apply Uri.decode_of_no_percent
      intro present
      exact absurd (letter_of_isExtension template 37 present) (by decide)
    refine ⟨Uri.decode stem, text, ?_, ?_, extension⟩
    · rw [ne_eq, Uri.decode_eq_nil_iff]
      apply nonempty
    · rw [Uri.decode_append_cons Uri.separates_dot, unescaped]

end Template

namespace Document

/-! ### Documents -/

/-- Without an escape of a byte that decides, the path of a document and that of its file are
both those of a template, or neither is. -/
theorem isTemplate_iff_isPath {d : Document} {p : Path} (other : d.language ∉ Template.languages)
    (leads : d.filePath? = some p)
    (harmless : ∀ b ∈ Uri.escapedIn (Text.encode d.uri.path), ¬ Template.isDecisive b) :
  d.isTemplate ↔ Template.isPath p
  := by
  obtain ⟨body, written, rfl⟩ := Uri.eq_decode_of_filePath? leads
  have raw : d.isTemplate ↔ Template.isPath ⟨Path.slash :: body⟩ := by
    simp [isTemplate, other, Path.ofText, written]
  have whole : Uri.escapedIn (Path.slash :: body) = Uri.escapedIn body :=
    Uri.escapedIn_append_cons Uri.separates_slash [] body
  rw [written, whole] at harmless
  have slash : Path.slash ∉ Uri.escapedIn body := fun escaped => harmless _ escaped (by decide)
  have dot : Path.dot ∉ Uri.escapedIn body := fun escaped => harmless _ escaped (by decide)
  rw [raw, Template.isPath_iff, Template.isPath_iff, Uri.fileName?_closeDrive,
    Uri.fileName?_decode slash dot]
  cases named : Path.fileName? ⟨Path.slash :: body⟩ with
  | none => simp
  | some name =>
    have same : Template.IsName (Uri.decode name) ↔ Template.IsName name := by
      apply Template.isName_decode_iff
      intro b escaped
      apply harmless b
      apply Uri.mem_escapedIn_of_segment (Uri.mem_segments_of_fileName? named) escaped
    simp [same]

/-- A document with the path of its URI, in no language of templates. -/
def plaintext (path : String) : Document :=
  ⟨⟨"file", some ⟨"", "", none⟩, path, none, none⟩, "plaintext", none, ""⟩

/-- A document that shows what difference it makes to escape a byte that decides: the path of
a template with that byte escaped wherever it occurs. -/
def exposing (b : UInt8) : Document :=
  let mark := (Char.ofNat b.toNat).toLower
  let name :=
    if b = Path.slash then "a/.pug" else if "jade".toList.contains mark then "b.jade" else "b.pug"
  let escaped := name.toList.flatMap fun c => if c = mark then Uri.escapeByte b else [c]
  plaintext (String.ofList ('/' :: escaped))

/-- Only that byte is escaped there, and the path of the document and that of its file
differ. -/
theorem exposing_spec {b : UInt8} (decisive : Template.isDecisive b) :
  (∀ c ∈ Uri.escapedIn (Text.encode (exposing b).uri.path), c = b)
    ∧ ∃ p ∈ (exposing b).filePath?, (exposing b).isTemplate ≠ Template.isPath p
  := by
  have all : ∀ n : Fin 256, Template.isDecisive (UInt8.ofNat n) →
      (∀ c ∈ Uri.escapedIn (Text.encode (exposing (UInt8.ofNat n)).uri.path), c = UInt8.ofNat n)
      ∧ ∃ p ∈ (exposing (UInt8.ofNat n)).filePath?,
        (exposing (UInt8.ofNat n)).isTemplate ≠ Template.isPath p := by
    decide +kernel
  simpa using all ⟨b.toNat, b.toNat_lt⟩ (by simpa using decisive)

/-- Editor and command line agree on the templates among the documents in which only certain
bytes are escaped, if and only if none of these bytes decides. -/
theorem same_templates_iff (escapes : UInt8 → Prop) :
  (∀ (d : Document) (p : Path), d.language ∉ Template.languages → d.filePath? = some p →
      (∀ b ∈ Uri.escapedIn (Text.encode d.uri.path), escapes b) →
      (d.isTemplate ↔ Template.isPath p))
    ↔ ∀ b, escapes b → ¬ Template.isDecisive b
  := by
  constructor
  · intro agree b escaped decisive
    obtain ⟨only, p, leads, differ⟩ := exposing_spec decisive
    apply differ
    rw [Bool.eq_iff_iff]
    apply agree (exposing b) p (show "plaintext" ∉ Template.languages by decide) leads
    intro c present
    rw [only c present]
    apply escaped
  · intro harmless d p other leads only
    apply isTemplate_iff_isPath other leads
    intro b present
    apply harmless b (only b present)

/-- A space and a letter beyond ASCII may be escaped. -/
theorem same_templates_in_menu :
  Template.isPath (Path.ofText "/w/café menu.PUG")
    ∧ (plaintext "/w/caf%C3%A9%20menu.PUG").isTemplate
  := by
  have other : "plaintext" ∉ Template.languages := by decide
  have leads : (plaintext "/w/caf%C3%A9%20menu.PUG").filePath?
      = some (Path.ofText "/w/café menu.PUG") := by
    decide +kernel
  have template : Template.isPath (Path.ofText "/w/café menu.PUG") := by decide +kernel
  have same := (same_templates_iff fun b => ¬ Template.isDecisive b).mpr (fun _ => id) _ _ other
    leads (by decide +kernel)
  exact ⟨template, same.mpr template⟩

/-- An escaped letter hides a template, and an escaped slash makes a template of what is
none. -/
theorem different_templates :
  "plaintext" ∉ Template.languages
    ∧ (Uri.parse "file:///w/a.p%75g" = .ok (plaintext "/w/a.p%75g").uri
      ∧ (plaintext "/w/a.p%75g").filePath? = some (Path.ofText "/w/a.pug")
      ∧ Template.isPath (Path.ofText "/w/a.pug") ∧ ¬ (plaintext "/w/a.p%75g").isTemplate)
    ∧ Uri.parse "file:///w/a%2F.pug" = .ok (plaintext "/w/a%2F.pug").uri
      ∧ (plaintext "/w/a%2F.pug").filePath? = some (Path.ofText "/w/a/.pug")
      ∧ ¬ Template.isPath (Path.ofText "/w/a/.pug") ∧ (plaintext "/w/a%2F.pug").isTemplate
  := by
  have hidden : Uri.parse "file:///w/a.p%75g" = .ok (plaintext "/w/a.p%75g").uri := by rfl
  have shown : Uri.parse "file:///w/a%2F.pug" = .ok (plaintext "/w/a%2F.pug").uri := by rfl
  refine ⟨by decide, ⟨hidden, ?_⟩, shown, ?_⟩
  · decide +kernel
  · decide +kernel

end Document

end TemplateLint
