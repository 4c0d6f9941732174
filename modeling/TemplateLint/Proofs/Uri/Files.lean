import Mathlib.Data.List.TakeWhile
import Mathlib.Tactic.Use
import TemplateLint.Document.Basic

/-!
# URIs of files

The URI of the file at an absolute path has the components of the path for its segments,
percent-encoded as names.  Letters and full stops are written as they are, so the URI of
a template has the extension of the template, and a document under that URI is a template
whatever language the editor says it is in.
-/

namespace TemplateLint

/-! ### Texts of ASCII -/

namespace Text

/-- The character of a number has that number, unless there is none. -/
theorem toNat_ofNat {n : Nat} (positive : 0 < (Char.ofNat n).toNat) :
  (Char.ofNat n).toNat = n
  := by
  by_cases valid : n.isValidChar
  · have some : Char.ofNat n = Char.ofNatAux n valid := dif_pos valid
    rw [some]
    rfl
  · have none : Char.ofNat n = Char.ofNatAux 0 (by decide) := dif_neg valid
    rw [none] at positive
    cases positive

/-- What the length of the form of a character says about its first byte. -/
theorem leadLength?_spec {b : UInt8} {n : Nat} (h : leadLength? b = some n) :
  (n = 1 ∧ b.toNat < 0x80) ∨ (n = 2 ∧ 0xC2 ≤ b.toNat ∧ b.toNat ≤ 0xDF)
    ∨ (n = 3 ∧ 0xE0 ≤ b.toNat ∧ b.toNat ≤ 0xEF) ∨ (n = 4 ∧ 0xF0 ≤ b.toNat ∧ b.toNat ≤ 0xF4)
  := by
  simp only [leadLength?, Bool.and_eq_true, decide_eq_true_eq, UInt8.lt_iff_toNat_lt,
    UInt8.le_iff_toNat_le, UInt8.reduceToNat] at h
  grind

/-- The narrowed ranges after the first bytes of which the payload can be zero. -/
theorem followsLead_narrow {lead second : UInt8} (follows : followsLead lead second) :
  (lead.toNat = 0xE0 → 0xA0 ≤ second.toNat ∧ second.toNat ≤ 0xBF)
    ∧ (lead.toNat = 0xF0 → 0x90 ≤ second.toNat ∧ second.toNat ≤ 0xBF)
  := by
  have e0 : lead.toNat = 0xE0 → lead = 0xE0 := fun h => UInt8.toNat_inj.mp h
  have f0 : lead.toNat = 0xF0 → lead = 0xF0 := fun h => UInt8.toNat_inj.mp h
  constructor
  · intro h
    rw [e0 h] at follows
    simpa [followsLead, UInt8.le_iff_toNat_le] using follows
  · intro h
    rw [f0 h] at follows
    simpa [followsLead, UInt8.le_iff_toNat_le] using follows

/-- A character of ASCII other than the one with number zero is the form of one byte. -/
theorem step_ascii {b : UInt8} {rest : List UInt8} {c : Char} {width : Nat}
    (positive : 0 < c.toNat) (ascii : c.toNat < 128) :
  step b rest = (some c, width) → c.toNat = b.toNat ∧ width = 1
  := by
  fun_cases step b rest with
  | case1 =>
    rintro ⟨⟩
    use toNat_ofNat positive
  | case2 second _ lead =>
    rintro ⟨⟩
    have bounds := leadLength?_spec lead
    have number := toNat_ofNat positive
    omega
  | case4 second third _ lead follows =>
    rintro ⟨⟩
    have bounds := leadLength?_spec lead
    have narrow := followsLead_narrow follows
    rw [toNat_ofNat positive, payload, payload] at ascii
    omega
  | case7 second third fourth _ lead follows =>
    rintro ⟨⟩
    have bounds := leadLength?_spec lead
    have narrow := followsLead_narrow follows
    rw [toNat_ofNat positive, payload, payload, payload] at ascii
    omega
  | _ => rintro ⟨⟩

/-- Bytes that are decoded to characters of ASCII have the numbers of these. -/
theorem stepAll_ascii {fuel : Nat} {bytes : List UInt8} {cs : List Char}
    (enough : bytes.length ≤ fuel) (decoded : (stepAll fuel bytes).mapM id = some cs)
    (ascii : ∀ c ∈ cs, 0 < c.toNat ∧ c.toNat < 128) :
  bytes.map UInt8.toNat = cs.map Char.toNat
  := by
  induction fuel generalizing bytes cs with
  | zero =>
    obtain rfl : bytes = [] := List.eq_nil_of_length_eq_zero (Nat.le_zero.mp enough)
    obtain rfl : cs = [] := by simpa [stepAll] using decoded.symm
    rfl
  | succ fuel ih =>
    cases bytes with
    | nil =>
      obtain rfl : cs = [] := by simpa [stepAll] using decoded.symm
      rfl
    | cons b rest =>
      rcases stepped : step b rest with ⟨_ | first, width⟩
      · simp [stepAll, stepped] at decoded
      · obtain ⟨later, decoded, rfl⟩ : ∃ later,
            (stepAll fuel (rest.drop (width - 1))).mapM id = some later ∧ first :: later = cs := by
          simpa [stepAll, stepped, Option.bind_eq_some_iff] using decoded
        have letter := ascii first List.mem_cons_self
        obtain ⟨same, rfl⟩ := step_ascii letter.1 letter.2 stepped
        have rest := ih (by simpa using Nat.le_of_succ_le_succ enough) decoded
          (fun c present => ascii c (List.mem_cons_of_mem _ present))
        simpa [same] using rest

theorem decode?_ascii {bytes : List UInt8} {text : String} (decoded : decode? bytes = some text)
    (ascii : ∀ c ∈ text.toList, 0 < c.toNat ∧ c.toNat < 128) :
  bytes.map UInt8.toNat = text.toList.map Char.toNat
  := by
  obtain ⟨cs, read, rfl⟩ := Option.map_eq_some_iff.mp decoded
  rw [String.toList_ofList] at ascii ⊢
  apply stepAll_ascii (Nat.le_refl _) read ascii

end Text

/-! ### Encoded names -/

namespace Uri

/-- Whether a byte is written as it is in the name of a file. -/
def isPlain (b : UInt8) : Bool := b.toNat < 0x80 && !encodedInName (Char.ofNat b.toNat)

/-- The bytes of the encoded form of a name. -/
def escapedName (name : Name) : List UInt8 := Text.encodeChars (encodeBytes encodedInName name)

theorem escapedName_append (first second : Name) :
  escapedName (first ++ second) = escapedName first ++ escapedName second
  := by
  simp [escapedName, encodeBytes, Text.encodeChars]

theorem escapedName_cons (b : UInt8) (rest : Name) :
  escapedName (b :: rest) = escapedName [b] ++ escapedName rest
  := escapedName_append [b] rest

/-- What the encoded forms of the bytes are like, one by one. -/
theorem escapedName_singleton (b : UInt8) :
  escapedName [b] ≠ [] ∧ Path.slash ∉ escapedName [b] ∧ (isPlain b → escapedName [b] = [b])
  := by
  have all : ∀ n : Fin 256, escapedName [UInt8.ofNat n] ≠ []
      ∧ Path.slash ∉ escapedName [UInt8.ofNat n]
      ∧ (isPlain (UInt8.ofNat n) → escapedName [UInt8.ofNat n] = [UInt8.ofNat n]) := by
    decide +kernel
  simpa using all ⟨b.toNat, b.toNat_lt⟩

theorem escapedName_ne_nil {name : Name} (h : name ≠ []) :
  escapedName name ≠ []
  := by
  cases name with
  | nil => cases h rfl
  | cons b rest =>
    rw [escapedName_cons]
    apply List.append_ne_nil_of_left_ne_nil (escapedName_singleton b).1

theorem slash_notMem_escapedName (name : Name) :
  Path.slash ∉ escapedName name
  := by
  induction name with
  | nil => simp [escapedName, encodeBytes, Text.encodeChars]
  | cons b rest ih =>
    rw [escapedName_cons, List.mem_append, not_or]
    use (escapedName_singleton b).2.1

theorem escapedName_plain {name : Name} (plain : ∀ b ∈ name, isPlain b) :
  escapedName name = name
  := by
  induction name with
  | nil => rfl
  | cons b rest ih =>
    rw [List.forall_mem_cons] at plain
    rw [escapedName_cons, (escapedName_singleton b).2.2 plain.1, ih plain.2]
    rfl

end Uri

/-! ### Extensions -/

namespace Template

/-- The letters of the extensions of templates. -/
def letters : List Char := "pugjade".toList

theorem ascii_of_letter {c : Char} (letter : c.toLower ∈ letters) :
  0 < c.toNat ∧ c.toNat < 128
  := by
  have lower : (letters.all fun d => decide (0 < d.toNat ∧ d.toNat < 128)) = true := by
    decide
  by_cases upper : c.val ≥ 'A'.val ∧ c.val ≤ 'Z'.val
  · have least : 65 ≤ c.toNat := UInt32.le_iff_toNat_le.mp upper.1
    have greatest : c.toNat ≤ 90 := UInt32.le_iff_toNat_le.mp upper.2
    omega
  · have same : c.toLower = c := dif_neg upper
    rw [same] at letter
    apply of_decide_eq_true (List.all_eq_true.mp lower c letter)

/-- In lower case, an extension of templates consists of their letters. -/
theorem letter_of_extension {text : String} (extension : lowerCase text ∈ extensions)
    {c : Char} (present : c ∈ text.toList) :
  c.toLower ∈ letters
  := by
  have spelled : (extensions.all fun name => name.toList.all letters.contains) = true := by
    decide
  have among : c.toLower ∈ (lowerCase text).toList := by
    rw [lowerCase, String.toList_ofList]
    apply List.mem_map_of_mem present
  have all := List.all_eq_true.mp spelled _ extension
  apply List.contains_iff_mem.mp (List.all_eq_true.mp all _ among)

/-- The bytes of the extension of a template are those of its letters, in any case. -/
theorem letter_of_isExtension {bytes : Name} (extension : isExtension bytes) :
  ∀ b ∈ bytes, (Char.ofNat b.toNat).toLower ∈ letters
  := by
  rw [isExtension] at extension
  split at extension
  · rename_i text decoded
    rw [List.contains_iff_mem] at extension
    have letter (c : Char) (present : c ∈ text.toList) := letter_of_extension extension present
    have same := Text.decode?_ascii decoded fun c present => ascii_of_letter (letter c present)
    intro b present
    have number : b.toNat ∈ text.toList.map Char.toNat := by
      rw [← same]
      apply List.mem_map_of_mem present
    obtain ⟨c, present, number⟩ := List.mem_map.mp number
    rw [← number, Char.ofNat_toNat]
    apply letter c present
  · cases extension

/-- The extension of a template is written as it is in a URI. -/
theorem plain_of_isExtension {bytes : Name} (extension : isExtension bytes) :
  ∀ b ∈ bytes, Uri.isPlain b
  := by
  intro b present
  have plain : ∀ n : Fin 256,
      (Char.ofNat n).toLower ∈ letters → Uri.isPlain (UInt8.ofNat n) := by
    decide +kernel
  simpa using plain ⟨b.toNat, b.toNat_lt⟩ (letter_of_isExtension extension b present)

end Template

namespace Path

theorem splitLead_slash (rest : List UInt8) :
  splitLead (slash :: rest) = ([slash], rest)
  := by
  cases rest with
  | nil => rfl
  | cons b rest => simp [splitLead]

/-- The components of an absolute path are the root and those of the segments after the
first separator. -/
theorem components_slash (rest : List UInt8) :
  components ⟨slash :: rest⟩ = .root :: (segments rest).filterMap component?
  := by
  simp [components, splitLead_slash]

theorem ne_dot_of_mem_reverse {name : Name} (absent : dot ∉ name) :
  ∀ b ∈ name.reverse, decide (b ≠ dot) = true
  := by
  intro b present
  rw [List.mem_reverse] at present
  rw [decide_eq_true_eq]
  rintro rfl
  apply absent present

/-- The part of a name before its extension, and the extension, if the full stop between
them is the last one. -/
theorem take_before_extension (stem : Name) {after : Name} (last : dot ∉ after) :
  let name := stem ++ dot :: after
  (name.reverse.takeWhile (· ≠ dot)).reverse = after
    ∧ name.take (name.length - after.length) = stem ++ [dot]
  := by
  constructor
  · rw [List.reverse_append, List.reverse_cons, List.append_assoc,
      List.takeWhile_append_of_pos (ne_dot_of_mem_reverse last)]
    simp
  · rw [List.append_cons, List.length_append, Nat.add_sub_cancel, List.take_left]

/-- An extension is what follows the last full stop of a name which has something before
that stop. -/
theorem extension?_eq_some {p : Path} {extension : Name} :
  p.extension? = some extension
    ↔ ∃ stem, p.fileName? = some (stem ++ dot :: extension) ∧ stem ≠ [] ∧ dot ∉ extension
  := by
  constructor
  · intro found
    rw [extension?] at found
    cases named : p.fileName? with
    | none => simp [named] at found
    | some name =>
      rw [named] at found
      by_cases stop : dot ∈ name
      · obtain ⟨behind, front, parts, last⟩ :=
          List.eq_append_cons_of_mem (List.mem_reverse.mpr stop)
        obtain rfl : name = front.reverse ++ dot :: behind.reverse := by
          rw [← List.reverse_reverse name, parts]
          simp
        rw [← List.mem_reverse] at last
        generalize front.reverse = stem at found named
        generalize behind.reverse = after at found named last
        have ⟨same, before⟩ := take_before_extension stem last
        simp only [Option.bind_eq_bind, Option.bind_some, same, before] at found
        rcases stem with _ | ⟨b, rest⟩
        · cases found
        · obtain rfl : after = extension := by
            rcases rest with _ | ⟨c, rest⟩ <;> simpa using found
          use b :: rest, rfl, by simp
      · have whole := List.takeWhile_eq_self_iff.mpr (ne_dot_of_mem_reverse stop)
        simp only [Option.bind_eq_bind, Option.bind_some, whole] at found
        simp at found
  · rintro ⟨stem, named, nonempty, last⟩
    have ⟨same, before⟩ := take_before_extension stem last
    rw [extension?]
    simp only [named, Option.bind_eq_bind, Option.bind_some, same, before]
    rcases stem with _ | ⟨b, _ | ⟨c, rest⟩⟩
    · cases nonempty rfl
    · rfl
    · rfl

end Path

/-! ### URIs of files -/

namespace Uri

/-- The URI of the file at a path, if the path is absolute. -/
def ofFile? (path : Path) : Option Uri :=
  if path.isAbsolute then
    let segments := (path.components.drop 1).map fun c =>
      encodeBytes encodedInName (componentBytes c)
    let written := if segments = [] then ['/'] else segments.flatMap fun s => '/' :: s
    some ⟨"file", some ⟨"", "", none⟩, String.ofList written, none, none⟩
  else none

/-- Parts that each follow a separator are the parts between separators, after one. -/
theorem flatMap_cons_eq {α : Type} (separator : α) {parts : List (List α)} (h : parts ≠ []) :
  (parts.flatMap fun part => separator :: part) = separator :: [separator].intercalate parts
  := by
  induction parts with
  | nil => cases h rfl
  | cons part rest ih =>
    cases rest with
    | nil => simp
    | cons next rest =>
      rw [List.flatMap_cons, ih (List.cons_ne_nil _ _), List.intercalate_cons_cons]
      simp

/-- The bytes of the path of the URI of a file with components below the root. -/
theorem encode_path_ofFile? {p : Path} {uri : Uri} {first : Component} {rest : List Component}
    (located : ofFile? p = some uri) (below : p.components.drop 1 = first :: rest) :
  Text.encode uri.path
    = Path.slash :: [Path.slash].intercalate
        ((first :: rest).map fun c => escapedName (componentBytes c))
  := by
  rw [ofFile?] at located
  split at located
  · obtain rfl := Option.some.inj located
    have nonempty :
        (first :: rest).map (fun c => encodeBytes encodedInName (componentBytes c)) ≠ [] := by
      simp
    rw [below, if_neg nonempty, Text.encode, String.toList_ofList, Text.encodeChars,
      List.flatMap_assoc, List.flatMap_map]
    have written (c : Component) :
        ('/' :: encodeBytes encodedInName (componentBytes c)).flatMap String.utf8EncodeChar
          = Path.slash :: escapedName (componentBytes c) := rfl
    simp only [written]
    have nonempty : (first :: rest).map (fun c => escapedName (componentBytes c)) ≠ [] := by
      simp
    rw [← flatMap_cons_eq Path.slash nonempty, List.flatMap_map]
  · cases located

/-- The file that the path of a URI names is the encoded one. -/
theorem fileName?_ofFile? {p : Path} {uri : Uri} {name : Name} (located : ofFile? p = some uri)
    (named : p.fileName? = some name) (long : 2 < (escapedName name).length) :
  (Path.ofText uri.path).fileName? = some (escapedName name)
  := by
  have absolute : p.isAbsolute := by
    by_contra relative
    simp [ofFile?, relative] at located
  obtain ⟨_ | ⟨b, bytes⟩⟩ := p
  · cases absolute
  · obtain rfl : b = Path.slash := by simpa [Path.isAbsolute] using absolute
    have components := Path.components_slash bytes
    rw [Path.fileName?, components] at named
    generalize (Path.segments bytes).filterMap Path.component? = below at components named
    rcases List.eq_nil_or_concat below with rfl | ⟨front, last, rfl⟩
    · cases named
    · rw [List.concat_eq_append, ← List.cons_append, List.getLast?_append] at named
      obtain rfl : last = .name name := by
        rcases last with _ | _ | _ | other <;> simp at named
        rw [named]
      rcases parts : front ++ [Component.name name] with _ | ⟨first, rest⟩
      · simp at parts
      · rw [List.concat_eq_append, parts] at components
        have written := encode_path_ofFile? located (congrArg (List.drop 1) components)
        rw [Path.fileName?, Path.ofText, written, Path.components_slash, Path.segments,
          List.splitOn_intercalate Path.slash ?_ (by simp), ← parts]
        · have kept : Path.component? (escapedName name) = some (.name (escapedName name)) := by
            have apart (short : List UInt8) (h : short.length ≤ 2) : escapedName name ≠ short := by
              rintro rfl
              omega
            simp [Path.component?, apart]
          rw [List.map_append, List.filterMap_append, ← List.cons_append, List.getLast?_append]
          simp [componentBytes, kept]
        · intro part present
          obtain ⟨c, _, rfl⟩ := List.mem_map.mp present
          apply slash_notMem_escapedName

/-- A document under the URI of a template is a template. -/
theorem isTemplate_ofFile? {p : Path} {d : Document} (located : ofFile? p = some d.uri)
    (template : Template.isPath p) :
  d.isTemplate
  := by
  rw [Template.isPath] at template
  split at template
  · rename_i extension found
    obtain ⟨stem, named, nonempty, last⟩ := Path.extension?_eq_some.mp found
    have plain := escapedName_plain (Template.plain_of_isExtension template)
    have written : escapedName (stem ++ Path.dot :: extension)
        = escapedName stem ++ Path.dot :: extension := by
      rw [escapedName_append, escapedName_cons, plain]
      rfl
    have long : 2 < (escapedName (stem ++ Path.dot :: extension)).length := by
      have front := List.length_pos_iff.mpr (escapedName_ne_nil nonempty)
      have back : extension ≠ [] := by
        rintro rfl
        revert template
        decide
      have back := List.length_pos_iff.mpr back
      rw [written, List.length_append, List.length_cons]
      omega
    have named := fileName?_ofFile? located named long
    have kept : (Path.ofText d.uri.path).extension? = some extension := by
      rw [Path.extension?_eq_some]
      use escapedName stem
      rw [named, written]
      use rfl, escapedName_ne_nil nonempty
    simp [Document.isTemplate, Template.isPath, kept, template]
  · cases template

end Uri

end TemplateLint
