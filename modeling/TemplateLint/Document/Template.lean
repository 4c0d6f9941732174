import TemplateLint.System.Path

/-!
# Templates

The languages and file extensions of templates.  An extension counts in any case.
-/

namespace TemplateLint

namespace Template

/-- The languages of templates. -/
def languages : List String := ["pug", "jade"]

/-- The extensions of the files of templates. -/
def extensions : List String := ["pug", "jade"]

/-- A text with the letters of ASCII in lower case. -/
def lowerCase (s : String) : String := String.ofList (s.toList.map Char.toLower)

/-- Whether an extension is that of a template. -/
def isExtension (bytes : Name) : Bool :=
  match Text.decode? bytes with
  | some text => extensions.contains (lowerCase text)
  | none => false

/-- Whether a path has the extension of a template. -/
def isPath (path : Path) : Bool :=
  match path.extension? with
  | some bytes => isExtension bytes
  | none => false

end Template

end TemplateLint
