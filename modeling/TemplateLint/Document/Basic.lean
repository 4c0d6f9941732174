import TemplateLint.Document.Template
import TemplateLint.Uri.Basic

/-!
# Documents

A document that is open in the editor: where it is, the language that the editor says it
is in, its version and its text.
-/

namespace TemplateLint

/-- An open document. -/
structure Document where
  uri : Uri
  language : String
  version : Option Int
  text : String
deriving DecidableEq

namespace Document

/-- The path of the file of a document, if it has one. -/
def filePath? (d : Document) : Option Path := d.uri.filePath?

/-- The path of a document as it is shown: that of its file, or else its URI. -/
def displayPath (d : Document) : String :=
  match d.filePath? with
  | some path => path.toText
  | none => d.uri.text

/-- The path under which a document is checked. -/
def checkPath (d : Document) : Path := d.filePath?.getD (Path.ofText d.displayPath)

/-- Whether a document is a template: by its language, or else by the extension in its
URI. -/
def isTemplate (d : Document) : Bool :=
  Template.languages.contains d.language || Template.isPath (Path.ofText d.uri.path)

end Document

end TemplateLint
