import TemplateLint.Document.Basic

/-!
# The store of open documents

The open documents, each under the text of its URI.  Changes of a document may come in
any order, so a change with a version that is not newer than the stored one is refused;
a text without a version replaces the stored text and keeps the version.
-/

namespace TemplateLint

/-- The open documents under the texts of their URIs. -/
structure Store where
  entries : List (String × Document)

namespace Store

/-- The store without documents. -/
def empty : Store := ⟨[]⟩

/-- Entries with a document under a key, in the place of the one that was there or at the
end. -/
def setEntry : List (String × Document) → String → Document → List (String × Document)
  | [], key, document => [(key, document)]
  | (k, old) :: rest, key, document =>
    if k = key then (k, document) :: rest else (k, old) :: setEntry rest key document

/-- The document under a URI. -/
def get? (s : Store) (uri : Uri) : Option Document := s.entries.lookup uri.text

/-- The store with a document under its URI. -/
def insert (s : Store) (document : Document) : Store :=
  ⟨setEntry s.entries document.uri.text document⟩

/-- Whether a change is stale: both versions are known, and the new one is not newer. -/
def isStale (version current : Option Int) : Bool :=
  match version, current with
  | some new, some old => new ≤ old
  | _, _ => false

/-- A document with a new text, and a new version if there is one. -/
def changed (document : Document) (version : Option Int) (text : String) : Document :=
  { document with version := version <|> document.version, text := text }

/-- The document that a change of the document under a URI leads to, and the store with
it; nothing changes if the document is not open or the change is stale. -/
def update (s : Store) (uri : Uri) (version : Option Int) (text : String) :
    Option Document × Store :=
  match s.get? uri with
  | none => (none, s)
  | some document =>
    if isStale version document.version then (none, s)
    else
      let next := changed document version text
      (some next, ⟨setEntry s.entries uri.text next⟩)

/-- Whether a document is what the store holds under its URI. -/
def isCurrent (s : Store) (document : Document) : Bool :=
  match s.get? document.uri with
  | some stored => stored.version = document.version && stored.text = document.text
  | none => false

/-- The store without the document under a URI. -/
def close (s : Store) (uri : Uri) : Store := ⟨s.entries.filter fun e => e.1 ≠ uri.text⟩

/-- Whether a document comes before another one, by the texts of their URIs. -/
def precedes (d e : Document) : Bool := d.uri.text ≤ e.uri.text

/-- The open documents in the order of their URIs. -/
def all (s : Store) : List Document := (s.entries.map Prod.snd).mergeSort precedes

end Store

end TemplateLint
