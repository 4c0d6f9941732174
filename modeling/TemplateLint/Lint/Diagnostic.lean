import TemplateLint.Lint.Problem

/-!
# Diagnostics

Problems as an editor shows them: a position of no width that counts lines from zero, a
short code, and a message on one line with the code behind it.  The short code is the
problem's code with every occurrence of two tokens removed in one pass from the left.
-/

namespace TemplateLint

/-- A position in a document; lines and characters count from zero. -/
structure Position where
  line : UInt32
  character : UInt32
deriving DecidableEq, Repr

/-- A diagnostic: an error at a position, with a code if there is one. -/
structure Diagnostic where
  start : Position
  finish : Position
  code : Option String
  message : String
deriving DecidableEq, Repr

/-- The tokens that a short code leaves out. -/
def codeTokens : List (List Char) := ["PUG:".toList, "LINT_".toList]

/-- The characters after a token, if the characters start with one. -/
def afterToken? (cs : List Char) : Option (List Char) :=
  (codeTokens.find? fun token => token.isPrefixOf cs).map fun token => cs.drop token.length

/-- Characters without the tokens among them; the fuel bounds their number. -/
def dropTokensWithin : Nat → List Char → List Char
  | 0, cs => cs
  | _, [] => []
  | fuel + 1, c :: cs =>
    match afterToken? (c :: cs) with
    | some rest => dropTokensWithin fuel rest
    | none => c :: dropTokensWithin fuel cs

/-- Characters without the tokens among them. -/
def dropTokens (cs : List Char) : List Char := dropTokensWithin cs.length cs

/-- A code without the tokens in it. -/
def shortCode (code : String) : String := String.ofList (dropTokens code.toList)

/-- A text without its line feeds and carriage returns. -/
def singleLine (s : String) : String :=
  String.ofList (s.toList.filter fun c => c ≠ '\n' && c ≠ '\r')

/-- The source that diagnostics name. -/
def Diagnostic.source : String := "puglint"

/-- The line that counts from zero of one that counts from one; the line zero stays. -/
def zeroBased (line : UInt32) : UInt32 := if line = 0 then 0 else line - 1

/-- The diagnostic of a problem. -/
def Problem.toDiagnostic (p : Problem) : Diagnostic :=
  let code := shortCode p.code
  let position : Position := ⟨zeroBased p.line, p.column⟩
  { start := position
    finish := position
    code := if code = "" then none else some code
    message := singleLine p.msg.joined ++ " [" ++ code ++ "]" }

/-- The written form of a position. -/
def Position.toValue (p : Position) : Json.Value :=
  .object [("line", .number (.integer p.line.toNat)),
    ("character", .number (.integer p.character.toNat))]

/-- The written form of a diagnostic. -/
def Diagnostic.toValue (d : Diagnostic) : Json.Value :=
  .object ([("range", .object [("start", d.start.toValue), ("end", d.finish.toValue)]),
      ("severity", .number (.integer 1))]
    ++ (match d.code with
      | some code => [("code", .text code)]
      | none => [])
    ++ [("source", .text source), ("message", .text d.message)])

end TemplateLint
