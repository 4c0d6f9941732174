/-!
# Faults in JSON5 text

The causes for which a text is not JSON5, with their wording.  A text that does not follow
the grammar is one cause; the others lie in numbers and in escapes that are well formed
but mean nothing.
-/

namespace TemplateLint.Json5

/-- A cause for which a text is not JSON5. -/
inductive Fault where
  | grammar
  | integer
  | hexadecimal
  | number
  | numberTooLarge
  | unexpectedTrail
  | missingTrail
  | expectedTrail
deriving DecidableEq

/-- The wording of a fault in JSON5 text. -/
def Fault.message : Fault → String
  | grammar => "<json5 syntax error>"
  | integer => "error parsing integer"
  | hexadecimal => "error parsing hex"
  | number => "error parsing number"
  | numberTooLarge => "error parsing number: too large"
  | unexpectedTrail => "unexpected unicode trail surrogate"
  | missingTrail => "missing unicode trail surrogate"
  | expectedTrail => "expecting unicode trail surrogate"

end TemplateLint.Json5
