import TemplateLint.Number.Binary64

/-!
# JSON values

Values of the JSON data model.  Integers and floating-point numbers are told apart, and
the members of an object form a list in the order in which their keys first appeared,
in which no key occurs twice when it is built by insertion: inserting under a key that
is present replaces the value and keeps the position.
-/

namespace TemplateLint.Json

/-- A number: an integer, or a floating-point number. -/
inductive Number where
  | integer (value : Int)
  | double (value : Binary64)
deriving DecidableEq, Repr

/-- A JSON value. -/
inductive Value where
  | null
  | bool (value : Bool)
  | number (value : Number)
  | text (value : String)
  | list (items : List Value)
  | object (members : List (String × Value))
deriving Inhabited

/-- The members of an object in order. -/
abbrev Members : Type := List (String × Value)

namespace Members

/-- The value under a key. -/
def get? : Members → String → Option Value
  | [], _ => none
  | (key, value) :: rest, sought => if key = sought then some value else get? rest sought

/-- The members with a value under a key: in the place of the value that was there, or
at the end. -/
def insert : Members → String → Value → Members
  | [], key, value => [(key, value)]
  | (k, v) :: rest, key, value =>
    if k = key then (k, value) :: rest else (k, v) :: insert rest key value

/-- The keys in order. -/
def keys (members : Members) : List String := members.map Prod.fst

/-- Lookup after insertion finds the inserted value under its key and leaves the other
keys alone. -/
theorem get?_insert (members : Members) (key sought : String) (value : Value) :
  (members.insert key value).get? sought
    = if key = sought then some value else members.get? sought
  := by
  induction members with
  | nil => simp [insert, get?]
  | cons pair rest ih =>
    obtain ⟨k, v⟩ := pair
    by_cases hk : k = key
    · subst hk
      by_cases hs : k = sought <;> simp [insert, get?, hs]
    · by_cases hs : k = sought
      · subst hs
        have hk' : ¬ key = k := fun h => hk h.symm
        simp [insert, get?, hk, hk']
      · simp [insert, get?, hk, hs, ih]

end Members

namespace Value

/-- The value under a key, for an object that has the key. -/
def member? : Value → String → Option Value
  | object members, key => Members.get? members key
  | _, _ => none

/-- The text of a value that is one. -/
def text? : Value → Option String
  | text s => some s
  | _ => none

mutual

/-- The value with no key repeated in its objects: a later member replaces an earlier one of
the same key. -/
def merged : Value → Value
  | list items => list (mergedItems items)
  | object members => object (mergedMembers [] members)
  | other => other

/-- The elements of a list merged. -/
def mergedItems : List Value → List Value
  | [] => []
  | item :: rest => item.merged :: mergedItems rest

/-- The members before some pairs, with the pairs merged and inserted one after another. -/
def mergedMembers (before : Members) : List (String × Value) → Members
  | [] => before
  | (key, value) :: rest => mergedMembers (before.insert key value.merged) rest

end

end Value

end TemplateLint.Json
