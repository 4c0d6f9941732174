import TemplateLint.Json.Reader

/-!
# Typed reading of JSON text

Readers for text that has to hold a value of a certain kind.  The first fault in reading
order wins, be it a fault of the grammar or a value of the wrong kind, and nothing after
it is looked at.  A record is read from an object by the names of its fields, or from an
array by their order; members of other names are skipped, and what is skipped has to
keep only to the outlines of the grammar: its nesting has no limit, its numbers no range
and its escapes no pairing.
-/

namespace TemplateLint.Json

/-- The fault of a value of another kind than the expected one, which is read only as
far as its kind and its scalar are told. -/
def wrongType (expected : String) (cs : List Char) : Fault :=
  let scalar {α : Type} (read : Outcome α) (found : α → Found) : Fault :=
    match read with
    | .ok (a, _) => .wrongType (found a) expected
    | .error fault => fault
  let ofNumber (n : Number) : Found := Found.ofValue (.number n)
  match skipBlank cs with
  | [] => .endInValue
  | 'n' :: rest => scalar (word ['u', 'l', 'l'] rest) fun () => .null
  | 't' :: rest => scalar (word ['r', 'u', 'e'] rest) fun () => .bool true
  | 'f' :: rest => scalar (word ['a', 'l', 's', 'e'] rest) fun () => .bool false
  | '-' :: rest => scalar (unsignedNumber false rest) ofNumber
  | '"' :: rest => scalar (stringRest [] rest) .text
  | '[' :: _ => .wrongType .sequence expected
  | '\x7b' :: _ => .wrongType .map expected
  | c :: rest =>
    if c.isDigit then scalar (unsignedNumber true (c :: rest)) ofNumber else .expectedValue

/-- A string. -/
def text : Reader String := fun cs =>
  match skipBlank cs with
  | '"' :: rest => stringRest [] rest
  | other => .error (wrongType "a string" other)

/-- A truth value. -/
def bool : Reader Bool := fun cs =>
  match skipBlank cs with
  | 't' :: rest => (word ['r', 'u', 'e'] rest).map fun (_, rest) => (true, rest)
  | 'f' :: rest => (word ['a', 'l', 's', 'e'] rest).map fun (_, rest) => (false, rest)
  | other => .error (wrongType "a boolean" other)

/-- The word of 32 bits that a number is. -/
def word32OfNumber : Number → Except Fault UInt32
  | .integer i =>
    if isWord 32 i then .ok (UInt32.ofNat i.toNat)
    else .error (.wrongValue (.integer i) "u32")
  | .double x => .error (.wrongType (.double x) "u32")

/-- A natural number of 32 bits. -/
def word32 : Reader UInt32 := fun cs => do
  match skipBlank cs with
  | '-' :: rest =>
    let (n, rest) ← unsignedNumber false rest
    return (← word32OfNumber n, rest)
  | c :: rest =>
    if c.isDigit then
      let (n, rest) ← unsignedNumber true (c :: rest)
      return (← word32OfNumber n, rest)
    else throw (wrongType "u32" (c :: rest))
  | [] => throw .endInValue

/-- The absent value. -/
def unit : Reader Unit := fun cs =>
  match skipBlank cs with
  | 'n' :: rest => word ['u', 'l', 'l'] rest
  | other => .error (wrongType "unit" other)

/-- An array. -/
def list (element : Nat → Reader α) : Nat → Reader (List α) := fun depth cs =>
  match skipBlank cs with
  | '[' :: rest =>
    match depth with
    | inner + 2 => listRest (element (inner + 1)) rest
    | _ => .error .tooDeep
  | other => .error (wrongType "a sequence" other)

/-- The members of an object. -/
def members : Nat → Reader Members := fun depth cs =>
  match skipBlank cs with
  | '\x7b' :: rest =>
    match depth with
    | inner + 2 =>
      (membersRest (plainValue (inner + 1)) rest).map fun (members, rest) =>
        (Value.mergedMembers [] members, rest)
    | _ => .error .tooDeep
  | other => .error (wrongType "a map" other)

/-! ### Skipping -/

/-- The characters of a skipped string after its opening quote, up to and including the
closing one. -/
def skipString : Reader Unit
  | [] => .error .endInString
  | '"' :: rest => .ok ((), rest)
  | '\\' :: 'u' :: a :: b :: c :: d :: rest =>
    match hexUnit? a b c d with
    | none => .error .invalidEscape
    | some _ => skipString rest
  | '\\' :: 'u' :: rest => .error (shortEscape rest)
  | ['\\'] => .error .endInString
  | '\\' :: c :: rest =>
    match letterEscape? c with
    | some _ => skipString rest
    | none => .error .invalidEscape
  | c :: rest => if c.toNat < 0x20 then .error .controlCharacter else skipString rest

/-- A skipped exponent part, after the letter that starts it. -/
def skipExponent : Reader Unit := fun cs =>
  let cs := match cs with
    | '+' :: rest => rest
    | '-' :: rest => rest
    | _ => cs
  match cs with
  | c :: rest => if c.isDigit then .ok ((), (dropDigits 0 rest).2) else .error .invalidNumber
  | [] => .error .invalidNumber

/-- A skipped fraction part, after the point. -/
def skipFraction : Reader Unit := fun cs =>
  match dropDigits 0 cs with
  | (0, _) => .error .invalidNumber
  | (_, 'e' :: rest) => skipExponent rest
  | (_, 'E' :: rest) => skipExponent rest
  | (_, rest) => .ok ((), rest)

/-- A skipped number after its sign, if it has one. -/
def skipNumber : Reader Unit
  | [] => .error .invalidNumber
  | c :: cs =>
    if c = '0' then
      match cs with
      | '.' :: rest => skipFraction rest
      | 'e' :: rest => skipExponent rest
      | 'E' :: rest => skipExponent rest
      | d :: _ => if d.isDigit then .error .invalidNumber else .ok ((), cs)
      | [] => .ok ((), [])
    else if c.isDigit then
      match dropDigits 0 cs with
      | (_, '.' :: rest) => skipFraction rest
      | (_, 'e' :: rest) => skipExponent rest
      | (_, 'E' :: rest) => skipExponent rest
      | (_, rest) => .ok ((), rest)
    else .error .invalidNumber

/-- The start of a skipped value: a scalar is passed over, and an array or an object is
entered. -/
inductive Entered where
  | scalar
  | list
  | object
deriving DecidableEq

/-- The first part of a skipped value. -/
def skipStart : Reader Entered := fun cs =>
  match skipBlank cs with
  | [] => .error .endInValue
  | 'n' :: rest => (word ['u', 'l', 'l'] rest).map fun (_, rest) => (.scalar, rest)
  | 't' :: rest => (word ['r', 'u', 'e'] rest).map fun (_, rest) => (.scalar, rest)
  | 'f' :: rest => (word ['a', 'l', 's', 'e'] rest).map fun (_, rest) => (.scalar, rest)
  | '-' :: rest => (skipNumber rest).map fun (_, rest) => (.scalar, rest)
  | '"' :: rest => (skipString rest).map fun (_, rest) => (.scalar, rest)
  | '[' :: rest => .ok (.list, rest)
  | '\x7b' :: rest => .ok (.object, rest)
  | c :: rest =>
    if c.isDigit then (skipNumber (c :: rest)).map fun (_, rest) => (.scalar, rest)
    else .error .expectedValue

/-- A skipped key with its colon. -/
def skipKey : Reader Unit := fun cs => do
  match skipBlank cs with
  | [] => throw .endInObject
  | '"' :: rest =>
    let ((), rest) ← skipString rest
    match skipBlank rest with
    | [] => throw .endInObject
    | ':' :: rest => return ((), rest)
    | _ => throw .expectedColon
  | _ => throw .keyNotString

/-- The part of skipped text that follows a value or an opening bracket: closings, until
a comma or, right after an opening, the next value.  The stack holds for each open array
or object whether it is an object; an empty stack left over means that the skipped value
has ended. -/
def skipClosings : Nat → Bool → List Bool → Reader (List Bool)
  | 0, _, _, _ => .error .endInValue
  | _, _, [], cs => .ok ([], cs)
  | fuel + 1, comma, isObject :: outer, cs =>
    match skipBlank cs with
    | [] => .error (if isObject then .endInObject else .endInList)
    | c :: rest =>
      if c = ',' ∧ comma then .ok (isObject :: outer, rest)
      else if c = (if isObject then '\x7d' else ']') then skipClosings fuel true outer rest
      else if comma then
        .error (if isObject then .expectedCommaOrBrace else .expectedCommaOrBracket)
      else .ok (isObject :: outer, c :: rest)

/-- Skipped text within a stack of open arrays and objects; the fuel bounds the number
of values. -/
def skipWithin : Nat → List Bool → Reader Unit
  | 0, _, _ => .error .endInValue
  | fuel + 1, stack, cs => do
    let (entered, rest) ← skipStart cs
    let (stack, rest) ←
      match entered with
      | .scalar => skipClosings (stack.length + 1) true stack rest
      | .list => skipClosings (stack.length + 2) false (false :: stack) rest
      | .object => skipClosings (stack.length + 2) false (true :: stack) rest
    match stack with
    | [] => return ((), rest)
    | isObject :: _ =>
      let ((), rest) ← if isObject then skipKey rest else pure ((), rest)
      skipWithin fuel stack rest

/-- A value of which nothing is kept. -/
def skip : Reader Unit := fun cs => skipWithin (cs.length + 1) [] cs

/-! ### Records -/

/-- A field of a record that is being read: its name, how its value is read into the
record, whether it was read before, and whether it may be missing. -/
structure Field (σ : Type) where
  name : String
  read : Nat → Reader (σ → σ)
  isRead : σ → Bool
  optional : Bool

/-- The description of a record type in a fault about the number of its elements. -/
def elementCount (type : String) (count : Nat) : String :=
  "struct " ++ type ++ " with " ++ toString count ++
    (if count = 1 then " element" else " elements")

/-- The fields of a record from the elements of an array, in order. -/
def fieldsInOrder (type : String) (total depth : Nat) :
    Nat → Bool → List (Field σ) → σ → Reader σ
  | _, _, [], state, cs => .ok (state, cs)
  | index, first, field :: rest, state, cs => do
    match ← nextElement first cs with
    | some start =>
      let (set, after) ← field.read depth start
      fieldsInOrder type total depth (index + 1) false rest (set state) after
    | none =>
      if field.optional then
        fieldsInOrder type total depth (index + 1) first rest state cs
      else throw (.wrongLength index (elementCount type total))

/-- A member of an object read into the field of its name, or skipped. -/
def memberOf (fields : List (Field σ)) (depth : Nat) (key : String) (state : σ) : Reader σ :=
  fun cs => do
    match fields.find? (·.name = key) with
    | some field =>
      if field.isRead state then throw (.repeatedField key)
      else
        let ((), rest) ← colon cs
        let (set, rest) ← field.read depth rest
        return (set state, rest)
    | none =>
      let ((), rest) ← colon cs
      let ((), rest) ← skip rest
      return (state, rest)

/-- The first field that is required and was not read. -/
def missing? (fields : List (Field σ)) (state : σ) : Option String :=
  (fields.find? fun field => !field.optional && !field.isRead state).map (·.name)

/-- A record of the given type, from the state in which none of its fields was read. -/
def record (type : String) (fields : List (Field σ)) (start : σ) : Nat → Reader σ :=
  fun depth cs => do
    match skipBlank cs with
    | '[' :: rest =>
      match depth with
      | inner + 2 =>
        let (state, rest) ← fieldsInOrder type fields.length (inner + 1) 0 true fields start rest
        let ((), rest) ← endList rest
        return (state, rest)
      | _ => throw .tooDeep
    | '\x7b' :: rest =>
      match depth with
      | inner + 2 =>
        let (state, rest) ←
          collect (memberOf fields (inner + 1)) (rest.length + 1) true start rest
        match missing? fields state with
        | some name => throw (.missingField name)
        | none =>
          let ((), rest) ← endObject rest
          return (state, rest)
      | _ => throw .tooDeep
    | other => throw (wrongType ("struct " ++ type) other)

/-- One of several names: a string that is one, or an object whose only key is one, with
the absent value under it. -/
def oneOf (expected : String) (find? : String → Option α) : Nat → Reader α := fun depth cs => do
  let named (name : String) : Except Fault α :=
    match find? name with
    | some a => .ok a
    | none => .error (.unknownVariant name expected)
  match skipBlank cs with
  | [] => throw .endInValue
  | '"' :: rest =>
    let (name, rest) ← stringRest [] rest
    return (← named name, rest)
  | '\x7b' :: rest =>
    match depth with
    | _ + 2 =>
      match skipBlank rest with
      | '"' :: rest =>
        let (name, rest) ← stringRest [] rest
        let found ← named name
        let ((), rest) ← colon rest
        let ((), rest) ← unit rest
        match skipBlank rest with
        | [] => throw .endInObject
        | '\x7d' :: rest => return (found, rest)
        | _ => throw .expectedValue
      | other => throw (wrongType "variant identifier" other)
    | _ => throw .tooDeep
  | _ => throw .expectedValue

end TemplateLint.Json
