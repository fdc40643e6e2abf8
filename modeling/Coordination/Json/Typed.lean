import Coordination.Json.Number
import Coordination.Json.Reader
import Coordination.Text.Quoted

/-!
# Reading JSON of a known type

Readers for strings, 64-bit numbers, optional values, lists, choices from a list of names, and records. A value of
another type is refused with a message that says what was found and what was expected.

A record is an object whose members are fields in any order (`Form.read`), or a list of the fields in their
declared order. Members that are no fields are skipped, and may then be nested as deep as one likes (`skipValue`).
-/

namespace Coordination.Json.Reader

/-! ### Skipping -/

/-- Skips a numeral after its sign; one that ends too early is malformed. -/
def skipNumeral : Reader Unit := do
  let digits ← span Char.isDigit
  if digits.isEmpty ∨ (digits.head? = some '0' ∧ digits.length > 1) then throw .malformed
  if (← peek?) == some '.' then
    drop
    if (← span Char.isDigit).isEmpty then throw .malformed
  match ← peek? with
  | some 'e' | some 'E' =>
    drop
    if (← peek?) == some '-' || (← peek?) == some '+' then drop
    if (← span Char.isDigit).isEmpty then throw .malformed
  | _ => return

/-- What may follow a backslash in a string that is skipped: any four hexadecimal digits will do. -/
def skipEscape : Reader Char := do
  let c ← next
  if c = 'u' then
    let _ ← hexUnit
    return c
  else if (escapes.lookup c).isSome then return c
  else throw .malformed

/-- Skips a string, its opening quotation mark included. -/
def skipString : Reader Unit := do
  drop
  let _ ← characters skipEscape ((← get).length + 1)

def skipKey : Reader Unit := do
  if (← due) = '"' then skipString else throw .malformed
  mark ':'

/-- Closes the innermost open bracket; answers the brackets that stay open. -/
def skipClosing (inner : Char) (outer : List Char) : Reader (List Char) := do
  let c ← due
  if (inner = '[' ∧ c = ']') ∨ (inner = '{' ∧ c = '}') then drop; return outer
  else throw .malformed

/-- Skips values until no bracket is open; `fresh` says that the innermost bracket was opened just now, `started`
that a value is due. -/
def skipFrom : Nat → (stack : List Char) → (fresh started : Bool) → Reader Unit
  | 0, _, _, _ => throw .malformed
  | fuel + 1, stack, _, true => do
    let c ← due
    if c = '[' || c = '{' then
      drop
      skipFrom fuel (c :: stack) true false
    else
      match c with
      | '"' => skipString
      | '-' => drop; skipNumeral
      | c => if c.isDigit then skipNumeral else let _ ← scalar c
      skipFrom fuel stack false false
  | _ + 1, [], _, false => return
  | fuel + 1, inner :: outer, fresh, false => do
    let c ← due
    if c = ',' ∧ ¬ fresh then
      drop
      if inner = '{' then skipKey
      skipFrom fuel (inner :: outer) false true
    else if c = ']' ∨ c = '}' ∨ ¬ fresh then
      skipFrom fuel (← skipClosing inner outer) false false
    else
      if inner = '{' then skipKey
      skipFrom fuel (inner :: outer) false true

/-- Skips a value. -/
def skipValue : Reader Unit := do skipFrom (2 * (← get).length + 2) [] false true

/-! ### Values of another type -/

/-- A value as messages name it. -/
def describe : Json → String
  | .null => "null"
  | .bool b => "boolean `" ++ (if b then "true" else "false") ++ "`"
  | .int n => "integer `" ++ toString n ++ "`"
  | .float x => "floating point `" ++ floatText x ++ "`"
  | .str s => "string " ++ Text.quoted s
  | .arr _ => "sequence"
  | .obj _ => "map"

def wrongType {α : Type} (found : Json) (expected : String) : Reader α :=
  throw (.mistyped ("invalid type: " ++ describe found ++ ", expected " ++ expected))

/-- Refuses the value that comes next; of a list or an object only the bracket is looked at. -/
def refuse {α : Type} (expected : String) : Reader α := do
  match ← due with
  | '[' => wrongType (.arr []) expected
  | '{' => wrongType (.obj []) expected
  | c => wrongType (← scalar c) expected

/-! ### Types -/

def text (expected : String) : Reader String := do
  if (← due) = '"' then key else refuse expected

/-- A whole number of 64 bits without a sign. -/
def word64 : Reader UInt64 := do
  let c ← due
  if c = '-' || c.isDigit then
    match ← number with
    | .int n =>
      if n < 0 then throw (.mistyped ("invalid value: " ++ describe (.int n) ++ ", expected u64"))
      else return UInt64.ofNat n.toNat
    | other => wrongType other "u64"
  else refuse "u64"

/-- A value or `null`. -/
def optional {α : Type} (read : Reader α) : Reader (Option α) := do
  if (← skipBlank) = some 'n' then
    drop
    word "ull".toList
    return none
  else return some (← read)

def list {α : Type} (item : Reader α) (levels : Nat) : Reader (List α) := do
  if (← due) = '[' then
    within levels ']' fun _ => do return ← elements item true ((← get).length + 1)
  else refuse "a sequence"

/-- One of the named values, by its name, whose quotation mark comes next. -/
def named {α : Type} (choices : List (String × α)) : Reader α := do
  let name ← key
  match choices.lookup name with
  | some a => return a
  | none =>
    let names := choices.map fun c => "`" ++ c.1 ++ "`"
    throw (.mistyped ("unknown variant `" ++ name ++ "`, expected one of " ++ ", ".intercalate names))

/-- A choice: its name, or an object with the name as its only key and `null` under it. A key of another kind is
malformed, and so is any other value in the place of the choice. -/
def choice {α : Type} (choices : List (String × α)) (levels : Nat) : Reader α := do
  match ← due with
  | '"' => named choices
  | '{' => within levels '}' fun _ => do
    if (← due) ≠ '"' then throw .malformed
    let a ← named choices
    mark ':'
    if (← due) = 'n' then
      let _ ← scalar 'n'
      return a
    else refuse "unit"
  | _ => throw .malformed

/-! ### Records -/

/-- Whether a field may be left out. -/
inductive Presence where
  | required
  /-- It may be missing from an object, but not from a list. -/
  | optional
  | defaulted
  deriving DecidableEq, Repr

/-- A field of a record: `read` takes its value, in which `levels` brackets may be opened, and enters it. -/
structure Field (α : Type) where
  name : String
  presence : Presence
  read : Nat → Reader (α → α)

/-- A field that must be there. -/
def Field.required {α β : Type} (name : String) (read : Nat → Reader β) (enter : β → α → α) : Field α :=
  ⟨name, .required, fun levels => enter <$> read levels⟩

/-- A field that may be missing or `null`. -/
def Field.optional {α β : Type} (name : String) (presence : Presence) (read : Reader β)
    (enter : Option β → α → α) : Field α :=
  ⟨name, presence, fun _ => enter <$> Reader.optional read⟩

/-- A field that has a value of its own if it is missing. -/
def Field.defaulted {α β : Type} (name : String) (read : Nat → Reader β) (enter : β → α → α) : Field α :=
  ⟨name, .defaulted, fun levels => enter <$> read levels⟩

/-- The form of a record. Fields that are left out keep the value that they have in `blank`. -/
structure Form (α : Type) where
  title : String
  blank : α
  fields : List (Field α)

namespace Form

variable {α : Type}

def find? (f : Form α) (name : String) : Option (Field α) := f.fields.find? fun field => field.name = name

/-- Reads the members of an object; `seen` are the fields read so far. -/
def members (f : Form α) (levels : Nat) (first : Bool) : Nat → List String → α → Reader (List String × α)
  | 0, _, _ => throw .malformed
  | fuel + 1, seen, a => do
    if ← moreMembers first then
      let name ← key
      match f.find? name with
      | none =>
        mark ':'
        skipValue
        members f levels false fuel seen a
      | some field =>
        if field.name ∈ seen then throw (.mistyped ("duplicate field `" ++ field.name ++ "`"))
        mark ':'
        let enter ← field.read levels
        members f levels false fuel (field.name :: seen) (enter a)
    else return (seen, a)

/-- The first field that must not be missing and is. -/
def missing? (f : Form α) (seen : List String) : Option (Field α) :=
  f.fields.find? fun field => field.presence = .required ∧ field.name ∉ seen

def ofObject (f : Form α) (levels : Nat) : Reader α := do
  let (seen, a) ← f.members levels true ((← get).length + 1) [] f.blank
  match f.missing? seen with
  | some field => throw (.mistyped ("missing field `" ++ field.name ++ "`"))
  | none => return a

/-- Reads the fields of a list; `index` counts those before. -/
def items (f : Form α) (levels : Nat) : List (Field α) → (index : Nat) → α → Reader α
  | [], _, a => return a
  | field :: fields, index, a => do
    if ← moreElements (index = 0) then
      let enter ← field.read levels
      items f levels fields (index + 1) (enter a)
    else if field.presence = .defaulted then items f levels fields index a
    else
      throw (.mistyped ("invalid length " ++ toString index ++ ", expected struct " ++ f.title ++ " with "
        ++ toString f.fields.length ++ (if f.fields.length = 1 then " element" else " elements")))

def read (f : Form α) (levels : Nat) : Reader α := do
  match ← due with
  | '[' => within levels ']' fun levels => f.items levels f.fields 0 f.blank
  | '{' => within levels '}' f.ofObject
  | _ => refuse ("struct " ++ f.title)

end Form

end Coordination.Json.Reader
