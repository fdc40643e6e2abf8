import Coordination.Json.Value

/-!
# Reading JSON

A reader takes a value off the front of a text, character by character, and stops at the first fault. There are
three kinds of fault: the text breaks the grammar, it ends too early, or it holds a value of the wrong type; only
the last has a message. Since the text is read once, a wrong type wins over what would come after it.

This module holds the grammar: blanks, words, numerals, strings, and the punctuation of lists and objects. Numbers
with a fraction or an exponent, and those of more than 64 bits, are read as floating-point numbers (`Numeral.toFloat`).
-/

namespace Coordination.Json

/-- Why a text is not read. -/
inductive Fault where
  | malformed
  | cutShort
  | mistyped (message : String)
  deriving DecidableEq, Repr

abbrev Reader := StateT (List Char) (Except Fault)

namespace Reader

def isBlank (c : Char) : Bool := c == ' ' || c == '\n' || c == '\t' || c == '\r'

def peek? : Reader (Option Char) := do return (← get).head?

def drop : Reader Unit := modify List.tail

/-- The next character, which must be there. -/
def next : Reader Char := do
  match ← get with
  | [] => throw .cutShort
  | c :: cs => set cs; return c

/-- Skips blanks and looks at the next character. -/
def skipBlank : Reader (Option Char) := do
  modify (List.dropWhile isBlank)
  peek?

/-- Skips blanks before a character that must be there, and looks at it. -/
def due : Reader Char := do
  match ← skipBlank with
  | some c => return c
  | none => throw .cutShort

/-- The longest run of characters of a class. -/
def span (p : Char → Bool) : Reader (List Char) := do
  let cs ← get
  set (cs.dropWhile p)
  return cs.takeWhile p

def word : List Char → Reader Unit
  | [] => return
  | c :: cs => do
    if (← next) = c then word cs else throw .malformed

/-! ### Numerals -/

/-- A numeral in parts: the digits that fit into 64 bits, and the power of ten that they are multiplied by. -/
structure Numeral where
  significand : Nat
  exponent : Int
  deriving DecidableEq, Repr

/-- Takes up digits as long as the number has no more than 64 bits; answers how many digits were left out. -/
def absorb (start : Nat) (digits : List Char) : Nat × Nat :=
  digits.foldl (fun (n, out) c =>
    let grown := n * 10 + (c.toNat - '0'.toNat)
    if out = 0 ∧ grown < UInt64.size then (grown, 0) else (n, out + 1)) (start, 0)

/-- Scales by a power of ten, in steps if the exponent is far below zero; too large a result is refused. -/
def scale : Nat → Float → Int → Option Float
  | 0, x, _ => some x
  | fuel + 1, x, exponent =>
    if exponent.natAbs ≤ 308 then
      let power := Float.ofScientific 1 false exponent.natAbs
      if exponent < 0 then some (x / power)
      else if (x * power).isInf then none else some (x * power)
    else if x == 0.0 then some x
    else if 0 ≤ exponent then none
    else scale fuel (x / Float.ofScientific 1 false 308) (exponent + 308)

def Numeral.toFloat (n : Numeral) : Option Float := scale 4 (UInt64.ofNat n.significand).toFloat n.exponent

def float (negative : Bool) (n : Numeral) : Reader Json :=
  match n.toFloat with
  | some x => return .float (if negative then -x else x)
  | none => throw .malformed

/-- The exponent of a numeral. One of 2147483648 or more makes a number that is not zero too large; one of the same
size below zero makes it zero. -/
def exponentPart (negative : Bool) (n : Numeral) : Reader Json := do
  drop
  let down := (← peek?) == some '-'
  if down || (← peek?) == some '+' then drop
  let first ← next
  if ¬ first.isDigit then throw .malformed
  let size := (first :: (← span Char.isDigit)).foldl (fun e c => e * 10 + (c.toNat - '0'.toNat)) 0
  if size < 2147483648 then
    float negative { n with exponent := if down then n.exponent - size else n.exponent + size }
  else if n.significand ≠ 0 ∧ ¬ down then throw .malformed
  else float negative ⟨0, 0⟩

/-- The digits after the point, of which there is at least one. -/
def fractionPart (negative : Bool) (n : Numeral) : Reader Json := do
  drop
  let digits ← span Char.isDigit
  if digits.isEmpty then
    match ← peek? with
    | some _ => throw .malformed
    | none => throw .cutShort
  let (significand, out) := absorb n.significand digits
  let n := ⟨significand, n.exponent - (digits.length - out : Nat)⟩
  match ← peek? with
  | some 'e' | some 'E' => exponentPart negative n
  | _ => float negative n

/-- A numeral after its sign. Zero with a sign, and a whole number that 64 bits cannot hold, is a floating-point
number. -/
def numeral (negative : Bool) : Reader Json := do
  let first ← next
  if ¬ first.isDigit then throw .malformed
  let others ← span Char.isDigit
  if first = '0' ∧ ¬ others.isEmpty then throw .malformed
  let (significand, out) := absorb 0 (first :: others)
  match ← peek? with
  | some '.' => fractionPart negative ⟨significand, out⟩
  | some 'e' | some 'E' => exponentPart negative ⟨significand, out⟩
  | _ =>
    if out ≠ 0 then float negative ⟨significand, out⟩
    else if ¬ negative then return .int significand
    else if 0 < significand ∧ 2 * significand ≤ UInt64.size then return .int (-significand)
    else float negative ⟨significand, 0⟩

/-- A numeral with its sign. -/
def number : Reader Json := do
  if (← peek?) == some '-' then
    drop
    numeral true
  else numeral false

/-! ### Strings -/

def hexValue? (c : Char) : Option Nat :=
  if c.isDigit then some (c.toNat - '0'.toNat)
  else if 'a' ≤ c ∧ c ≤ 'f' then some (c.toNat - 'a'.toNat + 10)
  else if 'A' ≤ c ∧ c ≤ 'F' then some (c.toNat - 'A'.toNat + 10)
  else none

/-- Four hexadecimal digits; fewer than four bytes are too few to tell what they are. -/
def hexUnit : Reader Nat := do
  let cs := (← get).take 4
  if cs.foldl (fun n c => n + c.utf8Size) 0 < 4 then throw .cutShort
  let digits := cs.filterMap hexValue?
  if digits.length < 4 then throw .malformed
  modify (List.drop 4)
  return digits.foldl (fun n d => n * 16 + d) 0

def isLeading (unit : Nat) : Bool := 0xD800 ≤ unit && unit ≤ 0xDBFF

def isTrailing (unit : Nat) : Bool := 0xDC00 ≤ unit && unit ≤ 0xDFFF

/-- A character given by one hexadecimal unit, or by a leading and a trailing one. -/
def hexChar : Reader Char := do
  let unit ← hexUnit
  if isTrailing unit then throw .malformed
  else if isLeading unit then
    word ['\\', 'u']
    let second ← hexUnit
    if isTrailing second then return Char.ofNat (0x10000 + (unit - 0xD800) * 0x400 + (second - 0xDC00))
    else throw .malformed
  else return Char.ofNat unit

/-- The characters that stand after a backslash, with what they mean. -/
def escapes : List (Char × Char) :=
  [('"', '"'), ('\\', '\\'), ('/', '/'), ('b', '\x08'), ('f', '\x0c'), ('n', '\n'), ('r', '\r'), ('t', '\t')]

def escaped : Reader Char := do
  let c ← next
  if c = 'u' then hexChar
  else
    match escapes.lookup c with
    | some meaning => return meaning
    | none => throw .malformed

/-- The characters of a string up to the closing quotation mark; `escape` reads what follows a backslash. -/
def characters (escape : Reader Char) : Nat → Reader (List Char)
  | 0 => throw .cutShort
  | fuel + 1 => do
    let c ← next
    if c = '"' then return []
    else if c = '\\' then
      let c ← escape
      return c :: (← characters escape fuel)
    else if c.toNat < 32 then throw .malformed
    else return c :: (← characters escape fuel)

/-- A string after its opening quotation mark. -/
def string : Reader String := do
  return String.ofList (← characters escaped ((← get).length + 1))

/-! ### Lists and objects -/

/-- Whether another element follows in a list. -/
def moreElements (first : Bool) : Reader Bool := do
  let c ← due
  if c = ']' then return false
  else if first then return true
  else if c = ',' then
    drop
    if (← due) = ']' then throw .malformed else return true
  else throw .malformed

/-- Whether another member follows in an object; if so, its key is next. -/
def moreMembers (first : Bool) : Reader Bool := do
  let c ← due
  if c = '}' then return false
  else if first then
    if c = '"' then return true else throw .malformed
  else if c = ',' then
    drop
    if (← due) = '"' then return true else throw .malformed
  else throw .malformed

/-- A bracket or another mark, after blanks. -/
def mark (m : Char) : Reader Unit := do
  if (← due) = m then drop else throw .malformed

/-- A key, its opening quotation mark included. -/
def key : Reader String := do
  drop
  string

/-- Reads what is between two brackets, of which `levels` more may be opened. -/
def within {α : Type} (levels : Nat) (close : Char) (body : Nat → Reader α) : Reader α :=
  match levels with
  | 0 => throw .malformed
  | levels + 1 => do
    drop
    let a ← body levels
    mark close
    return a

/-- The elements of a list up to the closing bracket. -/
def elements {α : Type} (item : Reader α) (first : Bool) : Nat → Reader (List α)
  | 0 => throw .cutShort
  | fuel + 1 => do
    if ← moreElements first then
      let a ← item
      return a :: (← elements item false fuel)
    else return []

/-- The members of an object up to the closing bracket; the last one of a key counts. -/
def members (value : Reader Json) (first : Bool) : Nat → List (String × Json) → Reader (List (String × Json))
  | 0, _ => throw .cutShort
  | fuel + 1, found => do
    if ← moreMembers first then
      let k ← key
      mark ':'
      let v ← value
      members value false fuel (found.filter (fun m => m.1 ≠ k) ++ [(k, v)])
    else return found

/-- A value that is neither a list nor an object. -/
def scalar (c : Char) : Reader Json := do
  match c with
  | 'n' => drop; word "ull".toList; return .null
  | 't' => drop; word "rue".toList; return .bool true
  | 'f' => drop; word "alse".toList; return .bool false
  | '"' => return .str (← key)
  | c => if c = '-' || c.isDigit then number else throw .malformed

/-- Any value, in which `levels` brackets may be opened inside one another. -/
def value : Nat → Reader Json
  | 0 => do
    let c ← due
    if c = '[' || c = '{' then throw .malformed else scalar c
  | levels + 1 => do
    let c ← due
    let size := (← get).length + 1
    if c = '[' then within (levels + 1) ']' fun _ => return .arr (← elements (value levels) true size)
    else if c = '{' then within (levels + 1) '}' fun _ => return .obj (← members (value levels) true size [])
    else scalar c

/-- How many brackets may be opened inside one another. -/
def levels : Nat := 127

/-- Reads a whole text, after which only blanks may come. -/
def all {α : Type} (read : Reader α) (text : String) : Except Fault α :=
  let whole : Reader α := do
    let a ← read
    match ← skipBlank with
    | none => return a
    | some _ => throw .malformed
  whole.run' text.toList

end Reader

/-- Reads a value. -/
def parse (text : String) : Except Fault Json := (Reader.value Reader.levels).all text

end Coordination.Json
