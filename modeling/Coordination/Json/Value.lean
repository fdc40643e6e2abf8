/-!
# JSON values

Whole numbers are kept apart from floating-point ones. The members of an object are in the order of their last
writing, at most one per key.
-/

namespace Coordination

inductive Json where
  | null
  | bool (b : Bool)
  | int (n : Int)
  | float (x : Float)
  | str (s : String)
  | arr (items : List Json)
  | obj (members : List (String × Json))
  deriving Inhabited

namespace Json

/-- The member of an object under `key`. -/
def member? (key : String) : Json → Option Json
  | .obj members => (members.find? fun m => m.1 = key).map Prod.snd
  | _ => none

def str? : Json → Option String
  | .str s => some s
  | _ => none

def bool? : Json → Option Bool
  | .bool b => some b
  | _ => none

/-- A whole number of at most 64 bits without a sign. -/
def word? : Json → Option UInt64
  | .int n => if 0 ≤ n ∧ n < UInt64.size then some (UInt64.ofNat n.toNat) else none
  | _ => none

def arr? : Json → Option (List Json)
  | .arr items => some items
  | _ => none

def ofWord (n : UInt64) : Json := .int n.toNat

def ofNat (n : Nat) : Json := .int n

def ofOption {α : Type} (write : α → Json) : Option α → Json
  | some a => write a
  | none => .null

def ofList {α : Type} (write : α → Json) (as : List α) : Json := .arr (as.map write)

end Json

end Coordination
