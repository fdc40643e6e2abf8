import Coordination.Json.Value
import Coordination.Time

/-!
# Members of requests

Requests are objects. A member that is missing, or that holds a value of another type, counts as absent.
-/

namespace Coordination.Json

/-- The member under `key`, or `null`. -/
def valueAt (key : String) (j : Json) : Json := (j.member? key).getD .null

def textAt? (key : String) (j : Json) : Option String := (j.valueAt key).str?

def textAt (key : String) (j : Json) : String := (j.textAt? key).getD ""

def wordAt? (key : String) (j : Json) : Option UInt64 := (j.valueAt key).word?

def wordAt (key : String) (j : Json) : UInt64 := (j.wordAt? key).getD 0

/-- The member under `key`, if it is an object. -/
def objectAt? (key : String) (j : Json) : Option Json :=
  match j.valueAt key with
  | .obj members => some (.obj members)
  | _ => none

def flagAt (key : String) (absent : Bool) (j : Json) : Bool := (j.valueAt key).bool?.getD absent

def itemsAt (key : String) (j : Json) : List Json := (j.valueAt key).arr?.getD []

def textsAt (key : String) (j : Json) : List String := (j.itemsAt key).filterMap str?

/-- An error: a text, or a whole number in decimal. -/
def errorAt? (key : String) (j : Json) : Option String :=
  match j.valueAt key with
  | .str s => some s
  | .int n => some (toString n)
  | _ => none

def errorAt (key : String) (j : Json) : String := (j.errorAt? key).getD ""

/-- A span of time: a number of milliseconds, or seconds and nanoseconds. -/
def spanAt? (key : String) (j : Json) : Option Span :=
  match j.valueAt key with
  | .obj parts => some (.ofParts (wordAt "secs" (.obj parts)).toNat (wordAt "nanos" (.obj parts)).toNat)
  | v => v.word?.map fun n => .ofMillis n.toNat

def clockMove (j : Json) : ClockMove := ⟨j.wordAt? "set", j.wordAt? "advance"⟩

/-- What passes while something is done. -/
def passing (j : Json) : Passing := ⟨(j.spanAt? "takes").getD .zero, (j.valueAt "clock").clockMove⟩

/-- The value that a member names. -/
def choiceAt {α : Type} (key : String) (choices : List (String × α)) (absent : α) (j : Json) : α :=
  (choices.lookup (j.textAt key)).getD absent

end Coordination.Json
