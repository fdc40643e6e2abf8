import Coordination.Chart
import Coordination.Ident
import Coordination.Json.Typed
import Coordination.Storage
import Coordination.Tally
import Coordination.Time

/-!
# JSON forms of common types

How identifiers, time stamps, transition rules and event records are written, and how they are read back. In JSON,
names of several words have underscores between them.
-/

namespace Coordination.Json

open Reader

/-- A string whose value is entered as an identifier. -/
def Reader.ident {s : Subject} : Reader (Ident s) := do return ⟨← text "a string"⟩

def ofIdent {s : Subject} (id : Ident s) : Json := .str id.text

def ofText? (s : Option String) : Json := ofOption .str s

def ofWord? (n : Option UInt64) : Json := ofOption ofWord n

/-- The name of a value in a list of choices. -/
def nameIn {α : Type} [DecidableEq α] (choices : List (String × α)) (a : α) : String :=
  ((choices.find? fun c => c.2 = a).map Prod.fst).getD ""

/-- A storage fault. -/
def ofStorageFault (f : StorageFault) : Json := .obj [("error", .str "Store"), ("message", .str f.message)]

/-! ### Transition rules -/

def ruleForm : Form (Rule String) where
  title := "TransitionRule"
  blank := ⟨"", ""⟩
  fields :=
    [.required "from" (fun _ => text "a string") fun source r => { r with source },
     .required "to" (fun _ => text "a string") fun target r => { r with target }]

def ofRule (r : Rule String) : Json := .obj [("from", .str r.source), ("to", .str r.target)]

/-! ### Event records -/

section

variable {s : Subject} {κ : Type}

def eventForm (title subject : String) (kinds : List (String × κ)) (kind : κ) : Form (EventRecord s κ) where
  title := title
  blank := ⟨⟨""⟩, kind, 0, none⟩
  fields :=
    [.required subject (fun _ => ident) fun subject e => { e with subject },
     .required "kind" (choice kinds) fun kind e => { e with kind },
     .required "timestamp_millis" (fun _ => word64) fun time e => { e with time },
     .optional "error" .defaulted (text "a string") fun error e => { e with error }]

/-- An event without an error is written without that member. -/
def ofEvent [DecidableEq κ] (subject : String) (kinds : List (String × κ)) (e : EventRecord s κ) : Json :=
  let error :=
    match e.error with
    | some error => [("error", .str error)]
    | none => []
  .obj ([(subject, ofIdent e.subject), ("kind", .str (nameIn kinds e.kind)), ("timestamp_millis", ofWord e.time)]
    ++ error)

/-- The counters of a tally. -/
def ofCounts (kinds : List (String × κ)) (t : Tally s κ) : Json :=
  .obj (kinds.map fun (name, kind) => (name, ofNat (t.count kind)))

end

end Coordination.Json
