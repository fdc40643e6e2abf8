import Coordination.Workflow.Life
import Coordination.Workflow.Notice
import Coordination.Workflow.Shelf

/-!
# The process office

An office runs the processes of one workflow. Every successful change of a record is announced once; a refused one
is not. Records are kept in a guarded store, any call of which may fail.

`Office.expire` ends a process whose deadline came, and `Office.handle` treats one event: it looks the process up by
its correlation key or begins it, changes it, and saves it.
-/

namespace Coordination.Workflow

structure Office (S : Type) where
  design : Design S
  audience : Audience Listener
  store : Guarded (Shelf S)
  /-- How many identifiers were handed out. -/
  issued : Nat
  chronicle : Chronicle (Notice S) .process EventKind

/-- An event for a process. -/
structure Event (S : Type) where
  /-- The key that names the process. -/
  key : String
  /-- The identifier of the process if it has to be begun; one is handed out if none is given. -/
  id : Option ProcessId
  /-- Whether an event for an unknown key begins a process. -/
  begins : Bool
  /-- A failure raised before anything else is done. -/
  raises : Option String
  target : Option S
  ending : Option Ending

namespace Office

variable {S : Type}

def opened (design : Design S) (audience : Audience Listener) : Office S where
  design := design
  audience := audience
  store := .healthy .empty
  issued := 0
  chronicle := .empty

/-- The given identifier, or the next one that is handed out. -/
def identify (id : Option ProcessId) (o : Office S) : ProcessId × Office S :=
  match id with
  | some id => (id, o)
  | none => (.nth (o.issued + 1), { o with issued := o.issued + 1 })

def write (l : LogLine) (o : Office S) : Office S := { o with chronicle := o.chronicle.write l }

/-! ### The store -/

def load (id : ProcessId) (o : Office S) : Except (Fault S) (Option (Record S)) × Office S :=
  let (answer, store) := o.store.ask .findById (Shelf.findById id)
  (answer.mapError .storage, { o with store := store })

def findByCorrelation (key : String) (o : Office S) : Except (Fault S) (Option (Record S)) × Office S :=
  let (answer, store) := o.store.ask .findByCorrelation (Shelf.findByCorrelation key)
  (answer.mapError .storage, { o with store := store })

def findByStatus (status : Status) (o : Office S) : Except (Fault S) (List (Record S)) × Office S :=
  let (answer, store) := o.store.ask .findByStatus (Shelf.findByStatus status)
  (answer.mapError .storage, { o with store := store })

def findExpired (now : Millis) (o : Office S) : Except (Fault S) (List (Record S)) × Office S :=
  let (answer, store) := o.store.ask .findByStatus (Shelf.findExpired now)
  (answer.mapError .storage, { o with store := store })

def save (r : Record S) (o : Office S) : Except (Fault S) Unit × Office S :=
  let (answer, store) := o.store.change .save (Shelf.save r)
  (answer.mapError .storage, { o with store := store })

/-- A save that breaks off as soon as it holds the lock on the records. -/
def breakOff (o : Office S) : Except (Fault S) Unit × Office S :=
  let (answer, store) := o.store.change .save Shelf.breakOff
  (answer.mapError .storage, { o with store := store })

def delete (id : ProcessId) (o : Office S) : Except (Fault S) Unit × Office S :=
  let (answer, store) := o.store.change .delete (Shelf.delete id)
  (answer.mapError .storage, { o with store := store })

/-! ### Changes and their notices -/

variable [ToString S]

def announce (now : Millis) (n : Notice S) (o : Office S) : Office S :=
  { o with chronicle := o.chronicle.announce o.audience now n }

def start (now : Millis) (id : Option ProcessId) (key : Option String) (o : Office S) : Record S × Office S :=
  let (id, o) := o.identify id
  let r := o.design.fresh id key now
  (r, o.announce now (.started id r.name))

def move [DecidableEq S] (now : Millis) (target : S) (r : Record S) (o : Office S) :
    Except (Fault S) (Record S) × Office S :=
  match r.move o.design.chart now target with
  | .error fault => (.error fault, o)
  | .ok next => (.ok next, o.announce now (.moved r.id r.state target))

/-- The notice of an ending. -/
def endNotice (id : ProcessId) : Ending → Notice S
  | .completed => .completed id
  | .failed reason => .failed id (some reason)
  | .timedOut => .timedOut id

def finish (now : Millis) (ending : Ending) (r : Record S) (o : Office S) :
    Except (Fault S) (Record S) × Office S :=
  match r.finish ending now with
  | .error fault => (.error fault, o)
  | .ok next => (.ok next, o.announce now (endNotice next.id ending))

/-- Ends the stored process `id` as timed out, and stores it so, if it still runs. The notice goes out before the
record is saved. -/
def expire (now : Millis) (id : ProcessId) (o : Office S) : Except (Fault S) (Option (Record S)) × Office S :=
  match o.load id with
  | (.error fault, o) => (.error fault, o)
  | (.ok none, o) => (.ok none, o)
  | (.ok (some r), o) =>
    if r.isRunning then
      match o.finish now .timedOut r with
      | (.error fault, o) => (.error fault, o)
      | (.ok next, o) =>
        match o.save next with
        | (.error fault, o) => (.error fault, o)
        | (.ok (), o) => (.ok (some next), o)
    else (.ok none, o)

/-! ### Events -/

/-- The process that an event is for. -/
def resolve (now : Millis) (e : Event S) (o : Office S) : Except (Fault S) (Record S) × Office S :=
  match o.findByCorrelation e.key with
  | (.error fault, o) => (.error fault, o)
  | (.ok (some r), o) => (.ok r, o)
  | (.ok none, o) =>
    if e.begins then
      let (r, o) := o.start now e.id (some e.key)
      (.ok r, o)
    else (.error (.notFound ⟨e.key⟩), o)

/-- The transition that an event asks for, if any. -/
def moveTo [DecidableEq S] (now : Millis) (target : Option S) (r : Record S) (o : Office S) :
    Except (Fault S) (Record S) × Office S :=
  match target with
  | some target => o.move now target r
  | none => (.ok r, o)

/-- The ending that an event brings, if any. -/
def finishWith (now : Millis) (ending : Option Ending) (r : Record S) (o : Office S) :
    Except (Fault S) (Record S) × Office S :=
  match ending with
  | some ending => o.finish now ending r
  | none => (.ok r, o)

/-- Finds or begins the process, moves it, ends it, and saves it; the first fault ends the treatment. -/
def handle [DecidableEq S] (now : Millis) (e : Event S) (o : Office S) :
    Except (Fault S) (Record S) × Office S :=
  match e.raises with
  | some reason => (.error (.handler reason), o)
  | none =>
    match o.resolve now e with
    | (.error fault, o) => (.error fault, o)
    | (.ok r, o) =>
      match o.moveTo now e.target r with
      | (.error fault, o) => (.error fault, o)
      | (.ok r, o) =>
        match o.finishWith now e.ending r with
        | (.error fault, o) => (.error fault, o)
        | (.ok r, o) =>
          match o.save r with
          | (.error fault, o) => (.error fault, o)
          | (.ok (), o) => (.ok r, o)

end Office

end Coordination.Workflow
