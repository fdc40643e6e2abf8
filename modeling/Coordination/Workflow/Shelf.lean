import Coordination.Workflow.Directory
import Coordination.Workflow.Record
import Coordination.Storage

/-!
# A shelf of process records

The process store that lives in memory: the records by identifier, and a directory by correlation key that follows
every save and delete. A save that breaks off while it holds the lock on the records poisons it: from then on every
call that needs the records fails. The directory has a lock of its own and stays usable.
-/

namespace Coordination.Workflow

structure Shelf (S : Type) where
  records : Table ProcessId (Record S)
  directory : Directory
  poisoned : Bool

namespace Shelf

variable {S : Type}

def empty : Shelf S := ⟨[], [], false⟩

/-- What a call finds that reaches for the records. -/
def open? (sh : Shelf S) : Except StorageFault (Table ProcessId (Record S)) :=
  if sh.poisoned then .error .poisoned else .ok sh.records

/-- The directory after `r` took the place of `previous`. -/
def refile (previous : Option (Record S)) (r : Record S) (d : Directory) : Directory :=
  let d :=
    match previous.bind Record.correlation with
    | some key => if r.correlation = some key then d else d.strikeIf key r.id
    | none => d
  match r.correlation with
  | some key => d.enter key r.id
  | none => d

def save (r : Record S) (sh : Shelf S) : Except StorageFault (Shelf S) :=
  match sh.open? with
  | .error fault => .error fault
  | .ok records =>
    .ok { sh with records := records.insert r.id r, directory := refile (records.find? r.id) r sh.directory }

/-- A save that breaks off as soon as it holds the lock. -/
def breakOff (sh : Shelf S) : Except StorageFault (Shelf S) :=
  match sh.open? with
  | .error fault => .error fault
  | .ok _ => .ok { sh with poisoned := true }

def findById (id : ProcessId) (sh : Shelf S) : Except StorageFault (Option (Record S)) :=
  match sh.open? with
  | .error fault => .error fault
  | .ok records => .ok (records.find? id)

/-- The directory is asked first; a key that it does not know needs no look at the records. -/
def findByCorrelation (key : String) (sh : Shelf S) : Except StorageFault (Option (Record S)) :=
  match sh.directory.lookup key with
  | some id => sh.findById id
  | none => .ok none

def findByStatus (status : Status) (sh : Shelf S) : Except StorageFault (List (Record S)) :=
  match sh.open? with
  | .error fault => .error fault
  | .ok records => .ok (records.values.filter fun r => decide (r.status = status))

/-- Running processes whose deadline has come. -/
def findExpired (now : Millis) (sh : Shelf S) : Except StorageFault (List (Record S)) :=
  match sh.findByStatus .running with
  | .error fault => .error fault
  | .ok running => .ok (running.filter (Record.isExpired now))

def delete (id : ProcessId) (sh : Shelf S) : Except StorageFault (Shelf S) :=
  match sh.open? with
  | .error fault => .error fault
  | .ok records =>
    let directory :=
      match (records.find? id).bind Record.correlation with
      | some key => sh.directory.strikeIf key id
      | none => sh.directory
    .ok { sh with records := records.erase id, directory := directory }

/-- The number of records; none can be counted once the lock is poisoned. -/
def size (sh : Shelf S) : Nat :=
  match sh.open? with
  | .error _ => 0
  | .ok records => records.length

def isEmpty (sh : Shelf S) : Bool := sh.size == 0

end Shelf

end Coordination.Workflow
