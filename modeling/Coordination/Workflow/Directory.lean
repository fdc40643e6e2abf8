import Coordination.Ident
import Coordination.Table

/-!
# The directory of processes

Events name a process by a correlation key of the business. The directory says which process answers to a key:
one process per key, the last one entered.
-/

namespace Coordination.Workflow

abbrev Directory := Table String ProcessId

namespace Directory

def lookup (key : String) (d : Directory) : Option ProcessId := d.find? key

def enter (key : String) (id : ProcessId) (d : Directory) : Directory := d.insert key id

def strike (key : String) (d : Directory) : Directory := d.erase key

/-- Strikes `key` if it still leads to `id`. -/
def strikeIf (key : String) (id : ProcessId) (d : Directory) : Directory :=
  if d.lookup key = some id then d.strike key else d

end Directory

end Coordination.Workflow
