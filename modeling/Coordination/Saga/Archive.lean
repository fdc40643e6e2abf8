import Coordination.Saga.Record
import Coordination.Table

/-!
# The archive of sagas

The saga store that lives in memory: the records by identifier. A lookup by correlation key goes through all
records.
-/

namespace Coordination.Saga

abbrev Archive := Table SagaId Record

namespace Archive

def empty : Archive := []

def save (r : Record) (a : Archive) : Archive := a.insert r.id r

def findById (id : SagaId) (a : Archive) : Option Record := a.find? id

def findByCorrelation (key : String) (a : Archive) : Option Record :=
  a.values.find? fun r => r.correlation = some key

def findByStatus (status : Status) (a : Archive) : List Record := a.values.filter fun r => r.status = status

def delete (id : SagaId) (a : Archive) : Archive := a.erase id

end Archive

end Coordination.Saga
