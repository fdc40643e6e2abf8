import Coordination.Table

/-!
# Transition charts

A chart lists the transitions that a workflow declares. It keeps the rules as they were declared and, for lookup,
the distinct targets of every source state in the order of their first declaration.
-/

namespace Coordination

structure Rule (S : Type) where
  source : S
  target : S
  deriving DecidableEq, Repr

structure Chart (S : Type) where
  rules : List (Rule S)
  edges : Table S (List S)

namespace Chart

variable {S : Type} [DecidableEq S]

/-- A target is listed once per source. -/
def addEdge (edges : Table S (List S)) (r : Rule S) : Table S (List S) :=
  let known := (edges.find? r.source).getD []
  edges.insert r.source (if r.target ∈ known then known else known ++ [r.target])

def ofRules (rules : List (Rule S)) : Chart S := ⟨rules, rules.foldl addEdge []⟩

/-- The distinct states one step away; none for a state that no rule leaves. -/
def targets (c : Chart S) (source : S) : List S := (c.edges.find? source).getD []

def allows (c : Chart S) (source target : S) : Bool :=
  match c.edges.find? source with
  | some known => decide (target ∈ known)
  | none => false

/-- A transition that no rule declares. -/
structure Refusal (S : Type) where
  source : S
  target : S
  deriving DecidableEq, Repr

def Refusal.message [ToString S] (r : Refusal S) : String :=
  "invalid transition from " ++ toString r.source ++ " to " ++ toString r.target

def check (c : Chart S) (source target : S) : Except (Refusal S) Unit :=
  if c.allows source target then .ok () else .error ⟨source, target⟩

end Chart

end Coordination
