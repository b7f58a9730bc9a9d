import CogniDQ.Python.Value

/-!
# Flow definitions

The flow schemas: nodes, the connections between them, and the statuses that
executions and nodes go through. Only the fields that validation, scheduling and
execution read are kept.
-/

set_option autoImplicit false

namespace CogniDQ.Flow

open CogniDQ.Python

inductive NodeType where
  | source
  | check
  | join
  | filter
  | aggregate
  | transform
deriving DecidableEq, Repr

def NodeType.value : NodeType → String
  | .source => "source"
  | .check => "check"
  | .join => "join"
  | .filter => "filter"
  | .aggregate => "aggregate"
  | .transform => "transform"

inductive ExecutionStatus where
  | pending
  | running
  | completed
  | failed
  | cancelled
deriving DecidableEq, Repr

inductive NodeStatus where
  | pending
  | running
  | completed
  | warning
  | failed
  | skipped
deriving DecidableEq, Repr

structure FlowNode where
  id : String
  type : NodeType
  config : Dict
  checkType : Option String

/-- A connection as the schema compares it, ports and label included. -/
structure FlowConnection where
  id : String
  source : String
  target : String
  sourcePort : Option String
  targetPort : Option String
  label : Option String
deriving DecidableEq, Repr

structure FlowDefinition where
  nodes : List FlowNode
  connections : List FlowConnection

structure ValidationError where
  type : String
  message : String
  nodeId : Option String
  connectionId : Option String
deriving DecidableEq, Repr

structure FlowValidationResponse where
  isValid : Bool
  errors : List ValidationError
  warnings : List ValidationError
  nodeCount : Nat
  connectionCount : Nat
  hasSource : Bool
  hasChecks : Bool
  hasCircularDependencies : Bool

namespace FlowDefinition

/-- The node ids in the order of the definition, repetitions included. -/
def nodeIds (flow : FlowDefinition) : List String := flow.nodes.map (·.id)

end FlowDefinition

def edgesOf (connections : List FlowConnection) : List (String × String) :=
  connections.map fun connection => (connection.source, connection.target)

end CogniDQ.Flow
