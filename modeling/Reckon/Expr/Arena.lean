/-
Expressions as nodes in a store.

An `Arena` holds nodes in the order in which they were made; a node names its operands by
their `NodeId`, the place in that order.  Ids are 32-bit words.  Nodes are only ever added:

* `get?_push_nextId`: a new node is found under its id, as long as the ids have not run out;
* `get?_push_of_lt`: the nodes before it stay where they are.
-/
import Reckon.Span
import Reckon.Operator
import Reckon.Binary64.Basic

namespace Reckon

/-- The place of a node in its arena. -/
structure NodeId where
  index : UInt32
  deriving DecidableEq, Inhabited

/-- The number of different ids. -/
def idCount : Nat := 4294967296

/-- The id of the `n`th node, counted from zero and modulo the number of ids. -/
def NodeId.ofNat (n : Nat) : NodeId := ⟨UInt32.ofNat n⟩

/-- What a node is. -/
inductive NodeKind where
  | literal (value : Binary64)
  | unary (op : UnaryOp) (operand : NodeId)
  | binary (op : BinaryOp) (left right : NodeId)
  deriving DecidableEq

/-- A node and its place in the text: that of a literal, or of the operator. -/
structure Node where
  kind : NodeKind
  span : Span
  deriving DecidableEq

/-- Nodes in the order in which they were made. -/
structure Arena where
  nodes : Array Node
  deriving DecidableEq

/-- Nodes, one of which is the root of an expression. -/
structure Expression where
  arena : Arena
  root : NodeId
  deriving DecidableEq

/-- What is wrong with the nodes below a given one. -/
inductive Fault where
  /-- There is no such node among the `size` nodes. -/
  | dangling (id : NodeId) (size : Nat)
  /-- A node is its own operand, directly or through others. -/
  | cyclic
  deriving DecidableEq

def Fault.message : Fault → String
  | dangling id size =>
    "index out of bounds: the len is " ++ size.repr ++ " but the index is " ++
      id.index.toNat.repr
  | cyclic => "a node is its own operand"

/-- An id as a debugger shows it. -/
def NodeId.text (id : NodeId) : String := "ExprId(" ++ id.index.toNat.repr ++ ")"

namespace Arena

def empty : Arena := ⟨#[]⟩

/-- The number of nodes. -/
def size (a : Arena) : Nat := a.nodes.size

/-- The id that the next node gets. -/
def nextId (a : Arena) : NodeId := NodeId.ofNat a.size

/-- The arena with one more node. -/
def push (a : Arena) (node : Node) : Arena := ⟨a.nodes.push node⟩

/-- Adds a node, and gives its id. -/
def alloc (a : Arena) (node : Node) : NodeId × Arena := (a.nextId, a.push node)

/-- The node with an id, if there is one. -/
def get? (a : Arena) (id : NodeId) : Option Node := a.nodes[id.index.toNat]?

/-- The node with an id. -/
def get (a : Arena) (id : NodeId) : Except Fault Node :=
  match a.get? id with
  | some node => .ok node
  | none => .error (.dangling id a.size)

@[simp] theorem size_empty : empty.size = 0 := rfl

@[simp] theorem size_push (a : Arena) (node : Node) : (a.push node).size = a.size + 1 := by
  simp [size, push]

theorem toNat_nextId {a : Arena} (h : a.size < idCount) : a.nextId.index.toNat = a.size := by
  rw [nextId, NodeId.ofNat, UInt32.toNat_ofNat']
  exact Nat.mod_eq_of_lt h

theorem get?_push_nextId {a : Arena} (node : Node) (h : a.size < idCount) :
    (a.push node).get? a.nextId = some node := by
  rw [get?, toNat_nextId h]
  simp [push, size]

theorem get?_push_of_lt {a : Arena} {node : Node} {id : NodeId} (h : id.index.toNat < a.size) :
    (a.push node).get? id = a.get? id := by
  simp only [get?, push]
  exact Array.getElem?_push_lt h ▸ (Array.getElem?_eq_getElem h).symm

end Arena

/-- The node of an expression that has no node above it. -/
def Expression.rootNode (e : Expression) : Except Fault Node := e.arena.get e.root

end Reckon
