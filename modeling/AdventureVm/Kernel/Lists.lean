import AdventureVm.Kernel.Arguments
import AdventureVm.Memory.Records

/-! Kernel functions on lists of nodes that are linked in both directions. -/

namespace AdventureVm

namespace Heap

/--
The nodes from one on, up to so many of them, after those already found.

The record tells of a list that goes on beyond that number.
-/
def nodesFrom (heap : Heap) (list : Address) :
    Nat → Address → Array Address → Except Fault (Array Address × List Record)
  | limit, current, found =>
    -- A list that ends right at the bound is complete.
    if current.isNull then .ok (found, [])
    else
      match limit with
      | 0 => .ok (found, [.plain .warn s!"list {list} does not terminate"])
      | limit + 1 => do
        let node ← heap.node current
        nodesFrom heap list limit node.succ (found.push current)

/-- The nodes of a list in order; no pool holds more nodes than are looked at. -/
def listNodes (heap : Heap) (list : Address) : Except Fault (Array Address × List Record) := do
  let ends ← heap.list list
  heap.nodesFrom list Pool.maxSlots ends.first #[]

/-- The node has a key. -/
def hasKey (heap : Heap) (key address : Address) : Bool :=
  (heap.node address).toOption.any (·.key == key)

end Heap

namespace Store

/-- Changes a node, which has to be there. -/
def updateNode (address : Address) (change : Node → Node) : StoreM Unit := do
  let _ ← StoreM.require (·.node address)
  StoreM.change (·.modifyNode address change)

/-- Changes a list, which has to be there. -/
def updateList (address : Address) (change : ListEnds → ListEnds) : StoreM Unit := do
  let _ ← StoreM.require (·.list address)
  StoreM.change (·.modifyList address change)

/-- Makes a node the first one of a list. -/
def linkFront (list node : Address) : StoreM Unit := do
  -- The node is changed before its neighbours, and the list last.
  let first := (← StoreM.require (·.list list)).first
  updateNode node fun entry => { entry with pred := .null, succ := first }
  if first.isNull then
    updateList list fun ends => { ends with last := node }
  else
    updateNode first fun entry => { entry with pred := node }
  updateList list fun ends => { ends with first := node }

/-- Puts a node right after another one of a list. -/
def linkAfter (list reference node : Address) : StoreM Unit := do
  -- The reference node is trusted to be in the list.
  let succ := (← StoreM.require (·.node reference)).succ
  updateNode node fun entry => { entry with pred := reference, succ }
  updateNode reference fun entry => { entry with succ := node }
  if succ.isNull then
    updateList list fun ends => { ends with last := node }
  else
    updateNode succ fun entry => { entry with pred := node }

/-- Takes a node out of a list. -/
def unlink (list address : Address) : StoreM Unit := do
  let node ← StoreM.require (·.node address)
  -- A node without predecessor is the first one, so the list has to change.
  if node.pred.isNull then
    updateList list fun ends => { ends with first := node.succ }
  else
    updateNode node.pred fun entry => { entry with succ := node.succ }
  if node.succ.isNull then
    updateList list fun ends => { ends with last := node.pred }
  else
    updateNode node.succ fun entry => { entry with pred := node.pred }

/-- The first node of a list that has a key. -/
def findNode? (list key : Address) : StoreM (Option Address) := do
  let nodes ← StoreM.noted (·.listNodes list)
  StoreM.read fun heap => nodes.find? (heap.hasKey key)

end Store

namespace KernelCall

/-- Makes an empty list. -/
def newList (_call : KernelCall) : StoreM Address :=
  Store.createList

/-- Frees a list and its nodes. -/
def disposeList (call : KernelCall) : StoreM Address := do
  let list ← call.argument 0
  if !list.isNull then
    -- The nodes are found before the first of them is freed.
    let nodes ← StoreM.noted (·.listNodes list)
    nodes.forM (Store.freeRecord .nodes)
    Store.freeRecord .lists list
  return call.acc

/-- Makes a node with a value and a key, which is the value unless the call says otherwise. -/
def newNode (call : KernelCall) : StoreM Address := do
  let value ← call.argument 0
  Store.createNode value (call.arguments[1]?.getD value)

/-- Reads from the list in the first argument; there is a fixed answer for null. -/
def ofList (call : KernelCall) (absent : Address) (query : ListEnds → Address) :
    StoreM Address := do
  let list ← call.argument 0
  if list.isNull then
    return absent
  return query (← StoreM.require (·.list list))

/-- Reads from the node in the first argument; the answer for null is null. -/
def ofNode (call : KernelCall) (query : Node → Address) : StoreM Address := do
  let node ← call.argument 0
  if node.isNull then
    return .null
  return query (← StoreM.require (·.node node))

/-- The first node of a list. -/
def firstNode (call : KernelCall) : StoreM Address :=
  call.ofList .null (·.first)

/-- The last node of a list. -/
def lastNode (call : KernelCall) : StoreM Address :=
  call.ofList .null (·.last)

/-- Answers whether a list has no nodes. -/
def emptyList (call : KernelCall) : StoreM Address :=
  call.ofList (.ofBool true) fun ends => .ofBool ends.first.isNull

/-- The node after a node. -/
def nextNode (call : KernelCall) : StoreM Address :=
  call.ofNode (·.succ)

/-- The node before a node. -/
def prevNode (call : KernelCall) : StoreM Address :=
  call.ofNode (·.pred)

/-- The value of a node. -/
def nodeValue (call : KernelCall) : StoreM Address :=
  call.ofNode (·.value)

/-- Gives a node the key that an argument holds, if the call has that argument. -/
def setKey (call : KernelCall) (node : Address) (index : Nat) : StoreM Unit :=
  match call.arguments[index]? with
  | some key => Store.updateNode node fun entry => { entry with key }
  | none => return ()

/-- Puts a node after another one, or to the front when the other one is null. -/
def addAfter (call : KernelCall) : StoreM Address := do
  let list ← call.argument 0
  let reference ← call.argument 1
  let node ← call.argument 2
  call.setKey node 3
  if reference.isNull then
    Store.linkFront list node
  else
    Store.linkAfter list reference node
  return node

/-- Puts a node to the front of a list. -/
def addToFront (call : KernelCall) : StoreM Address := do
  let list ← call.argument 0
  let node ← call.argument 1
  call.setKey node 2
  Store.linkFront list node
  return node

/-- Puts a node to the end of a list. -/
def addToEnd (call : KernelCall) : StoreM Address := do
  let list ← call.argument 0
  let node ← call.argument 1
  call.setKey node 2
  let last := (← StoreM.require (·.list list)).last
  -- In an empty list the end is the front.
  if last.isNull then
    Store.linkFront list node
  else
    Store.linkAfter list last node
  return node

/-- The first node with a key, or null. -/
def findKey (call : KernelCall) : StoreM Address := do
  let list ← call.argument 0
  let key ← call.argument 1
  if list.isNull then
    return .null
  return (← Store.findNode? list key).getD .null

/-- Takes the first node with a key out of a list, frees it, and answers whether there was one. -/
def deleteKey (call : KernelCall) : StoreM Address := do
  let list ← call.argument 0
  let key ← call.argument 1
  if list.isNull then
    return .ofBool false
  match ← Store.findNode? list key with
  | none => return .ofBool false
  | some node =>
    -- The links are mended while the node can still be read.
    Store.unlink list node
    Store.freeRecord .nodes node
    return .ofBool true

end KernelCall

end AdventureVm
