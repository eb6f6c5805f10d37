import AdventureVm.Kernel.Table
import AdventureVm.Proofs.Memory.Operations

/-! No kernel function that the machine brings along frees a script: each develops memory. -/

namespace AdventureVm

open StoreM

namespace Store

/-- Making a list leads from step to step. -/
theorem createList_advances : createList.Advances :=
  create_advances RecordKind.lists_lawful _

/-- Making a node leads from step to step. -/
theorem createNode_advances (value key : Address) : (createNode value key).Advances :=
  create_advances RecordKind.nodes_lawful _

/-- Asking an object what a selector means to it changes nothing. -/
theorem resolve_advances (receiver : Address) (selector : UInt16) :
    (resolve receiver selector).Advances :=
  advances_noted _

/-- Asking whether an object understands a selector changes nothing. -/
theorem respondsTo_advances (receiver : Address) (selector : UInt16) :
    (respondsTo receiver selector).Advances := by
  -- A failure to answer counts as a no.
  refine (resolve_advances receiver selector).outcome.bind fun found => ?_
  cases found with
  | ok found => exact advances_pure _
  | error fault => exact advances_pure _

/-- Changing a node is a step. -/
theorem updateNode_advances (address : Address) (change : Node → Node) :
    (updateNode address change).Advances :=
  -- The node is asked for; the change is one of a record in its pool.
  (advances_require _).bind fun _ =>
    advances_change fun _ => Heap.Develops.refl.modifyRecord RecordKind.nodes_lawful address change
      fun segment => segment.bringsNoNodes_modify _ change

/-- Changing the ends of a list is a step. -/
theorem updateList_advances (address : Address) (change : ListEnds → ListEnds) :
    (updateList address change).Advances :=
  -- The list is asked for; the change is one of a record in its pool.
  (advances_require _).bind fun _ =>
    advances_change fun _ => Heap.Develops.refl.modifyRecord RecordKind.lists_lawful address change
      (Segment.bringsNoNodes_of_spares fun _ => rfl)

/-- Putting a node to the front of a list leads from step to step. -/
theorem linkFront_advances (list node : Address) : (linkFront list node).Advances := by
  -- In an empty list the node also becomes the last one, in any other it gets a neighbour.
  refine (advances_require _).bind fun ends => (updateNode_advances _ _).bind fun _ => ?_
  split
  · exact (updateList_advances _ _).bind fun _ => updateList_advances _ _
  · exact (updateNode_advances _ _).bind fun _ => updateList_advances _ _

/-- Putting a node after another one leads from step to step. -/
theorem linkAfter_advances (list reference node : Address) :
    (linkAfter list reference node).Advances := by
  -- Where the other node was the last one, the list is told instead of a neighbour.
  refine (advances_require _).bind fun entry => (updateNode_advances _ _).bind fun _ =>
    (updateNode_advances _ _).bind fun _ => ?_
  split
  · exact updateList_advances _ _
  · exact updateNode_advances _ _

/-- Taking a node out of a list leads from step to step. -/
theorem unlink_advances (list address : Address) : (unlink list address).Advances := by
  refine (advances_require _).bind fun node => ?_
  -- The node before and the node after are each a neighbour or the list itself.
  have after : Advances (if node.succ.isNull then
      updateList list fun ends => { ends with last := node.pred }
    else updateNode node.succ fun entry => { entry with pred := node.pred }) := by
    split
    · exact updateList_advances _ _
    · exact updateNode_advances _ _
  dsimp only
  split
  · exact (updateList_advances _ _).bind fun _ => after
  · exact (updateNode_advances _ _).bind fun _ => after

/-- Looking for a node changes nothing. -/
theorem findNode?_advances (list key : Address) : (findNode? list key).Advances :=
  (advances_noted _).bind fun _ => advances_read _

end Store

namespace KernelCall

variable (call : KernelCall)

/-- Rejecting a call changes nothing. -/
theorem rejects_advances {α : Type} (message : String) :
    (call.rejects message : StoreM α).Advances :=
  advances_throw _

/-- Looking at an argument changes nothing. -/
theorem argument_advances (index : Nat) : (call.argument index).Advances := by
  -- A missing argument is refused, which changes nothing either.
  unfold argument
  split
  · exact advances_pure _
  · exact call.rejects_advances _

/-- Looking at a number changes nothing. -/
theorem number_advances (index : Nat) : (call.number index).Advances := by
  -- An address in place of a number is refused.
  refine (call.argument_advances index).bind fun value => ?_
  split
  · exact advances_pure _
  · exact call.rejects_advances _

/-- Looking at a number that may be missing changes nothing. -/
theorem number?_advances (index : Nat) : (call.number? index).Advances := by
  -- Without the argument the answer is a default.
  unfold number?
  split
  · exact (call.number_advances index).bind fun _ => advances_pure _
  · exact advances_pure _

/-- Giving a node a key leads from step to step. -/
theorem setKey_advances (node : Address) (index : Nat) : (call.setKey node index).Advances := by
  -- A call without a key leaves the node alone.
  unfold setKey
  split
  · exact Store.updateNode_advances _ _
  · exact advances_pure _

/-- Reading from a list changes nothing. -/
theorem ofList_advances (absent : Address) (query : ListEnds → Address) :
    (call.ofList absent query).Advances := by
  -- Null stands for an empty list; any other address is looked up.
  refine (call.argument_advances 0).bind fun list => ?_
  split
  · exact advances_pure _
  · exact (advances_require _).bind fun _ => advances_pure _

/-- Reading from a node changes nothing. -/
theorem ofNode_advances (query : Node → Address) : (call.ofNode query).Advances := by
  -- Null stands for no node; any other address is looked up.
  refine (call.argument_advances 0).bind fun node => ?_
  split
  · exact advances_pure _
  · exact (advances_require _).bind fun _ => advances_pure _

/-- Copying bytes is a step. -/
theorem copyBytes_advances (target source : Address) (count : Nat) :
    (copyBytes target source count).Advances :=
  (advances_require _).bind fun _ =>
    advances_attempt fun _ _ done => Heap.Develops.refl.writeBytes done

/-- Cloning leads from step to step. -/
theorem clone_advances : call.clone.Advances :=
  -- Only making the clone changes memory; what follows goes to the journal.
  (call.argument_advances 0).bind fun origin => (Store.createClone_advances origin).bind fun _ =>
    (advances_read _).bind fun _ => (advances_record _).bind fun _ =>
      (advances_read _).bind fun _ => (advances_note _ _).bind fun _ => advances_pure _

/-- Disposing of a clone is a step. -/
theorem disposeClone_advances : call.disposeClone.Advances := by
  -- What is no clone is not freed but only remarked on.
  refine (call.argument_advances 0).bind fun address => (advances_read _).bind fun isClone => ?_
  split
  · exact (Store.freeRecord_advances _ _).bind fun _ => advances_pure _
  · exact (advances_note _ _).bind fun _ => advances_pure _

/-- Looking up an export, for which a script may be loaded, leads from step to step. -/
theorem scriptID_advances : call.scriptID.Advances := by
  -- The script is in memory by now, but it may not have that many exports.
  refine (call.number_advances 0).bind fun number => (call.number?_advances 1).bind fun index =>
    (Store.ensureScript_advances _ _).bind fun id => (advances_require _).bind fun script => ?_
  split
  · exact advances_pure _
  · exact (advances_note _ _).bind fun _ => advances_pure _

/-- Disposing of a list and its nodes leads from step to step. -/
theorem disposeList_advances : call.disposeList.Advances := by
  refine (call.argument_advances 0).bind fun list => ?_
  split
  · -- The nodes go one by one, and the list goes after them.
    refine (advances_noted _).bind fun nodes => ?_
    have each : (nodes.forM (Store.freeRecord .nodes)).Advances :=
      advances_foldlM (fun _ node => Store.freeRecord_advances .nodes node) nodes ()
    exact each.bind fun _ => (Store.freeRecord_advances _ _).bind fun _ => advances_pure _
  · exact advances_pure _

/-- Putting a node after another one leads from step to step. -/
theorem addAfter_advances : call.addAfter.Advances := by
  -- Without a reference the node goes to the front.
  refine (call.argument_advances 0).bind fun list =>
    (call.argument_advances 1).bind fun reference =>
    (call.argument_advances 2).bind fun node => (call.setKey_advances node 3).bind fun _ => ?_
  split
  · exact (Store.linkFront_advances _ _).bind fun _ => advances_pure _
  · exact (Store.linkAfter_advances _ _ _).bind fun _ => advances_pure _

/-- Putting a node to the front of a list leads from step to step. -/
theorem addToFront_advances : call.addToFront.Advances :=
  -- The key is set first, then the node is linked.
  (call.argument_advances 0).bind fun list => (call.argument_advances 1).bind fun node =>
    (call.setKey_advances node 2).bind fun _ => (Store.linkFront_advances list node).bind fun _ =>
      advances_pure _

/-- Putting a node to the end of a list leads from step to step. -/
theorem addToEnd_advances : call.addToEnd.Advances := by
  -- The end of an empty list is its front.
  refine (call.argument_advances 0).bind fun list => (call.argument_advances 1).bind fun node =>
    (call.setKey_advances node 2).bind fun _ => (advances_require _).bind fun ends => ?_
  dsimp only
  split
  · exact (Store.linkFront_advances _ _).bind fun _ => advances_pure _
  · exact (Store.linkAfter_advances _ _ _).bind fun _ => advances_pure _

/-- Looking for a key changes nothing. -/
theorem findKey_advances : call.findKey.Advances := by
  -- Null stands for an empty list, in which there is nothing to find.
  refine (call.argument_advances 0).bind fun list => (call.argument_advances 1).bind fun key => ?_
  split
  · exact advances_pure _
  · exact (Store.findNode?_advances _ _).bind fun _ => advances_pure _

/-- Taking out and freeing a node leads from step to step. -/
theorem deleteKey_advances : call.deleteKey.Advances := by
  refine (call.argument_advances 0).bind fun list => (call.argument_advances 1).bind fun key => ?_
  split
  · exact advances_pure _
  · refine (Store.findNode?_advances _ _).bind fun found => ?_
    -- Without a node nothing is done.
    cases found with
    | none => exact advances_pure _
    | some node =>
      exact (Store.unlink_advances _ _).bind fun _ => (Store.freeRecord_advances _ _).bind fun _ =>
        advances_pure _

/-- Working on raw memory leads from step to step, whatever the first argument asks for. -/
theorem memory_advances : call.memory.Advances := by
  -- Two numbers ask for room, one gives it back, and the others copy, read and write.
  refine (call.number_advances 0).bind fun subfunction => ?_
  split
  · exact (call.number_advances 1).bind fun _ => Store.createDynmem_advances _ _
  · exact (call.number_advances 1).bind fun _ => Store.createDynmem_advances _ _
  · exact (call.argument_advances 1).bind fun _ => (Store.freeDynmem_advances _).bind fun _ =>
      advances_pure _
  · exact (call.argument_advances 1).bind fun _ => (call.argument_advances 2).bind fun _ =>
      (call.number_advances 3).bind fun _ => (copyBytes_advances _ _ _).bind fun _ =>
        advances_pure _
  · exact (call.argument_advances 1).bind fun _ => advances_require _
  · exact (call.argument_advances 1).bind fun _ => (call.argument_advances 2).bind fun _ =>
      (Store.writeValue_advances _ _).bind fun _ => advances_pure _
  · exact call.rejects_advances _

/-- Comparing texts changes nothing. -/
theorem strCmp_advances : call.strCmp.Advances :=
  -- Both texts are read, and nothing is written.
  (call.argument_advances 0).bind fun _ => (Store.readString_advances _).bind fun _ =>
    (call.argument_advances 1).bind fun _ => (Store.readString_advances _).bind fun _ =>
      (call.number?_advances 2).bind fun _ => advances_pure _

/-- Copying a text is a step. -/
theorem strCpy_advances : call.strCpy.Advances := by
  -- A text is written as its bytes and a zero.
  have writes (target : Address) (text : Bytes) :
      (attempt (·.writeString target text)).Advances :=
    advances_attempt fun _ _ done => Heap.Develops.refl.writeBytes done
  refine (call.argument_advances 0).bind fun target => (call.argument_advances 1).bind fun source =>
    (call.number?_advances 2).bind fun bound => ?_
  split
  · exact (Store.readString_advances _).bind fun text => (writes target text).bind fun _ =>
      advances_pure _
  · split
    · exact (copyBytes_advances _ _ _).bind fun _ => advances_pure _
    · split
      · exact (Store.readString_advances _).bind fun text => (writes target _).bind fun _ =>
          advances_pure _
      · exact advances_pure _

/-- Reading or replacing a byte of a text is a step. -/
theorem strAt_advances : call.strAt.Advances := by
  refine (call.argument_advances 0).bind fun text => (call.number_advances 1).bind fun index =>
    (advances_require _).bind fun data => (call.number?_advances 2).bind fun byte => ?_
  -- Without a third argument the byte is only read.
  cases byte with
  | none => exact advances_pure _
  | some byte =>
    exact (advances_attempt fun _ _ done => Heap.Develops.refl.writeBytes done).bind fun _ =>
      advances_pure _

/-- Every kernel function that the machine brings along leads memory from step to step. -/
theorem run_advances : call.run.Advances := by
  -- Not even disposing of a script frees it: that is left to the collector.
  unfold run
  cases call.builtin with
  | clone => exact call.clone_advances
  | disposeClone => exact call.disposeClone_advances
  | isObject => exact (call.argument_advances 0).bind fun _ => (advances_read _).bind fun _ =>
      advances_pure _
  | respondsTo =>
    exact (call.argument_advances 0).bind fun _ => (call.number_advances 1).bind fun _ =>
      (Store.respondsTo_advances _ _).bind fun _ => advances_pure _
  | scriptID => exact call.scriptID_advances
  | disposeScript => exact (call.number_advances 0).bind fun _ =>
      (Store.uninstantiateScript_advances _).bind fun _ => advances_pure _
  | newList => exact Store.createList_advances
  | disposeList => exact call.disposeList_advances
  | newNode => exact (call.argument_advances 0).bind fun _ => Store.createNode_advances _ _
  -- Asking a list or a node changes nothing.
  | firstNode => exact call.ofList_advances _ _
  | lastNode => exact call.ofList_advances _ _
  | emptyList => exact call.ofList_advances _ _
  | nextNode => exact call.ofNode_advances _
  | prevNode => exact call.ofNode_advances _
  | nodeValue => exact call.ofNode_advances _
  | addAfter => exact call.addAfter_advances
  | addToFront => exact call.addToFront_advances
  | addToEnd => exact call.addToEnd_advances
  | findKey => exact call.findKey_advances
  | deleteKey => exact call.deleteKey_advances
  | memory => exact call.memory_advances
  | strLen =>
    exact (call.argument_advances 0).bind fun _ => (Store.readString_advances _).bind fun _ =>
      advances_pure _
  | strCmp => exact call.strCmp_advances
  | strCpy => exact call.strCpy_advances
  | strAt => exact call.strAt_advances

end KernelCall

end AdventureVm
