import AdventureVm.Proofs.Lists.Families
import AdventureVm.Proofs.Lists.Linking

/-!
The kernel functions on lists are operations on sequences.

Whatever they are asked about a list is read off the sequence that it represents, and whatever they
do to a list is done to its sequence and to no other.
-/

namespace AdventureVm

namespace Sequences

/--
What kernel functions answer about the sequences of a family of lists, changing nothing.

A call has the function, its arguments, of which it may ignore some at the end, and the answer.
-/
inductive Answers (state : Sequences) : Builtin → List Address → Address → Prop where
  | firstNode {list : Address} {nodes extra : List Address}
      (given : state.order list = some nodes) :
      Answers state .firstNode (list :: extra) (nodes.headD .null)
  | lastNode {list : Address} {nodes extra : List Address}
      (given : state.order list = some nodes) :
      Answers state .lastNode (list :: extra) (nodes.getLastD .null)
  | emptyList {list : Address} {nodes extra : List Address}
      (given : state.order list = some nodes) :
      Answers state .emptyList (list :: extra) (.ofBool nodes.isEmpty)
  | nextNode {list node : Address} {front rest extra : List Address}
      (given : state.order list = some (front ++ node :: rest)) :
      Answers state .nextNode (node :: extra) (rest.headD .null)
  | prevNode {list node : Address} {front rest extra : List Address}
      (given : state.order list = some (front ++ node :: rest)) :
      Answers state .prevNode (node :: extra) (front.getLastD .null)
  | findKey {list key : Address} {nodes extra : List Address}
      (given : state.order list = some nodes) :
      Answers state .findKey (list :: key :: extra) ((nodes.find? (state.hasKey key)).getD .null)
  /-- No node has the key that is to be deleted. -/
  | deleteKey {list key : Address} {nodes extra : List Address}
      (given : state.order list = some nodes)
      (missing : nodes.find? (state.hasKey key) = none) :
      Answers state .deleteKey (list :: key :: extra) (.ofBool false)

/--
What becomes of the sequences of a family of lists when a kernel function changes one of them.

A call has the function, its arguments, of which it may ignore some at the end, and the answer. The
argument after those that are needed to add a node is its new key, if there is one.
-/
inductive Becomes (state : Sequences) (acc : Address) :
    Builtin → List Address → Address → Sequences → Prop where
  | addToFront {list node : Address} {nodes extra : List Address}
      (given : state.order list = some nodes) (unlisted : state.IsUnlisted node) :
      Becomes state acc .addToFront (list :: node :: extra) node
        ((state.rekey node extra.head?).reorder list (some (node :: nodes)))
  | addToEnd {list node : Address} {nodes extra : List Address}
      (given : state.order list = some nodes) (unlisted : state.IsUnlisted node) :
      Becomes state acc .addToEnd (list :: node :: extra) node
        ((state.rekey node extra.head?).reorder list (some (nodes ++ [node])))
  | addAfter {list reference node : Address} {front rest extra : List Address}
      (given : state.order list = some (front ++ reference :: rest))
      (unlisted : state.IsUnlisted node) :
      Becomes state acc .addAfter (list :: reference :: node :: extra) node
        ((state.rekey node extra.head?).reorder list (some (front ++ reference :: node :: rest)))
  /-- There is no node after which the new one is to be put. -/
  | addFirst {list node : Address} {nodes extra : List Address}
      (given : state.order list = some nodes) (unlisted : state.IsUnlisted node) :
      Becomes state acc .addAfter (list :: .null :: node :: extra) node
        ((state.rekey node extra.head?).reorder list (some (node :: nodes)))
  /-- The first node that has the key is deleted. -/
  | deleteKey {list key node : Address} {nodes extra : List Address}
      (given : state.order list = some nodes)
      (found : nodes.find? (state.hasKey key) = some node) :
      Becomes state acc .deleteKey (list :: key :: extra) (.ofBool true)
        ((state.without [node]).reorder list (some (nodes.erase node)))
  | disposeList {list : Address} {nodes extra : List Address}
      (given : state.order list = some nodes) :
      Becomes state acc .disposeList (list :: extra) acc
        ((state.without (nodes ++ [list])).reorder list none)

end Sequences

namespace KernelCall

open Heap Store StoreM

variable {call : KernelCall} {store : Store} {state : Sequences} {list node : Address}
  {nodes front rest extra : List Address}

/-- An argument that is there is given. -/
theorem argument_eq {index : Nat} {value : Address}
    (given : call.arguments[index]? = some value) : call.argument index = pure value := by
  rw [argument, given]

/-- Two arguments are given, and then the first of the extra ones, if there is any. -/
theorem arguments_of_two {one two : Address} (arguments : call.arguments = one :: two :: extra) :
    call.argument 0 = pure one ∧ call.argument 1 = pure two ∧
      extra.head? = call.arguments[2]? := by
  -- Each argument is given under its position, and the extra ones begin behind them.
  refine ⟨argument_eq (by rw [arguments]; rfl), argument_eq (by rw [arguments]; rfl), ?_⟩
  rw [arguments, List.head?_eq_getElem?]
  rfl

/-- Three arguments are given, and then the first of the extra ones, if there is any. -/
theorem arguments_of_three {one two three : Address}
    (arguments : call.arguments = one :: two :: three :: extra) :
    call.argument 0 = pure one ∧ call.argument 1 = pure two ∧ call.argument 2 = pure three ∧
      extra.head? = call.arguments[3]? := by
  -- The first two are those of a call with two arguments and extra ones.
  obtain ⟨first, second, third⟩ := arguments_of_two arguments
  refine ⟨first, second, argument_eq third.symm, ?_⟩
  rw [arguments, List.head?_eq_getElem?]
  rfl

/-- What a list is asked is read off its ends. -/
theorem ofList_succeeds (represents : store.heap.Represents list nodes)
    (grounded : store.heap.Grounded) (arguments : call.arguments = list :: extra) (absent : Address)
    (query : ListEnds → Address) :
    (call.ofList absent query).Succeeds store fun answer after =>
      answer = query ⟨nodes.headD .null, nodes.getLastD .null⟩ ∧ after = store := by
  have there := ends?_eq_some.mp represents.ends
  have first : call.argument 0 = pure list := argument_eq (by rw [arguments]; rfl)
  -- The list is no null, so its ends are read.
  rw [ofList, first, pure_bind, if_neg (by simp [grounded.isNull_of_record there])]
  refine (succeeds_require (list_eq_ok.mpr there)).bind ?_
  rintro ends after ⟨rfl, rfl⟩
  exact ⟨rfl, rfl⟩

/-- What a node of a sequence is asked for are its neighbours, or what it holds. -/
theorem ofNode_succeeds (represents : store.heap.Represents list (front ++ node :: rest))
    (grounded : store.heap.Grounded) (arguments : call.arguments = node :: extra)
    (query : Node → Address) :
    (call.ofNode query).Succeeds store fun answer after => after = store ∧
      ∃ entry, answer = query entry ∧ entry.pred = front.getLastD .null ∧
        entry.succ = rest.headD .null := by
  obtain ⟨entry, there, pred, succ⟩ := links?_eq_some.mp (represents_around.mp represents).2.1
  have first : call.argument 0 = pure node := argument_eq (by rw [arguments]; rfl)
  -- The node is no null, so its record is read.
  rw [ofNode, first, pure_bind, if_neg (by simp [grounded.isNull_of_record there])]
  refine (succeeds_require (node_eq_ok.mpr there)).bind ?_
  rintro entry after ⟨rfl, rfl⟩
  exact ⟨rfl, entry, rfl, pred, succ⟩

/-- A node that is to be added gets the key of the call, if the call has one. -/
theorem setKey_succeeds {entry : Node} (shows : store.heap.Shows state)
    (there : store.heap.recordAt? node = some (.node entry)) (index : Nat) :
    (call.setKey node index).Succeeds store fun _ after =>
      after.heap.Shows (state.rekey node call.arguments[index]?) ∧
        store.heap.SparesOthers after.heap := by
  unfold setKey
  -- A call without a key leaves the node as it is.
  cases call.arguments[index]? with
  | none => exact ⟨shows, .refl _⟩
  | some key =>
    refine (updateNode_succeeds there fun entry => { entry with key }).mono ?_
    intro _ after changed
    rw [changed]
    exact ⟨shows.rekey there key, sparesOthers_modifyNode _ _ _⟩

/--
A node that gets the key of the call and is then linked into a list is in its sequence.

It is enough to know what is linked in any memory in which the list represents its sequence and the
node is there.
-/
theorem addNode_succeeds {others : List Address} {index : Nat} {work : StoreM Address}
    (shows : store.heap.Shows state) (given : state.order list = some nodes)
    (unlisted : state.IsUnlisted node) (own : ∀ address ∈ others, address ∈ nodes ∨ address = node)
    (links : ∀ (between : Store) (entry : Node), between.heap.Represents list nodes →
      between.heap.recordAt? node = some (.node entry) →
      work.Succeeds between fun answer after => answer = node ∧
        after.heap.Represents list others ∧ between.heap.Relinked [list] others after.heap) :
    (do call.setKey node index; work).Succeeds store fun answer after => answer = node ∧
      after.heap.Shows
        ((state.rekey node call.arguments[index]?).reorder list (some others)) ∧
      store.heap.SparesOthers after.heap := by
  obtain ⟨contents, live⟩ := unlisted.live
  obtain ⟨entry, there⟩ := shows.live live
  refine (setKey_succeeds shows there index).bind ?_
  rintro _ between ⟨rekeyed, spared⟩
  -- With its new key the node is still in memory and in no sequence.
  have unlistedStill := unlisted.rekey node call.arguments[index]?
  have givenStill : (state.rekey node call.arguments[index]?).order list = some nodes := by
    rw [Sequences.order_rekey, given]
  obtain ⟨contents, live⟩ := unlistedStill.live
  obtain ⟨entry, there⟩ := rekeyed.live live
  refine (links between entry (rekeyed.represents givenStill) there).mono ?_
  rintro answer after ⟨same, represents, relinked⟩
  refine ⟨same, rekeyed.reorder givenStill represents relinked ?_, spared.trans relinked.others⟩
  intro address member
  rcases own address member with old | rfl
  · exact .inl old
  · exact .inr unlistedStill

variable (grounded : store.heap.Grounded) (shows : store.heap.Shows state)

include grounded shows

/-- A node that is added to the front of a list comes first in its sequence. -/
theorem addToFront_succeeds (given : state.order list = some nodes)
    (unlisted : state.IsUnlisted node) (arguments : call.arguments = list :: node :: extra) :
    call.addToFront.Succeeds store fun answer after => answer = node ∧
      after.heap.Shows ((state.rekey node extra.head?).reorder list (some (node :: nodes))) ∧
      store.heap.SparesOthers after.heap := by
  have real := (shows.represents given).real grounded
  obtain ⟨first, second, key⟩ := arguments_of_two arguments
  rw [addToFront, first, pure_bind, second, pure_bind, key]
  refine addNode_succeeds shows given unlisted (by simp [or_comm]) ?_
  intro between entry represents there
  -- A node that no list has can be linked before the first one.
  refine (linkFront_succeeds represents there (unlisted.outside _ _ given) real).bind ?_
  exact fun _ after linked => ⟨rfl, linked⟩

/-- A node that is added to the end of a list comes last in its sequence. -/
theorem addToEnd_succeeds (given : state.order list = some nodes)
    (unlisted : state.IsUnlisted node) (arguments : call.arguments = list :: node :: extra) :
    call.addToEnd.Succeeds store fun answer after => answer = node ∧
      after.heap.Shows ((state.rekey node extra.head?).reorder list (some (nodes ++ [node]))) ∧
      store.heap.SparesOthers after.heap := by
  have real := (shows.represents given).real grounded
  have outside := unlisted.outside _ _ given
  obtain ⟨first, second, key⟩ := arguments_of_two arguments
  rw [addToEnd, first, pure_bind, second, pure_bind, key]
  refine addNode_succeeds shows given unlisted (by simp) ?_
  intro between entry represents there
  have ends := ends?_eq_some.mp represents.ends
  refine (succeeds_require (list_eq_ok.mpr ends)).bind ?_
  rintro _ after ⟨rfl, rfl⟩
  -- The end of an empty list is its front, and otherwise it is after the last node.
  rcases nodes.eq_nil_or_concat with rfl | ⟨front, last, rfl⟩
  · refine (linkFront_succeeds represents there outside real).bind ?_
    exact fun _ after linked => ⟨rfl, linked⟩
  · rw [List.concat_eq_append] at *
    have nonnull : last.isNull = false := Address.isNull_of_mem real (by simp)
    rw [getLastD_append, List.getLastD_cons, List.getLastD_nil, List.append_assoc]
    simp only [nonnull, Bool.false_eq_true, if_false]
    refine (linkAfter_succeeds represents there outside real).bind ?_
    exact fun _ after linked => ⟨rfl, linked⟩

/-- A node that is added after another one comes right after it in the sequence. -/
theorem addAfter_succeeds {reference : Address}
    (given : state.order list = some (front ++ reference :: rest))
    (unlisted : state.IsUnlisted node)
    (arguments : call.arguments = list :: reference :: node :: extra) :
    call.addAfter.Succeeds store fun answer after => answer = node ∧
      after.heap.Shows ((state.rekey node extra.head?).reorder list
        (some (front ++ reference :: node :: rest))) ∧
      store.heap.SparesOthers after.heap := by
  have real := (shows.represents given).real grounded
  have nonnull : reference.isNull = false := Address.isNull_of_mem real (by simp)
  -- The arguments are the list, the node to add after, and the node to add.
  obtain ⟨first, second, third, key⟩ := arguments_of_three arguments
  rw [addAfter, first, pure_bind, second, pure_bind, third, pure_bind, key]
  refine addNode_succeeds shows given unlisted ?_ ?_
  · intro address
    simp only [List.mem_append, List.mem_cons]
    tauto
  · intro between entry represents there
    simp only [nonnull, Bool.false_eq_true, if_false]
    refine (linkAfter_succeeds represents there (unlisted.outside _ _ given) real).bind ?_
    exact fun _ after linked => ⟨rfl, linked⟩

/-- A node that is added after null comes first in the sequence. -/
theorem addFirst_succeeds (given : state.order list = some nodes)
    (unlisted : state.IsUnlisted node)
    (arguments : call.arguments = list :: .null :: node :: extra) :
    call.addAfter.Succeeds store fun answer after => answer = node ∧
      after.heap.Shows ((state.rekey node extra.head?).reorder list (some (node :: nodes))) ∧
      store.heap.SparesOthers after.heap := by
  have real := (shows.represents given).real grounded
  have null : Address.null.isNull = true := rfl
  obtain ⟨first, second, third, key⟩ := arguments_of_three arguments
  rw [addAfter, first, pure_bind, second, pure_bind, third, pure_bind, key]
  refine addNode_succeeds shows given unlisted (by simp [or_comm]) ?_
  intro between entry represents there
  -- The reference is null, so the node goes to the front.
  simp only [null, if_true]
  refine (linkFront_succeeds represents there (unlisted.outside _ _ given) real).bind ?_
  exact fun _ after linked => ⟨rfl, linked⟩

/-- The first node with a key is found in the sequence of a list. -/
theorem findShown_succeeds (given : state.order list = some nodes)
    (small : nodes.length ≤ Pool.maxSlots) (key : Address) :
    (findNode? list key).Succeeds store fun found after =>
      found = nodes.find? (state.hasKey key) ∧ after = store := by
  have represents := shows.represents given
  -- Memory and the family agree on which node has the key.
  have same : store.heap.hasKey key = state.hasKey key := by
    funext address
    rw [hasKey_eq, shows.records]
    rfl
  rw [← same]
  exact findNode?_succeeds represents (represents.real grounded) small key

/-- A key is looked for in the sequence of a list. -/
theorem findKey_succeeds {key : Address} (given : state.order list = some nodes)
    (small : nodes.length ≤ Pool.maxSlots)
    (arguments : call.arguments = list :: key :: extra) :
    call.findKey.Succeeds store fun answer after =>
      answer = (nodes.find? (state.hasKey key)).getD .null ∧ after = store := by
  have there := ends?_eq_some.mp (shows.represents given).ends
  have nonnull := grounded.isNull_of_record there
  obtain ⟨first, second, -⟩ := arguments_of_two arguments
  -- The list is no null, so it is gone through.
  rw [findKey, first, pure_bind, second, pure_bind, if_neg (by simp [nonnull])]
  refine (findShown_succeeds grounded shows given small key).bind ?_
  rintro found after ⟨rfl, rfl⟩
  exact ⟨rfl, rfl⟩

/-- A key that no node of a sequence has is not deleted. -/
theorem deleteMissing_succeeds {key : Address} (given : state.order list = some nodes)
    (small : nodes.length ≤ Pool.maxSlots)
    (missing : nodes.find? (state.hasKey key) = none)
    (arguments : call.arguments = list :: key :: extra) :
    call.deleteKey.Succeeds store fun answer after => answer = .ofBool false ∧ after = store := by
  have there := ends?_eq_some.mp (shows.represents given).ends
  have nonnull := grounded.isNull_of_record there
  obtain ⟨first, second, -⟩ := arguments_of_two arguments
  rw [deleteKey, first, pure_bind, second, pure_bind, if_neg (by simp [nonnull])]
  refine (findShown_succeeds grounded shows given small key).bind ?_
  rintro found after ⟨rfl, rfl⟩
  -- Without a node there is nothing to take out or to free.
  rw [missing]
  exact ⟨rfl, rfl⟩

/-- The first node of a sequence that has a key is taken out and freed. -/
theorem deleteKey_succeeds {key : Address} (given : state.order list = some nodes)
    (small : nodes.length ≤ Pool.maxSlots)
    (found : nodes.find? (state.hasKey key) = some node)
    (arguments : call.arguments = list :: key :: extra) :
    call.deleteKey.Succeeds store fun answer after => answer = .ofBool true ∧
      after.heap.Shows ((state.without [node]).reorder list (some (nodes.erase node))) ∧
      store.heap.SparesOthers after.heap := by
  have represents := shows.represents given
  have nonnull := grounded.isNull_of_record (ends?_eq_some.mp represents.ends)
  obtain ⟨first, second, -⟩ := arguments_of_two arguments
  -- The node parts the sequence, and what is left are the two parts.
  obtain ⟨front, rest, rfl⟩ := List.append_of_mem (List.mem_of_find?_eq_some found)
  have distinct := represents.distinct
  have outside : node ∉ front ++ rest := (List.nodup_cons.mp (List.nodup_middle.mp distinct)).1
  have left : (front ++ node :: rest).erase node = front ++ rest := by
    rw [List.erase_append_right _ fun member => outside (List.mem_append_left _ member),
      List.erase_cons_head]
  -- The list is no node of its own sequence, so freeing the node spares it.
  have listElsewhere : list ≠ node := by
    rintro rfl
    exact shows.list_notMem given given (by simp)
  have live : ∃ contents, state.records node = some (.node contents) := by
    obtain ⟨entry, there⟩ := represents.linked.live node (by simp)
    exact ⟨_, by rw [← shows.records, contents?, there]; rfl⟩
  rw [deleteKey, first, pure_bind, second, pure_bind, if_neg (by simp [nonnull]), left]
  -- The node is found, taken out and freed.
  refine (findShown_succeeds grounded shows given small key).bind ?_
  rintro _ between ⟨rfl, rfl⟩
  rw [found]
  refine (unlink_succeeds represents (represents.real grounded)).bind ?_
  rintro _ unlinked ⟨shorter, relinked⟩
  have own : ∀ address ∈ front ++ rest, address ∈ front ++ node :: rest := by
    intro address
    simp only [List.mem_append, List.mem_cons]
    tauto
  have shown := shows.reorder given shorter relinked fun address member => .inl (own address member)
  -- The node is still there, and no list has it, so it can be freed.
  obtain ⟨contents, present⟩ := live
  obtain ⟨entry, there⟩ := shown.live present
  refine (freeRecord_freed there).bind ?_
  rintro _ after freed
  refine ⟨rfl, shown.without freed ?_, relinked.others.trans freed.others⟩
  intro other row listed
  rw [List.mem_singleton, List.disjoint_singleton]
  rw [Sequences.order_reorder] at listed
  split at listed
  · rename_i here
    rw [here, ← Option.some.inj listed]
    exact ⟨listElsewhere, outside⟩
  · rename_i elsewhere
    refine ⟨?_, fun member => shows.disjoint listed given elsewhere member (by simp)⟩
    rintro rfl
    exact shows.list_notMem listed given (by simp)

/-- A list is disposed of together with exactly the nodes of its sequence. -/
theorem disposeList_succeeds (given : state.order list = some nodes)
    (small : nodes.length ≤ Pool.maxSlots)
    (arguments : call.arguments = list :: extra) :
    call.disposeList.Succeeds store fun answer after => answer = call.acc ∧
      after.heap.Shows ((state.without (nodes ++ [list])).reorder list none) ∧
      store.heap.SparesOthers after.heap := by
  have represents := shows.represents given
  have there := ends?_eq_some.mp represents.ends
  have nonnull := grounded.isNull_of_record there
  have first : call.argument 0 = pure list := argument_eq (by rw [arguments]; rfl)
  have read := represents.listNodes (represents.real grounded) small
  rw [disposeList, first, pure_bind, if_pos (by simp [nonnull])]
  refine (succeeds_noted read).bind ?_
  rintro _ between ⟨rfl, rfl⟩
  rw [List.forM_toArray' nodes _ rfl]
  -- The nodes go first, one after the other, and the list last.
  refine (freeNodes_succeeds represents.distinct represents.linked.live).bind ?_
  rintro _ emptied freedNodes
  -- The list is no node, so it is still there.
  have stillThere := (freedNodes.recordAt?_eq (shows.list_notMem given given)).trans there
  refine (freeRecord_freed stillThere).bind ?_
  rintro _ after freedList
  have freed := freedNodes.trans freedList
  refine ⟨rfl, (shows.drop list).without freed ?_, freed.others⟩
  intro other row listed
  rw [Sequences.order_reorder] at listed
  -- The list itself is not asked about any more, and other lists share no node with it.
  split at listed
  · cases listed
  · rename_i elsewhere
    rw [List.mem_append, List.mem_singleton, not_or, List.disjoint_append_right,
      List.disjoint_singleton]
    exact ⟨⟨shows.list_notMem listed given, elsewhere⟩, shows.disjoint listed given elsewhere,
      shows.list_notMem given listed⟩

omit grounded shows

/-- The functions that go through a list from its first node on. -/
def walking : List Builtin :=
  [.findKey, .deleteKey, .disposeList]

/-- What a list is asked is answered from its sequence, and nothing changes. -/
theorem run_of_answers (grounded : store.heap.Grounded) (shows : store.heap.Shows state)
    (short : call.builtin ∈ walking → state.IsShort) {answer : Address}
    (answers : state.Answers call.builtin call.arguments answer) :
    call.run.run store = (.ok answer, store) := by
  have settled : call.run.Succeeds store fun given after => given = answer ∧ after = store := by
    unfold KernelCall.run
    -- The function and the arguments are set apart to go through the answers one by one.
    generalize same : call.builtin = builtin at answers
    generalize arguments : call.arguments = row at answers
    cases answers with
    | firstNode given => exact ofList_succeeds (shows.represents given) grounded arguments _ _
    | lastNode given => exact ofList_succeeds (shows.represents given) grounded arguments _ _
    | emptyList given =>
      have represents := shows.represents given
      have empty := isNull_headD (represents.real grounded)
      rw [← empty]
      exact ofList_succeeds represents grounded arguments _ _
    | nextNode given =>
      refine (ofNode_succeeds (shows.represents given) grounded arguments _).mono ?_
      rintro _ _ ⟨unchanged, entry, rfl, -, succ⟩
      exact ⟨succ, unchanged⟩
    | prevNode given =>
      refine (ofNode_succeeds (shows.represents given) grounded arguments _).mono ?_
      rintro _ _ ⟨unchanged, entry, rfl, pred, -⟩
      exact ⟨pred, unchanged⟩
    | findKey given =>
      have small := short (by simp [same, walking])
      exact findKey_succeeds grounded shows given (small _ _ given) arguments
    -- A key that no node has is answered like a question.
    | deleteKey given missing =>
      have small := short (by simp [same, walking])
      exact deleteMissing_succeeds grounded shows given (small _ _ given) missing arguments
  obtain ⟨value, after, ended, rfl, rfl⟩ := settled.run
  exact ended

/-- What is done to a list is done to its sequence, and to nothing else. -/
theorem run_of_becomes (grounded : store.heap.Grounded) (shows : store.heap.Shows state)
    (short : call.builtin ∈ walking → state.IsShort) {answer : Address} {next : Sequences}
    (becomes : state.Becomes call.acc call.builtin call.arguments answer next) :
    ∃ after, call.run.run store = (.ok answer, after) ∧ after.heap.Shows next ∧
      store.heap.SparesOthers after.heap := by
  have settled : call.run.Succeeds store fun given after => given = answer ∧
      after.heap.Shows next ∧ store.heap.SparesOthers after.heap := by
    unfold KernelCall.run
    -- The function and the arguments are set apart to go through the changes one by one.
    generalize same : call.builtin = builtin at becomes
    generalize arguments : call.arguments = row at becomes
    cases becomes with
    | addToFront given unlisted =>
      exact addToFront_succeeds grounded shows given unlisted arguments
    | addToEnd given unlisted => exact addToEnd_succeeds grounded shows given unlisted arguments
    | addAfter given unlisted => exact addAfter_succeeds grounded shows given unlisted arguments
    | addFirst given unlisted => exact addFirst_succeeds grounded shows given unlisted arguments
    | deleteKey given found =>
      have small := short (by simp [same, walking])
      exact deleteKey_succeeds grounded shows given (small _ _ given) found arguments
    | disposeList given =>
      have small := short (by simp [same, walking])
      exact disposeList_succeeds grounded shows given (small _ _ given) arguments
  obtain ⟨value, after, ended, rfl, shown⟩ := settled.run
  exact ⟨after, ended, shown⟩

end KernelCall

end AdventureVm
