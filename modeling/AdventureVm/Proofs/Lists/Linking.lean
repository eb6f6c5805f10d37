import AdventureVm.Proofs.Lists.Sequences

/-!
Putting a node into the sequence of a list and taking it out.

Whatever is done is done on both sides of a place: what comes before it is told what comes next, and
what comes after it is told what comes before.
-/

namespace AdventureVm

namespace Store

open Heap StoreM

variable {store : Store} {list node succ pred : Address} {front rest nodes : List Address}

/-- Tells what is before a place in a list what comes next: a node there, or the list. -/
def linkSucc (list pred succ : Address) : StoreM Unit :=
  if pred.isNull then updateList list fun ends => { ends with first := succ }
  else updateNode pred fun entry => { entry with succ }

/-- Tells what is after a place in a list what comes before: a node there, or the list. -/
def linkPred (list succ pred : Address) : StoreM Unit :=
  if succ.isNull then updateList list fun ends => { ends with last := pred }
  else updateNode succ fun entry => { entry with pred }

/-- The front of a list is told what comes next, and nothing else is. -/
theorem linkSucc_succeeds (parted : store.heap.Parted list front rest succ pred)
    (distinct : (front ++ rest).Nodup) (real : .null ∉ front) (next : Address) :
    (linkSucc list (front.getLastD .null) next).Succeeds store fun _ after =>
      after.heap.Parted list front rest next pred ∧
        store.heap.Relinked [list] front after.heap := by
  rcases front.eq_nil_or_concat with rfl | ⟨init, last, rfl⟩
  · -- Without a front the list itself says what comes first.
    refine (relinkList_succeeds parted.ends fun ends => { ends with first := next }).mono ?_
    rintro _ after ⟨relinked, ends⟩
    refine ⟨⟨ends, trivial, ?_⟩, relinked⟩
    exact parted.rest.congr fun node _ => relinked.links node List.not_mem_nil
  · -- Otherwise the last node of the front does.
    rw [List.concat_eq_append] at *
    obtain ⟨linkedInit, links, -⟩ := linked_append.mp parted.front
    obtain ⟨entry, there, before, -⟩ := links?_eq_some.mp links
    have nonnull : last.isNull = false := Address.isNull_of_mem real (by simp)
    obtain ⟨distinctFront, -, apart⟩ := List.nodup_append.mp distinct
    have notInInit : init.Disjoint [last] := (List.nodup_append'.mp distinctFront).2.2
    have notInRest : rest.Disjoint [last] := by
      rw [List.disjoint_singleton]
      exact fun member => apart last (by simp) last member rfl
    rw [getLastD_append, List.getLastD_cons, List.getLastD_nil, linkSucc, nonnull]
    refine (relinkNode_succeeds there rfl rfl).mono ?_
    rintro _ after ⟨relinked, linksAfter⟩
    rw [before] at linksAfter
    refine ⟨⟨?_, ?_, ?_⟩, relinked.mono (by simp) (by simp)⟩
    · rw [relinked.ends list List.not_mem_nil, parted.ends, headD_append, headD_append]
      rfl
    · refine linked_append.mpr ⟨?_, linksAfter, trivial⟩
      exact linkedInit.congr fun node member => relinked.links node (notInInit member)
    · exact parted.rest.congr fun node member => relinked.links node (notInRest member)

/-- The rest of a list is told what comes before, and nothing else is. -/
theorem linkPred_succeeds (parted : store.heap.Parted list front rest succ pred)
    (distinct : (front ++ rest).Nodup) (real : .null ∉ rest) (previous : Address) :
    (linkPred list (rest.headD .null) previous).Succeeds store fun _ after =>
      after.heap.Parted list front rest succ previous ∧
        store.heap.Relinked [list] rest after.heap := by
  cases rest with
  | nil =>
    -- Without a rest the list itself says what comes last.
    refine (relinkList_succeeds parted.ends fun ends => { ends with last := previous }).mono ?_
    rintro _ after ⟨relinked, ends⟩
    refine ⟨⟨ends, ?_, trivial⟩, relinked⟩
    exact parted.front.congr fun node _ => relinked.links node List.not_mem_nil
  | cons first rest =>
    -- Otherwise the first node of the rest does.
    obtain ⟨links, linkedRest⟩ := parted.rest
    obtain ⟨entry, there, -, next⟩ := links?_eq_some.mp links
    have nonnull : first.isNull = false := Address.isNull_of_mem real (by simp)
    obtain ⟨-, distinctRest, apart⟩ := List.nodup_append.mp distinct
    have notInRest : rest.Disjoint [first] := by
      rw [List.disjoint_singleton]
      exact (List.nodup_cons.mp distinctRest).1
    have notInFront : front.Disjoint [first] := by
      rw [List.disjoint_singleton]
      exact fun member => apart first member first (by simp) rfl
    rw [List.headD_cons, linkPred, nonnull]
    refine (relinkNode_succeeds there rfl rfl).mono ?_
    rintro _ after ⟨relinked, linksAfter⟩
    rw [next] at linksAfter
    refine ⟨⟨?_, ?_, linksAfter, ?_⟩, relinked.mono (by simp) (by simp)⟩
    · rw [relinked.ends list List.not_mem_nil, parted.ends, List.getLastD_cons, List.getLastD_cons]
    · exact parted.front.congr fun node member => relinked.links node (notInFront member)
    · exact linkedRest.congr fun node member => relinked.links node (notInRest member)

/-- Putting a node first links it, what comes after it, and what comes before it. -/
theorem linkFront_eq (list node : Address) : linkFront list node = (do
    let ends ← require (·.list list)
    updateNode node fun entry => { entry with pred := .null, succ := ends.first }
    linkPred list ends.first node
    linkSucc list .null node) := by
  -- Both sides begin alike; they differ in the branch for a list that was empty.
  unfold linkFront linkPred
  refine congrArg (require (·.list list) >>= ·) (funext fun ends => ?_)
  dsimp only
  refine congrArg (updateNode node _ >>= ·) (funext fun _ => ?_)
  split <;> rfl

/-- Putting a node after another one links it, what comes before it, and what comes after it. -/
theorem linkAfter_eq {reference : Address} (nonnull : reference.isNull = false) :
    linkAfter list reference node = (do
      let entry ← require (·.node reference)
      updateNode node fun other => { other with pred := reference, succ := entry.succ }
      linkSucc list reference node
      linkPred list entry.succ node) := by
  -- The test for null that the two sides share is decided by the hypothesis.
  unfold linkAfter linkSucc
  rw [nonnull]
  rfl

/-- Taking out a node links what comes before it and what comes after it. -/
theorem unlink_eq : unlink list node = (do
    let entry ← require (·.node node)
    linkSucc list entry.pred entry.succ
    linkPred list entry.succ entry.pred) := by
  -- One branch for a node that came first, one for any other.
  unfold unlink linkSucc linkPred
  refine congrArg (require (·.node node) >>= ·) (funext fun entry => ?_)
  dsimp only
  by_cases foremost : entry.pred.isNull = true
  · rw [if_pos foremost, if_pos foremost]
  · rw [if_neg foremost, if_neg foremost]

/-- A node that gets links changes no sequence that it is not in. -/
theorem joinNode_succeeds {pred succ : Address} {entry : Node}
    (represents : store.heap.Represents list (front ++ rest))
    (there : store.heap.recordAt? node = some (.node entry)) (outside : node ∉ front ++ rest) :
    (updateNode node fun entry => { entry with pred, succ }).Succeeds store fun _ after =>
      after.heap.Parted list front rest (rest.headD .null) (front.getLastD .null) ∧
        after.heap.links? node = some (pred, succ) ∧
        store.heap.Relinked [list] [node] after.heap := by
  refine (relinkNode_succeeds there rfl rfl).mono ?_
  rintro _ after ⟨relinked, links⟩
  rw [List.mem_append, not_or] at outside
  have parted := (represents_append.mp represents).1
  -- The node is in neither part, so both stay linked.
  refine ⟨parted.of_relinked relinked List.not_mem_nil ?_ ?_, links, relinked.mono (by simp) ?_⟩
  · exact List.disjoint_singleton.mpr outside.1
  · exact List.disjoint_singleton.mpr outside.2
  · exact List.Subset.refl _

/-- A node that is put to the front of a list comes first in its sequence. -/
theorem linkFront_succeeds {entry : Node} (represents : store.heap.Represents list nodes)
    (there : store.heap.recordAt? node = some (.node entry)) (outside : node ∉ nodes)
    (real : .null ∉ nodes) :
    (linkFront list node).Succeeds store fun _ after =>
      after.heap.Represents list (node :: nodes) ∧
        store.heap.Relinked [list] (node :: nodes) after.heap := by
  rw [linkFront_eq]
  have distinct := represents.distinct
  have ends := ends?_eq_some.mp represents.ends
  refine (succeeds_require (list_eq_ok.mpr ends)).bind ?_
  rintro _ first ⟨rfl, rfl⟩
  -- With nothing in front of the node, the list itself is what refers to it.
  have atFront : first.heap.Represents list ([] ++ nodes) := represents
  refine (joinNode_succeeds atFront there outside).bind ?_
  rintro _ second ⟨parted, links, relinkedNode⟩
  refine (linkPred_succeeds parted distinct real node).bind ?_
  rintro _ third ⟨partedToo, relinkedRest⟩
  refine (linkSucc_succeeds partedToo distinct List.not_mem_nil node).mono ?_
  rintro _ last ⟨joined, relinkedFront⟩
  -- The links that were changed are those of the list, of the node and of the first node so far.
  have relinked : second.heap.Relinked [list] nodes last.heap :=
    relinkedRest.trans (relinkedFront.mono (List.Subset.refl _) (by simp))
  have whole : last.heap.Represents list ([] ++ node :: nodes) := by
    refine represents_around.mpr ⟨joined, ?_, List.nodup_cons.mpr ⟨outside, distinct⟩⟩
    rw [relinked.links node outside]
    exact links
  exact ⟨whole, (relinkedNode.mono (List.Subset.refl _) (by simp)).trans
    (relinked.mono (List.Subset.refl _) (by simp))⟩

/-- A node that is put after another one comes right after it in the sequence. -/
theorem linkAfter_succeeds {reference : Address} {entry : Node}
    (represents : store.heap.Represents list (front ++ reference :: rest))
    (there : store.heap.recordAt? node = some (.node entry))
    (outside : node ∉ front ++ reference :: rest) (real : .null ∉ front ++ reference :: rest) :
    (linkAfter list reference node).Succeeds store fun _ after =>
      after.heap.Represents list (front ++ reference :: node :: rest) ∧
        store.heap.Relinked [list] (front ++ reference :: node :: rest) after.heap := by
  -- The sequence is parted after the reference node, which ends the front.
  have regroup : ∀ others, front ++ reference :: others = (front ++ [reference]) ++ others := by
    simp
  have nonnull : reference.isNull = false := Address.isNull_of_mem real (by simp)
  have links := (represents_around.mp represents).2.1
  obtain ⟨other, found, -, succ⟩ := links?_eq_some.mp links
  have ended : (front ++ [reference]).getLastD .null = reference := by
    rw [getLastD_append, List.getLastD_cons, List.getLastD_nil]
  rw [regroup] at represents outside real ⊢
  rw [linkAfter_eq nonnull]
  have distinct := represents.distinct
  have realToo := real
  rw [List.mem_append, not_or] at realToo
  refine (succeeds_require (node_eq_ok.mpr found)).bind ?_
  rintro _ first ⟨rfl, rfl⟩
  rw [succ]
  -- The node gets its links first, then what comes before it, then what comes after.
  refine (joinNode_succeeds represents there outside).bind ?_
  rintro _ second ⟨parted, links, relinkedNode⟩
  have told := linkSucc_succeeds parted distinct realToo.1 node
  rw [ended] at told
  refine told.bind ?_
  rintro _ third ⟨partedToo, relinkedFront⟩
  refine (linkPred_succeeds partedToo distinct realToo.2 node).mono ?_
  rintro _ last ⟨joined, relinkedRest⟩
  -- The last two steps leave the links of the node alone, since it is in neither part.
  have relinked : second.heap.Relinked [list] ((front ++ [reference]) ++ rest) last.heap :=
    (relinkedFront.mono (List.Subset.refl _) (List.subset_append_left _ _)).trans
      (relinkedRest.mono (List.Subset.refl _) (List.subset_append_right _ _))
  refine ⟨represents_around.mpr ⟨joined, ?_, ?_⟩, ?_⟩
  · rw [relinked.links node outside, ended]
    exact links
  · exact List.nodup_middle.mpr (List.nodup_cons.mpr ⟨outside, distinct⟩)
  · refine (relinkedNode.mono (List.Subset.refl _) (by simp)).trans
      (relinked.mono (List.Subset.refl _) ?_)
    intro address
    simp only [List.mem_append, List.mem_cons]
    tauto

/-- A node that is taken out of a list is missing from its sequence, and from nothing else. -/
theorem unlink_succeeds (represents : store.heap.Represents list (front ++ node :: rest))
    (real : .null ∉ front ++ node :: rest) :
    (unlink list node).Succeeds store fun _ after =>
      after.heap.Represents list (front ++ rest) ∧
        store.heap.Relinked [list] (front ++ rest) after.heap := by
  obtain ⟨parted, links, distinct⟩ := represents_around.mp represents
  obtain ⟨entry, there, pred, succ⟩ := links?_eq_some.mp links
  have distinctToo := (List.nodup_cons.mp (List.nodup_middle.mp distinct)).2
  simp only [List.mem_append, List.mem_cons, not_or] at real
  rw [unlink_eq]
  refine (succeeds_require (node_eq_ok.mpr there)).bind ?_
  rintro _ first ⟨rfl, rfl⟩
  rw [pred, succ]
  -- The neighbours of the node are linked with each other, and its own links stay as they were.
  refine (linkSucc_succeeds parted distinctToo real.1 _).bind ?_
  rintro _ second ⟨partedToo, relinkedFront⟩
  refine (linkPred_succeeds partedToo distinctToo real.2.2 _).mono ?_
  rintro _ last ⟨joined, relinkedRest⟩
  exact ⟨represents_append.mpr ⟨joined, distinctToo⟩,
    (relinkedFront.mono (List.Subset.refl _) (List.subset_append_left _ _)).trans
      (relinkedRest.mono (List.Subset.refl _) (List.subset_append_right _ _))⟩

end Store

end AdventureVm
