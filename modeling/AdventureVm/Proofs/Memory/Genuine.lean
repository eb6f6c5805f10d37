import AdventureVm.Kernel.Lists
import AdventureVm.Memory.Lookup
import AdventureVm.Proofs.Loader.WellFormed

/-!
Failures that are no requests to stop.

Whatever is asked about memory, and whatever a script in the resources looks like, a failure is one
of these.
-/

namespace AdventureVm

/-- The fault is a failure of its own, and not a request to stop. -/
def Fault.IsGenuine (fault : Fault) : Prop :=
  ∀ request, fault ≠ .interrupted request

/-- A failure of its own is told from every request to stop. -/
@[simp] theorem Fault.isGenuine_iff {fault : Fault} :
    fault.IsGenuine ↔ ∀ request, fault ≠ .interrupted request :=
  Iff.rfl

/-- The result is a success, or a failure that is no request to stop. -/
abbrev Genuine {α : Type} (result : Except Fault α) : Prop :=
  Results (fun _ => True) Fault.IsGenuine result

/-- A result with a property of its value alone is such a result in any state. -/
theorem Results.either {σ α : Type} {fits : α → Prop} {failed : Fault → Prop}
    {result : Except Fault α} (met : Results fits failed result) (state : σ) :
    Either (fun value _ => fits value) (fun fault _ => failed fault) result state := by
  -- Neither condition looks at the state.
  cases result with
  | ok value => exact met
  | error fault => exact met

/-- A script that cannot be loaded is no request to stop. -/
theorem Fault.IsUnloadable.isGenuine {fault : Fault} {number : UInt16}
    (unloadable : fault.IsUnloadable number) : fault.IsGenuine := by
  -- A corrupt script and a missing one are other faults than an interruption.
  rcases unloadable with ⟨_, _, rfl⟩ | rfl
  · exact fun _ => nofun
  · exact fun _ => nofun

/-- A script that is blamed has not been asked to stop. -/
theorem Source.Blames.isGenuine {source : Source} {fault : Fault} (blamed : source.Blames fault) :
    fault.IsGenuine :=
  Fault.IsUnloadable.isGenuine (.inl blamed)

namespace Heap

variable {heap : Heap}

/-- To find too little at an address is no request to stop. -/
theorem invalid_isGenuine (address : Address) (requested : Nat) :
    (heap.invalid address requested).IsGenuine :=
  fun _ => nofun

/-- Looking for a script is not asked to stop. -/
theorem script_genuine (id : SegmentId) : Genuine (heap.script id) := by
  -- Another segment in its place is a fault, but not an interruption.
  unfold script
  split
  · trivial
  · exact fun _ => nofun

/-- Looking for a stack is not asked to stop. -/
theorem stack_genuine (id : SegmentId) : Genuine (heap.stack id) := by
  unfold stack
  split
  · trivial
  · exact fun _ => nofun

/-- Looking for local variables is not asked to stop. -/
theorem locals_genuine (id : SegmentId) : Genuine (heap.locals id) := by
  unfold locals
  split
  · trivial
  · exact fun _ => nofun

/-- Looking for an object is not asked to stop. -/
theorem object_genuine (address : Address) : Genuine (heap.object address) := by
  unfold object
  split
  · trivial
  · exact fun _ => nofun

/-- Looking at an address is not asked to stop. -/
theorem dereference_genuine (address : Address) : Genuine (heap.dereference address) := by
  -- An address that leads nowhere is invalid.
  unfold dereference
  split
  · trivial
  · exact invalid_isGenuine _ _

/-- Looking for a list is not asked to stop. -/
theorem list_genuine (address : Address) : Genuine (heap.list address) := by
  unfold list
  split
  · trivial
  · exact invalid_isGenuine _ _

/-- Looking for a node is not asked to stop. -/
theorem node_genuine (address : Address) : Genuine (heap.node address) := by
  unfold node
  split
  · trivial
  · exact invalid_isGenuine _ _

/-- Following the nodes of a list is not asked to stop. -/
theorem nodesFrom_genuine (list : Address) (limit : Nat) (current : Address)
    (found : Array Address) : Genuine (heap.nodesFrom list limit current found) := by
  induction limit generalizing current found with
  | zero =>
    unfold nodesFrom
    -- A failure is one to read a node.
    split <;> trivial
  | succ limit ih =>
    unfold nodesFrom
    split
    · trivial
    · exact (node_genuine current).bind fun node _ => ih node.succ _

/-- Listing the nodes of a list is not asked to stop. -/
theorem listNodes_genuine (list : Address) : Genuine (heap.listNodes list) :=
  (list_genuine list).bind fun _ _ => nodesFrom_genuine _ _ _ _

/-- Reading a property is not asked to stop. -/
theorem readProperty_genuine (address : Address) (index : Nat) :
    Genuine (heap.readProperty address index) := by
  -- The object may be missing, or the property.
  refine (object_genuine address).bind fun object _ => ?_
  split
  · trivial
  · exact fun _ => nofun

/-- Replacing a property is not asked to stop. -/
theorem writeProperty_genuine (address : Address) (index : Nat) (value : Address) :
    Genuine (heap.writeProperty address index value) := by
  -- The object may be missing, or the property.
  refine (object_genuine address).bind fun object _ => ?_
  split
  · trivial
  · exact fun _ => nofun

/-- Reading a value is not asked to stop. -/
theorem readValue_genuine (address : Address) : Genuine (heap.readValue address) := by
  refine (dereference_genuine address).bind fun view _ => ?_
  -- Values and bytes may be too few, anything else has no value.
  split
  · split
    · trivial
    · exact invalid_isGenuine _ _
  · split
    · trivial
    · exact invalid_isGenuine _ _
  · exact invalid_isGenuine _ _

/-- Reading bytes is not asked to stop. -/
theorem readBytes_genuine (address : Address) (count : Nat) :
    Genuine (heap.readBytes address count) := by
  -- The address may be invalid, show no bytes, or show too few.
  refine (dereference_genuine address).bind fun view _ => ?_
  split
  · split
    · trivial
    · exact invalid_isGenuine _ _
  · exact invalid_isGenuine _ _

/-- Reading a text is not asked to stop. -/
theorem readString_genuine (address : Address) : Genuine (heap.readString address) := by
  -- Only finding the region can fail; cutting the text out of it cannot.
  have region : Genuine (heap.textRegion address) := by
    refine (dereference_genuine address).bind fun view _ => ?_
    split
    · trivial
    · exact invalid_isGenuine _ _
  exact region.map

/-- Writing bytes is not asked to stop. -/
theorem writeBytes_genuine (address : Address) (data : Bytes) :
    Genuine (heap.writeBytes address data) := by
  -- A segment takes the bytes or the address is invalid.
  unfold writeBytes
  split
  · trivial
  · exact invalid_isGenuine _ _

/-- Storing a value is not asked to stop. -/
theorem writeValue_genuine (address value : Address) :
    Genuine (heap.writeValue address value) := by
  -- Words are written as bytes; anything else takes the value or is invalid.
  unfold writeValue
  split
  · exact writeBytes_genuine _ _
  · split
    · trivial
    · exact invalid_isGenuine _ _

/-- Asking along the chain of superclasses is not asked to stop. -/
theorem search_genuine (receiver : Address) (selector : UInt16) (limit : Nat) (current : Address) :
    Genuine (heap.search receiver selector limit current) := by
  induction limit generalizing current with
  | zero => trivial
  | succ limit ih =>
    refine (object_genuine current).bind fun object _ => ?_
    -- The chain goes on only from an object without an answer to another one.
    split
    · trivial
    · split
      · trivial
      · split
        · trivial
        · split
          · split
            · trivial
            · exact ih _
          · trivial

end Heap

namespace Script

/-- Reading an object of a script is not asked to stop. -/
theorem instantiateObject_genuine (script : Script) (version : Version) (offset : UInt16) :
    Genuine (script.instantiateObject version offset) := by
  unfold instantiateObject
  split
  · trivial
  · -- An object that is not there yet is read, and may be to blame.
    have read := @Object.results_parse ⟨script.number, script.data⟩ version script.segment
      script.scriptSize offset.toNat
    exact (read.weaken fun _ blamed => blamed.isGenuine).bind fun _ _ => trivial

/-- Loading a script is not asked to stop. -/
theorem load_genuine (version : Version) (number : UInt16) (segment : SegmentId)
    (bytes : Bytes) (heap : Option Bytes) (journal : Journal) :
    Leads (load version number segment bytes heap) journal
      (Either (fun _ _ => True) fun fault _ => fault.IsGenuine) := by
  have sized : Genuine (version.layout.bufferSize number bytes heap) :=
    ((Layout.results_bufferSize version number bytes heap).mono fun _ _ => trivial).weaken
      fun _ unloadable => unloadable.isGenuine
  have objects (bare : Script) (bases : Array Nat) : Genuine (bare.withObjects version bases) :=
    .foldlM trivial fun script base _ =>
      (script.instantiateObject_genuine version (UInt16.ofNat base)).bind fun _ _ => trivial
  -- Every stage of loading fails with a fault of the resource.
  refine sized.leads_bind fun size _ => ?_
  split
  · exact fun _ => nofun
  · rw [leads_bind]
    apply (Outline.leads_outline ..).either
    · rintro ⟨parts, data⟩ between -
      exact (objects _ _).leads_bind fun script _ => trivial
    · exact fun _ _ blamed => blamed.isGenuine

end Script

end AdventureVm
