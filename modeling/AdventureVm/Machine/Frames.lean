import AdventureVm.Address

/-! Frames, and the stack they form. -/

namespace AdventureVm

/-- What a frame stands for. -/
inductive FrameKind where
  /-- A procedure. -/
  | call
  /-- A method. -/
  | method
  /-- The access to a property that a message asks for. -/
  | variable (index : Nat)
deriving Repr, DecidableEq, Inhabited

/-- One activity that has been started and has not come to its end. -/
structure Frame where
  /-- What the frame stands for. -/
  kind : FrameKind
  /-- The next instruction. -/
  pc : Address := .null
  /-- The first free slot of the operand stack. -/
  sp : Nat := 0
  /-- The slot of the first temporary variable. -/
  fp : Nat := 0
  /-- The slot of the argument count, after which the arguments come. -/
  argp : Nat := 0
  /-- The number of arguments. -/
  argc : Nat := 0
  /-- The current object. -/
  objp : Address := .null
  /-- The object that the message was sent to. -/
  sendp : Address := .null
  /-- The local variables, or zero. -/
  locals : SegmentId := 0
  /-- The selector of the message. -/
  selector : Option UInt16 := none
deriving Repr, DecidableEq, Inhabited

/-- The frames, together with their number. -/
structure FrameStack where
  /-- The frames, the current one first. -/
  list : List Frame
  /-- The number of frames, which is kept so that nobody has to count them. -/
  size : Nat
  /-- The number is right. -/
  size_eq : size = list.length
deriving Repr, DecidableEq

namespace FrameStack

/-- The stack of the given frames, the current one first. -/
def ofList (list : List Frame) : FrameStack :=
  ⟨list, list.length, rfl⟩

/-- No frames. -/
def empty : FrameStack :=
  ofList []

instance : Inhabited FrameStack := ⟨empty⟩

/-- Stacks of the same frames are equal. -/
@[ext] theorem ext {left right : FrameStack} (same : left.list = right.list) : left = right := by
  -- The number depends on the frames, and the proof about it is unique.
  obtain ⟨list, size, counted⟩ := left
  obtain ⟨_, _, countedToo⟩ := right
  subst same counted countedToo
  rfl

/-- Starts a frame. -/
def push (frames : FrameStack) (frame : Frame) : FrameStack where
  list := frame :: frames.list
  size := frames.size + 1
  size_eq := by simp [frames.size_eq]

/-- Ends the current frame, if there is one. -/
def pop (frames : FrameStack) : FrameStack where
  list := frames.list.tail
  size := frames.size - 1
  size_eq := by simp [frames.size_eq]

/-- Changes the current frame, if there is one. -/
def modifyCurrent (frames : FrameStack) (change : Frame → Frame) : FrameStack where
  list := frames.list.modifyHead change
  size := frames.size
  size_eq := by simp [frames.size_eq]

/-- Changes the frame below the current one, if there is one. -/
def modifyCaller (frames : FrameStack) (change : Frame → Frame) : FrameStack where
  list := frames.list.modify 1 change
  size := frames.size
  size_eq := by simp [frames.size_eq]

/-- Drops frames until at most so many are left. -/
def truncate (frames : FrameStack) (depth : Nat) : FrameStack where
  list := frames.list.drop (frames.size - depth)
  size := min frames.size depth
  size_eq := by
    -- What is dropped is what there is too much.
    simp only [List.length_drop, frames.size_eq]
    omega

/-- A frame that is started comes before all others. -/
@[simp] theorem list_push (frames : FrameStack) (frame : Frame) :
    (frames.push frame).list = frame :: frames.list := rfl

/-- Ending a frame leaves the others. -/
@[simp] theorem list_pop (frames : FrameStack) : frames.pop.list = frames.list.tail := rfl

/-- A frame that is started and ended leaves no trace. -/
@[simp] theorem pop_push (frames : FrameStack) (frame : Frame) :
    (frames.push frame).pop = frames := by
  -- Stacks are equal when their frames are.
  ext1
  rfl

/-- Only the current frame is changed. -/
@[simp] theorem list_modifyCurrent (frames : FrameStack) (change : Frame → Frame) :
    (frames.modifyCurrent change).list = frames.list.modifyHead change := rfl

/-- Only the frame below the current one is changed. -/
@[simp] theorem list_modifyCaller (frames : FrameStack) (change : Frame → Frame) :
    (frames.modifyCaller change).list = frames.list.modify 1 change := rfl

/-- Frames that were started since are dropped, and no others. -/
theorem truncate_append {frames below : FrameStack} {above : List Frame}
    (split : frames.list = above ++ below.list) : frames.truncate below.size = below := by
  -- What is dropped is as long as what was added.
  ext1
  have added : frames.size - below.size = above.length := by
    rw [frames.size_eq, below.size_eq, split, List.length_append]
    omega
  simp [truncate, added, split]

/-- Nothing is dropped when there are few enough frames. -/
theorem truncate_of_le {frames : FrameStack} {depth : Nat} (few : frames.size ≤ depth) :
    frames.truncate depth = frames := by
  -- The number to drop is zero.
  ext1
  simp [truncate, Nat.sub_eq_zero_of_le few]

end FrameStack

end AdventureVm
