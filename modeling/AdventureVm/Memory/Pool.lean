/-! Pools of records of one kind, named by the slot they occupy. -/

namespace AdventureVm

/-- A growing row of slots in which freed slots are taken again before the row grows. -/
structure Pool (α : Type) where
  /-- The slots; an empty one waits to be taken again. -/
  slots : Array (Option α) := #[]
  /-- The empty slots, most recently freed first. -/
  vacant : List Nat := []
  /-- The number of occupied slots. -/
  used : Nat := 0
deriving Repr, Inhabited

namespace Pool

variable {α : Type}

/-- An offset has sixteen bits, so no pool has more slots than this. -/
def maxSlots : Nat := 65536

/-- The record in a slot. -/
def get? (pool : Pool α) (index : Nat) : Option α :=
  pool.slots[index]?.join

/-- The slot holds a record. -/
def isLive (pool : Pool α) (index : Nat) : Bool :=
  (pool.get? index).isSome

/-- The slot of the next record: the one freed last, else a new one while the row can grow. -/
def next? (pool : Pool α) : Option Nat :=
  match pool.vacant with
  | index :: _ => some index
  | [] => if pool.slots.size < maxSlots then some pool.slots.size else none

/-- Puts a record into the slot that is next. -/
def occupy (pool : Pool α) (value : α) : Pool α :=
  match pool.vacant with
  | index :: rest =>
    { slots := pool.slots.setIfInBounds index (some value), vacant := rest, used := pool.used + 1 }
  | [] => { slots := pool.slots.push (some value), vacant := [], used := pool.used + 1 }

/-- Stores a record and names its slot; there is no answer once every slot is taken. -/
def alloc (pool : Pool α) (value : α) : Option (Nat × Pool α) :=
  pool.next?.map fun index => (index, pool.occupy value)

/-- Empties a slot that holds a record. -/
def release (pool : Pool α) (index : Nat) : Pool α :=
  { slots := pool.slots.setIfInBounds index none
    -- The slot freed last is the one taken next.
    vacant := index :: pool.vacant
    used := pool.used - 1 }

/-- Gives up a record and its slot; there is no answer when the slot holds none. -/
def free (pool : Pool α) (index : Nat) : Option (α × Pool α) :=
  (pool.get? index).map fun value => (value, pool.release index)

/-- Changes the record in a slot, if there is one. -/
def modify (pool : Pool α) (index : Nat) (change : α → α) : Pool α :=
  { pool with slots := pool.slots.modify index (Option.map change) }

/-- The number of slots, occupied or not. -/
def capacity (pool : Pool α) : Nat :=
  pool.slots.size

/-- The slots that hold a record, in increasing order. -/
def liveIndices (pool : Pool α) : List Nat :=
  (List.range pool.slots.size).filter pool.isLive

end Pool

end AdventureVm
