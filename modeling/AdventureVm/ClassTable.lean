import AdventureVm.Address

/-! The table of classes by species. -/

namespace AdventureVm

/-- What is known about the class of one species. -/
structure ClassEntry where
  /-- The script that defines the class. -/
  script : Option UInt16 := none
  /-- The class itself, while its script is in memory. -/
  address : Option Address := none
deriving Repr, DecidableEq, Inhabited

/-- The known classes; the position is the species. -/
structure ClassTable where
  /-- The entries from species zero on. -/
  entries : Array ClassEntry := #[]
deriving Repr, DecidableEq, Inhabited

namespace ClassTable

/-- The entry of a species, once the table reaches that far. -/
def get? (table : ClassTable) (species : UInt16) : Option ClassEntry :=
  table.entries[species.toNat]?

/-- The class of a species, while it is in memory. -/
def address? (table : ClassTable) (species : UInt16) : Option Address :=
  (table.get? species).bind (·.address)

/-- The script that defines the class of a species. -/
def script? (table : ClassTable) (species : UInt16) : Option UInt16 :=
  (table.get? species).bind (·.script)

/-- Changes the entry of a species; a table that is too short first grows by empty entries. -/
def modify (table : ClassTable) (species : UInt16) (change : ClassEntry → ClassEntry) :
    ClassTable :=
  let missing := species.toNat + 1 - table.entries.size
  ⟨(table.entries ++ Array.replicate missing ({} : ClassEntry)).modify species.toNat change⟩

/-- A table that knows only which script defines which species; the last mention counts. -/
def ofScripts (pairs : List (UInt16 × UInt16)) : ClassTable :=
  pairs.foldl (fun table (species, script) =>
    table.modify species fun entry => { entry with script := some script }) ({} : ClassTable)

/-- Records where the class of a species is and which script defines it. -/
def register (table : ClassTable) (species script : UInt16) (address : Address) : ClassTable :=
  table.modify species fun _ => ⟨some script, some address⟩

/-- Forgets the classes that lie in a segment. -/
def forget (table : ClassTable) (segment : SegmentId) : ClassTable :=
  ⟨table.entries.map fun entry =>
    if entry.address.any (·.segment == segment) then { entry with address := none } else entry⟩

/-- The number of entries, empty ones included. -/
def size (table : ClassTable) : Nat :=
  table.entries.size

end ClassTable

end AdventureVm
