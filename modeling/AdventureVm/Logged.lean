import AdventureVm.Fault
import AdventureVm.Journal

/-! Computations that keep a journal and may fail. -/

namespace AdventureVm

/-- A computation that may fail; what it recorded before a failure stays recorded. -/
abbrev Logged := ExceptT Fault (StateM Journal)

/-- Adds a record to the journal. -/
def Logged.note (level : Level) (text : String) : Logged Unit :=
  modify fun journal => journal.push (.plain level text)

/-- A computation that records nothing. -/
def Logged.quiet {α : Type} (result : Except Fault α) : Logged α :=
  ExceptT.mk (pure result)

end AdventureVm
