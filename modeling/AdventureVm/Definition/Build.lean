import AdventureVm.Definition.Sci0
import AdventureVm.Definition.Sci11

/-! Building the resources of a script in either format. -/

namespace AdventureVm

namespace ScriptDefinition

/-- The script resource and, in the second format, the heap resource. -/
def resources (definition : ScriptDefinition) : Except BuildError (Bytes × Option Bytes) :=
  match definition.version with
  | .sci0 => do return (← definition.buildSci0, none)
  | .sci11 => do
    let script ← definition.sci11Script
    let heap ← definition.sci11Heap
    return (script, some heap)

/-- The resources, unless they are too large for one segment. -/
def build (definition : ScriptDefinition) : Except BuildError (Bytes × Option Bytes) := do
  let (script, heap) ← definition.resources
  -- The heap part may need a byte of padding in front of it.
  let total := script.size + heap.elim 0 (·.size + 1)
  if total > 65535 then
    throw (.tooLarge total)
  return (script, heap)

end ScriptDefinition

end AdventureVm
