import AdventureVm.Machine.Run

/-! What the command line can do with a directory of resources. -/

namespace AdventureVm

/-- A wish of the user. -/
inductive Command where
  /-- Sends a selector, given by name or number, to the game object. -/
  | run (config : Config) (selector : String)
  /-- Lists the code of a script. -/
  | disasm (version : Version) (number : UInt16)
deriving Repr, Inhabited

/-- What the user gets. -/
structure Report where
  /-- The exit code. -/
  exit : Nat
  /-- The messages of the standard output, one after the other. -/
  output : List String := []
  /-- The messages of the standard error output. -/
  errors : List String := []
  /-- What was recorded. -/
  journal : Journal := #[]
deriving Repr, DecidableEq, Inhabited

namespace Report

/-- The lines of the standard output. -/
def outputLines (report : Report) : List String :=
  writtenLines report.output

/-- The lines of the standard error output. -/
def errorLines (report : Report) : List String :=
  writtenLines report.errors

/-- The report of a wish that cannot be fulfilled. -/
def failure (message : String) (journal : Journal) : Report :=
  { exit := 1, errors := [message], journal }

/-- The two lines about a run that has ended. -/
def summary (outcome : RunOutcome) (stats : HeapStats) : List String :=
  [s!"{outcome.state.name} after {outcome.steps} instructions, acc = {outcome.acc}",
    s!"heap: {stats.segments} segments, {stats.scripts} scripts, {stats.clones} clones, " ++
      s!"{stats.lists} lists, {stats.nodes} nodes"]

/-- The report of a run that has ended; one that was stopped has an exit code of its own. -/
def ofRun (directory : String) (outcome : RunOutcome) (store : Store) : Report :=
  let summary := summary outcome store.heap.stats
  -- A failure is told apart by whether it arose from loading a script.
  match outcome.fault with
  | some fault =>
    let cause :=
      if fault.isLoadError then s!"Error loading a script from {directory}: {fault.message}"
      else s!"Error: {fault.message}"
    { exit := 1, errors := summary ++ [cause], journal := store.journal }
  | none =>
    { exit := if outcome.state = .halted then 0 else 2, errors := summary
      journal := store.journal }

/-- The lines about a script that come before its code. -/
def scriptHeader (heap : Heap) (script : Script) : List String :=
  [s!"; script {script.number} ({script.size} bytes)"] ++
    script.exports.toList.mapIdx (fun index offset =>
      s!"; export {index}: " ++ hexText 4 offset.toNat) ++
    script.objects.toList.map fun object =>
      let kind := if object.isClass then "class" else "object"
      s!"; {kind} {heap.objectName object.pos} at " ++ hexText 4 object.pos.offset.toNat

end Report

namespace Command

/-- The selector that a user means. -/
def selector? (resources : Resources) (text : String) : Option UInt16 :=
  (parseWord? text).or (resources.selectorNumber? text)

/-- Sends a selector to the game object. -/
def runGame (config : Config) (selector directory : String) (resources : Resources) : Report :=
  match Machine.start config resources with
  | .error fault => .failure s!"Error starting interpreter: {fault.message}" #[]
  | .ok machine =>
    match selector? resources selector with
    | none => .failure s!"Unknown selector '{selector}'" machine.store.journal
    | some number =>
      match Machine.gameObject machine with
      | none => { exit := 2 }
      | some (.error fault, machine) =>
        .failure s!"Error loading game object from {directory}: {fault.message}"
          machine.store.journal
      | some (.ok game, machine) =>
        match Machine.executeMessage game number [] machine with
        | some (.ok outcome, machine) => .ofRun directory outcome machine.store
        | _ => { exit := 2 }

/-- Lists the code of a script. -/
def listScript (version : Version) (number : UInt16) (resources : Resources) : Report :=
  let empty : Store := { heap := { version, classes := .ofScripts resources.classScripts } }
  match (Store.loadScript resources number).run empty with
  | (.error fault, store) =>
    .failure s!"Error loading script {number}: {fault.message}" store.journal
  | (.ok id, store) =>
    match store.heap.script id with
    | .error _ => { exit := 1, journal := store.journal }
    | .ok script =>
      let symbols : Symbols :=
        { kernel := resources.kernelNames, selectors := resources.selectorNames }
      { exit := 0
        output := Report.scriptHeader store.heap script ++ script.listing symbols
        journal := store.journal }

/-- Fulfils a wish, given the name and the files of the directory. -/
def perform (command : Command) (directory : String) (files : List (String × Bytes)) : Report :=
  match command with
  | run config selector => runGame config selector directory (.ofFiles files)
  | disasm version number => listScript version number (.ofFiles files)

end Command

end AdventureVm
