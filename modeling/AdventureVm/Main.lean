import AdventureVm.Command.Arguments

/-! The command line. -/

namespace AdventureVm

/-- The files of a directory; what cannot be read counts as absent. -/
def readDirectory (directory : String) : IO (List (String × Bytes)) := do
  let entries ← try (← IO.FS.realPath directory).readDir catch _ => pure #[]
  let mut files := #[]
  for entry in entries do
    try
      let content ← IO.FS.readBinFile entry.path
      files := files.push (entry.fileName, content.data)
    catch _ => pure ()
  return files.toList

/-- Writes a report and answers its exit code. -/
def Report.write (report : Report) : IO UInt32 := do
  for message in report.journal.lines .warn ++ report.errors do
    IO.eprintln message
  for message in report.output do
    IO.println message
  return UInt32.ofNat report.exit

end AdventureVm

/-- Does what the command line says. -/
def main (words : List String) : IO UInt32 := do
  match AdventureVm.Arguments.ofWords words >>= AdventureVm.Arguments.command with
  | .error message =>
    IO.eprintln s!"error: {message}"
    return 2
  | .ok (command, directory) =>
    (command.perform directory (← AdventureVm.readDirectory directory)).write
