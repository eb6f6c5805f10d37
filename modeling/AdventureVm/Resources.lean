import AdventureVm.Bytes
import AdventureVm.Text

/-! Where scripts and name tables come from. -/

namespace AdventureVm

/-- A game's resources. -/
structure Resources where
  /-- The script resource with a number. -/
  script? : UInt16 → Option Bytes := fun _ => none
  /-- The heap resource with a number, which only the second format has. -/
  heap? : UInt16 → Option Bytes := fun _ => none
  /-- Pairs of a species and the script that defines its class. -/
  classScripts : List (UInt16 × UInt16) := []
  /-- The names of the selectors by number. -/
  selectorNames : Array String := #[]
  /-- The names of the kernel functions by number. -/
  kernelNames : Array String := #[]
deriving Inhabited

namespace Resources

/-- The last value with a key. -/
def lastWith? {κ α : Type} [BEq κ] (key : κ) (entries : List (κ × α)) : Option α :=
  (entries.reverse.find? (·.1 == key)).map (·.2)

/-- Resources held as lists; of two with one number the later counts. -/
def ofLists (scripts heaps : List (UInt16 × Bytes)) (classScripts : List (UInt16 × UInt16))
    (selectorNames kernelNames : Array String) : Resources :=
  { script? := fun number => lastWith? number scripts
    heap? := fun number => lastWith? number heaps
    classScripts, selectorNames, kernelNames }

/-- A number in decimal, with zeros in front up to three digits. -/
def threeDigits (number : UInt16) : String :=
  let digits := toString number.toNat
  String.ofList (List.replicate (3 - digits.length) '0') ++ digits

/-- The lines of a text file without the white space around them; none if it is not UTF-8. -/
def fileLines (content : Option Bytes) : List String :=
  match content.bind fun data => String.fromUTF8? ⟨data⟩ with
  | some text => (lines text).map trim
  | none => []

/-- The species and the script that open a line of the class file. -/
def classPair? (line : String) : Option (UInt16 × UInt16) :=
  match blankSeparated line with
  | species :: script :: _ => do return (← parseWord? species, ← parseWord? script)
  | _ => none

/--
Resources held as files of one directory.

A script is `script.` with three digits, or else its number with the ending `.scr`; a heap has the
ending `.hep`. The text files `selectors.txt` and `kernel.txt` hold a name per line, and each line
of `classes.txt` holds a species and a script; lines that do not are passed over.
-/
def ofFiles (files : List (String × Bytes)) : Resources :=
  -- A directory holds one file of a name.
  let file? (name : String) := lastWith? name files
  { script? := fun number =>
      (file? ("script." ++ threeDigits number)).or (file? s!"{number}.scr")
    heap? := fun number => file? s!"{number}.hep"
    classScripts := (fileLines (file? "classes.txt")).filterMap classPair?
    selectorNames := (fileLines (file? "selectors.txt")).toArray
    kernelNames := (fileLines (file? "kernel.txt")).toArray }

end Resources

end AdventureVm
