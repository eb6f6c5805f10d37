import AdventureVm.Definition.Build
import AdventureVm.Proofs.RoundTrip.Sci0
import AdventureVm.Proofs.RoundTrip.Sci11

/-! Building a script and loading it again changes nothing about it. -/

namespace AdventureVm

namespace ScriptDefinition

variable {definition : ScriptDefinition} {bytes : Bytes} {heap : Option Bytes}

/-- The place at which the code starts, in either format. -/
def codeBase (definition : ScriptDefinition) : Nat :=
  match definition.version with
  | .sci0 => definition.sci0CodeBase
  | .sci11 => definition.sci11CodeBase

/-- What is built fits a segment. -/
theorem build_eq_ok (made : definition.build = .ok (bytes, heap)) :
    definition.resources = .ok (bytes, heap) ∧ bytes.size + heap.elim 0 (·.size + 1) ≤ 65535 := by
  -- The size is checked when both parts have been made.
  obtain ⟨⟨script, rest⟩, parts, sized⟩ := bind_eq_ok.mp made
  simp only at sized
  split at sized
  · cases sized
  · cases sized
    exact ⟨parts, by omega⟩

/-- The code of a script of the first format starts at the place of that format. -/
theorem codeBase_sci0 (version : definition.version = .sci0) :
    definition.codeBase = definition.sci0CodeBase := by
  rw [codeBase, version]

/-- The code of a script of the second format starts at the place of that format. -/
theorem codeBase_sci11 (version : definition.version = .sci11) :
    definition.codeBase = definition.sci11CodeBase := by
  rw [codeBase, version]

/-- A resource was built from its parts, in the format that the definition asks for. -/
inductive Built (definition : ScriptDefinition) (bytes : Bytes) : Option Bytes → Prop
  | sci0 {code : Bytes} {exports locals : List Cell} {drafts : List Draft}
      (version : definition.version = .sci0)
      (built : definition.Sci0Built bytes code exports drafts locals)
      (small : bytes.size < 65536) : Built definition bytes none
  | sci11 {part code : Bytes} {exports locals : List Cell} {drafts : List Draft}
      (version : definition.version = .sci11)
      (built : definition.Sci11Built bytes part code exports drafts locals)
      (small : bytes.size + part.size < 65535) : Built definition bytes (some part)

/-- What could be built was built from its parts, and they fit a segment together. -/
theorem built_of_build (made : definition.build = .ok (bytes, heap)) :
    definition.Built bytes heap := by
  obtain ⟨parts, total⟩ := build_eq_ok made
  -- The first format is built in one part, the second in two.
  cases version : definition.version with
  | sci0 =>
    simp only [resources, version] at parts
    obtain ⟨script, scriptMade, same⟩ := bind_eq_ok.mp parts
    cases same
    obtain ⟨code, exports, drafts, locals, built⟩ := buildSci0_eq_ok version scriptMade
    exact .sci0 version built (by omega)
  | sci11 =>
    simp only [resources, version] at parts
    obtain ⟨script, scriptMade, later⟩ := bind_eq_ok.mp parts
    obtain ⟨heapPart, heapMade, same⟩ := bind_eq_ok.mp later
    cases same
    obtain ⟨code, exports, drafts, locals, built⟩ := buildSci11_eq_ok version scriptMade heapMade
    rw [Option.elim_some] at total
    exact .sci11 version built (by omega)

/--
Loading what was built from a definition gives the script that the definition describes.

A text with a zero in it would end there, and in the first format the local variables need room
behind the script.
-/
theorem load_build (made : definition.build = .ok (bytes, heap))
    (clean : ∀ text ∈ definition.texts, 0 ∉ text.toUTF8.data)
    (room : definition.version = .sci0 → bytes.size + 2 * definition.locals.length ≤ 65536)
    (segment : SegmentId) (journal : Journal) :
    ∃ script locals,
      (Script.load definition.version definition.number segment bytes heap).run journal =
        (.ok (script, locals), journal) ∧
      definition.Restored segment definition.codeBase script locals := by
  -- Each format is built and read in its own way.
  cases built_of_build made with
  | sci0 version built small =>
    have fits := room version
    rw [built.valued.length_eq] at fits
    rw [codeBase_sci0 version]
    exact built.load_restored version clean small fits segment journal
  | sci11 version built small =>
    rw [codeBase_sci11 version]
    exact built.load_restored version clean small segment journal

/-- A script with a class, an instance that refers to it, a method, a variable and a synonym. -/
def lamp : ScriptDefinition where
  version := .sci0
  number := 7
  assembly := { code := #[0x48], labels := #[some 0] }
  objects := [
    { ObjectDefinition.ofClass "Thing" 1 with
      properties := [(40, .number 5)], methods := [(41, 0)] },
    { ObjectDefinition.ofInstance "lamp" 1 with
      properties := [(40, .object "Thing"), (42, .text "on")] }]
  locals := [.text "on", .object "lamp", .number 3]
  exports := [.code 0, .object "lamp"]
  synonyms := [(8, 9)]

/-- The resource of that script. -/
def lampBytes : Bytes :=
  #[
    3, 0, 0, 0, 7, 0, 10, 0, 2, 0, 112, 0, 74, 0, 3, 0, 8, 0, 8, 0, 9, 0, 6, 0, 40, 0, 52, 18,
    0, 0, 20, 0, 5, 0, 1, 0, 255, 255, 0, 128, 94, 0, 5, 0, 0, 16, 1, 16, 2, 16, 3, 16, 40, 0,
    1, 0, 41, 0, 0, 0, 112, 0, 1, 0, 28, 0, 52, 18, 0, 0, 12, 0, 6, 0, 1, 0, 1, 0, 0, 0, 100, 0,
    34, 0, 105, 0, 0, 0, 0, 0, 5, 0, 18, 0, 84, 104, 105, 110, 103, 0, 108, 97, 109, 112, 0,
    111, 110, 0, 2, 0, 6, 0, 72, 0, 10, 0, 10, 0, 105, 0, 74, 0, 3, 0, 8, 0, 18, 0, 6, 0, 40, 0,
    80, 0, 82, 0, 84, 0, 118, 0, 120, 0, 0, 0]

/-- The script with the class and the instance is loaded as it was built. -/
theorem load_build_lamp :
    lamp.build = .ok (lampBytes, none) ∧ ∃ script locals,
      (Script.load .sci0 7 2 lampBytes none).run #[] = (.ok (script, locals), #[]) ∧
        lamp.Restored 2 lamp.codeBase script locals := by
  -- The conditions are computed; what is loaded is told by the general theorem.
  have made : lamp.build = .ok (lampBytes, none) := by decide +kernel
  have clean : ∀ text ∈ lamp.texts, 0 ∉ text.toUTF8.data := by decide +kernel
  have room : lampBytes.size + 2 * lamp.locals.length ≤ 65536 := by decide +kernel
  exact ⟨made, load_build made clean (fun _ => room) 2 #[]⟩

end ScriptDefinition

end AdventureVm
