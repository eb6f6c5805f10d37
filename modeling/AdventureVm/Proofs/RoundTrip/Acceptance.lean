import AdventureVm.Proofs.RoundTrip.Identity

/-!
Which built scripts can be loaded.

In memory, a script of the first format is followed by room for its local variables. Building only
looks at the size of the resource, so a script with very many local variables is built and then not
loaded.
-/

namespace AdventureVm

namespace ScriptDefinition

variable {definition : ScriptDefinition} {bytes : Bytes} {heap : Option Bytes}

/-- A resource of the first format that does not fit a segment in memory is refused. -/
theorem Sci0Built.load_refused {code : Bytes} {exports : List Cell} {drafts : List Draft}
    {locals : List Cell} (version : definition.version = .sci0)
    (built : definition.Sci0Built bytes code exports drafts locals) (small : bytes.size < 65536)
    (crowded : 65536 < bytes.size + 2 * locals.length) (segment : SegmentId) (journal : Journal) :
    (Script.load definition.version definition.number segment bytes none).run journal =
      (.error (.scriptCorrupt definition.number "size"
        s!"{bytes.size + 2 * locals.length} bytes do not fit a segment"), journal) := by
  -- The size is looked at before anything else is read.
  unfold Script.load
  rw [Logged.run_quiet_bind (built.bufferSize_eq version small),
    if_pos (show _ > segmentLimit from crowded)]
  rfl

/--
What was built can be loaded into any segment, unless the first format leaves no room.

The room is that for the local variables behind the resource; without it the resource is refused.
-/
theorem loads_unless_crowded (made : definition.build = .ok (bytes, heap)) (segment : SegmentId)
    (journal : Journal) :
    ((definition.version = .sci0 → bytes.size + 2 * definition.locals.length ≤ 65536) →
      ∃ script locals,
        (Script.load definition.version definition.number segment bytes heap).run journal =
          (.ok (script, locals), journal)) ∧
    (definition.version = .sci0 → 65536 < bytes.size + 2 * definition.locals.length →
      (Script.load definition.version definition.number segment bytes heap).run journal =
        (.error (.scriptCorrupt definition.number "size"
            s!"{bytes.size + 2 * definition.locals.length} bytes do not fit a segment"),
          journal)) := by
  cases built_of_build made with
  | sci0 version built small =>
    -- Every local variable has a word in the resource, so there are as many words as variables.
    rw [built.valued.length_eq]
    refine ⟨fun fits => ?_, fun _ crowded => built.load_refused version small crowded ..⟩
    obtain ⟨script, _, loaded, _⟩ := built.run_load version small (fits version) segment journal
    exact ⟨script, _, loaded⟩
  | sci11 version built small =>
    -- The second format adds no room in memory, so what could be built fits.
    refine ⟨fun _ => ?_, by simp [version]⟩
    obtain ⟨script, loaded, _⟩ := built.run_load version small segment journal
    exact ⟨script, _, loaded⟩

/-- The script with the class and the instance can be loaded. -/
theorem loads_lamp :
    lamp.build = .ok (lampBytes, none) ∧ ∃ script locals,
      (Script.load .sci0 7 3 lampBytes none).run #[] = (.ok (script, locals), #[]) := by
  -- Building and the room are computed; that loading succeeds follows.
  have made : lamp.build = .ok (lampBytes, none) := by decide +kernel
  have room : lampBytes.size + 2 * lamp.locals.length ≤ 65536 := by decide +kernel
  exact ⟨made, (loads_unless_crowded made 3 #[]).1 fun _ => room⟩

/-- A script of the first format with nothing but local variables. -/
def ofLocals (count : Nat) : ScriptDefinition where
  version := .sci0
  number := 1
  locals := List.replicate count (.number 0)

/-- Words without an address are not among the addresses. -/
theorem pointers_replicate (start count : Nat) (word : UInt16) :
    Cell.pointers start (List.replicate count ⟨word, false⟩) = [] := by
  -- Induction on the words, none of which is an address.
  induction count generalizing start with
  | zero => rfl
  | succ count ih => exact ih (start + 2)

/-- The resource of a script with nothing but local variables. -/
theorem buildSci0_ofLocals {count : Nat} (positive : 0 < count) :
    (ofLocals count).buildSci0 = .ok (plainBytes [count, 0] ++
      blockBytes .strings #[] ++ blockBytes .code #[] ++
      blockBytes .localVars (Cell.bytes (List.replicate count ⟨0, false⟩)) ++
      blockBytes .pointers (plainBytes [0]) ++ plainBytes [0]) := by
  have texts : textsBytes (ofLocals count).texts = #[] := by
    simp [ScriptDefinition.texts, ofLocals, Assembly.texts, textsBytes]
  have linked : (ofLocals count).assembly.link (ofLocals count).sci0CodeBase false
      (ofLocals count).sci0Places = .ok #[] := rfl
  have valued : (ofLocals count).locals.mapM (ofLocals count).sci0Places.cell =
      .ok (List.replicate count ⟨0, false⟩) := by
    rw [ofLocals, mapM_eq_ok, List.forall₂_iff_get]
    refine ⟨by simp, fun index _ _ => ?_⟩
    simp [Places.cell]
  have occupied : count ≠ 0 := by omega
  -- Without texts and code their blocks are empty.
  simp only [buildSci0, valued, texts, linked, ok_bind]
  simp [ofLocals, padded, pointers_replicate, occupied, pure, Except.pure, bind, Except.bind,
    BlockKind.toWord]

/-- Local variables that fit a segment once but not twice are built and then refused. -/
theorem load_ofLocals {count : Nat} (once : 24 + 2 * count ≤ 65535)
    (twice : 65536 < 24 + 2 * count + 2 * count) :
    ∃ bytes, (ofLocals count).build = .ok (bytes, none) ∧ ∀ segment journal,
      (Script.load .sci0 1 segment bytes none).run journal =
        (.error (.scriptCorrupt 1 "size"
          s!"{24 + 2 * count + 2 * count} bytes do not fit a segment"), journal) := by
  -- Each variable takes two bytes in the resource and two more behind it in memory.
  have sized : ∃ bytes, (ofLocals count).buildSci0 = .ok bytes ∧ bytes.size = 24 + 2 * count := by
    refine ⟨_, buildSci0_ofLocals (by omega), ?_⟩
    simp
    omega
  obtain ⟨bytes, made, size⟩ := sized
  obtain ⟨code, exports, drafts, locals, built⟩ := buildSci0_eq_ok rfl made
  have length : locals.length = count := by
    rw [← built.valued.length_eq, ofLocals, List.length_replicate]
  refine ⟨bytes, ?_, fun segment journal => ?_⟩
  · have small : ¬ bytes.size + 0 > 65535 := by omega
    rw [build, resources, show (ofLocals count).version = .sci0 from rfl, made]
    exact if_neg small
  · have refused := built.load_refused rfl (by omega) (by omega) segment journal
    rwa [size, length] at refused

/-- Local variables that take half of a segment are built, and then there is no room for them. -/
theorem ofLocals_refused :
    ∃ bytes, (ofLocals 16379).build = .ok (bytes, none) ∧ ∀ segment journal,
      (Script.load .sci0 1 segment bytes none).run journal =
        (.error (.scriptCorrupt 1 "size" "65540 bytes do not fit a segment"), journal) :=
  load_ofLocals (by decide) (by decide)

end ScriptDefinition

end AdventureVm
