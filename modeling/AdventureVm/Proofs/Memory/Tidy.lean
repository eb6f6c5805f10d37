import AdventureVm.Proofs.Memory.Classes
import AdventureVm.Proofs.Memory.Operations

/-! All tables of memory agree: segments, residents, variables, classes and current pools. -/

namespace AdventureVm

namespace Heap

/-- There is an object of a script at the address. -/
def Defines (heap : Heap) (address : Address) : Prop :=
  ∃ script, heap.get? address.segment = some (.script script) ∧ address ∈ script.positions

/-- All tables of memory agree with the segments they speak of. -/
structure Tidy (heap : Heap) : Prop where
  /-- Residents and variables are where they are said to be. -/
  sound : heap.Sound
  /-- Scripts and their objects know their place. -/
  homes : ∀ id script, heap.get? id = some (.script script) → script.IsAtHome id
  /-- The known classes are objects of scripts in memory. -/
  classes : ∀ species address, heap.classes.address? species = some address →
    heap.Defines address
  /-- The current pools are pools in memory. -/
  pools : ∀ kind, heap.pools.get kind = 0 ∨ heap.kind? (heap.pools.get kind) = some kind

variable {heap before after : Heap} {id : SegmentId} {segment : Segment}

/-- A class stays where it is while its script does. -/
theorem Defines.mono {address : Address} (defines : heap.Defines address)
    (kept : ∀ script, heap.get? address.segment = some (.script script) →
      ∃ later, after.get? address.segment = some (.script later) ∧
        later.positions = script.positions) : after.Defines address := by
  -- The object is at one of the positions of the script, and those are the same.
  obtain ⟨script, found, member⟩ := defines
  obtain ⟨later, foundLater, same⟩ := kept script found
  exact ⟨later, foundLater, same ▸ member⟩

namespace Tidy

/-- Memory stays tidy when each segment is replaced by one that can take its place. -/
theorem of_steady (tidy : heap.Tidy) (residents : after.residents = heap.residents)
    (size : after.segments.size = heap.segments.size)
    (steady : ∀ id, Option.Rel Segment.Steady (heap.get? id) (after.get? id))
    (classes : ∀ species address, after.classes.address? species = some address →
      ∃ other, heap.classes.address? other = some address)
    (pools : after.pools = heap.pools) : after.Tidy := by
  have akin : ∀ id, Option.Rel Segment.Akin (heap.get? id) (after.get? id) := by
    intro id
    have related := steady id
    generalize heap.get? id = first at related
    generalize after.get? id = second at related
    cases related with
    | none => exact .none
    | some both => exact .some both.akin
  constructor
  case sound => exact tidy.sound.of_akin residents size akin
  case homes =>
    -- What is a script now was one before, with the same objects.
    intro id script found
    have related := steady id
    rw [found] at related
    cases earlier : heap.get? id with
    | none =>
      rw [earlier] at related
      cases related
    | some segment =>
      rw [earlier] at related
      cases related with
      | some both =>
        obtain ⟨old, rfl, _, sameSegment, _⟩ := both.akin.to_script
        obtain ⟨positions, data⟩ := both.script old script rfl rfl
        have home := tidy.homes id old earlier
        exact ⟨by rw [sameSegment, data]; exact home.place, by rw [positions]; exact home.inside⟩
  -- A class stays where it is defined, since no script lost an object.
  case classes =>
    intro species address known
    obtain ⟨other, knownBefore⟩ := classes species address known
    apply (tidy.classes other address knownBefore).mono
    intro script found
    have related := steady address.segment
    rw [found] at related
    cases later : after.get? address.segment with
    | none =>
      rw [later] at related
      cases related
    | some segment =>
      rw [later] at related
      cases related with
      | some both =>
        obtain ⟨new, rfl, _⟩ := both.akin.of_script
        exact ⟨new, rfl, (both.script script new rfl rfl).1⟩
  -- What is the current pool of a kind is still of that kind.
  case pools =>
    intro kind
    rw [pools]
    refine (tidy.pools kind).imp_right ?_
    intro current
    obtain ⟨segment, found, same⟩ := Option.map_eq_some_iff.mp current
    obtain ⟨other, foundAfter, related⟩ := Segment.akin_after (akin _) found
    rw [kind?, foundAfter, Option.map_some, related.kind_eq, same]

/-- Memory stays tidy when one segment is replaced by one that can take its place. -/
theorem put (tidy : heap.Tidy) {old new : Segment} (found : heap.get? id = some old)
    (steady : old.Steady new) : (heap.put id (some new)).Tidy := by
  -- All other places hold what they held.
  apply tidy.of_steady
  · rfl
  · simp [Heap.put]
  · intro other
    rw [get?_put found]
    split
    · rename_i same
      rw [same, found]
      exact .some steady
    · exact Segment.steady_refl _
  · exact fun species _ known => ⟨species, known⟩
  · rfl

/-- Memory stays tidy when a segment, if there is one, is changed to one that can take its place. -/
theorem modify (tidy : heap.Tidy) {change : Segment → Segment}
    (steady : ∀ segment, heap.get? id = some segment → segment.Steady (change segment)) :
    (heap.modify id change).Tidy := by
  -- Without a segment there nothing changes; otherwise it is replaced.
  cases found : heap.get? id with
  | none =>
    rw [modify_of_none found]
    exact tidy
  | some segment =>
    rw [modify_eq_put found]
    exact tidy.put found (steady segment found)

/-- Memory stays tidy when its table of classes names no new place. -/
theorem withClasses (tidy : heap.Tidy) {classes : ClassTable}
    (known : ∀ species address, classes.address? species = some address →
      heap.Defines address) : ({ heap with classes } : Heap).Tidy :=
  ⟨tidy.sound.of_same rfl rfl, tidy.homes, known, tidy.pools⟩

/-- Memory that holds the same is as tidy. -/
theorem of_alike (tidy : before.Tidy) (sound : after.Sound) (alike : before.Alike after) :
    after.Tidy := by
  refine ⟨sound, ?_, ?_, ?_⟩
  · intro id script found
    rw [alike.places] at found
    exact tidy.homes id script found
  · intro species address known
    rw [alike.classes] at known
    -- The script that a class is known by is in the same place.
    apply (tidy.classes species address known).mono
    intro script found
    exact ⟨script, by rw [alike.places, found], rfl⟩
  · intro kind
    rw [alike.pools, kind?, alike.places]
    exact tidy.pools kind

/-- Memory stays tidy when a segment without objects is put into the next place. -/
theorem insert (tidy : heap.Tidy) (next : heap.nextId? = some id) (loose : segment.IsLoose)
    (bare : ∀ script, segment = .script script → script.IsAtHome id) :
    (heap.insert id segment).Tidy := by
  obtain ⟨atEnd, small, empty, positive⟩ := nextId?_spec tidy.sound.opened next
  -- What was in memory is still there, because the place was empty.
  have kept : ∀ place contents, heap.get? place = some contents →
      (heap.insert id segment).get? place = some contents :=
    fun _ _ found => get?_insert_of_some next found segment
  refine ⟨tidy.sound.insert next loose, ?_, ?_, ?_⟩
  · intro place script found
    -- The new segment comes as a script at home, or as no script.
    rw [get?_insert atEnd] at found
    split at found
    · rename_i here
      rw [here]
      exact bare script (Option.some.inj found)
    · exact tidy.homes place script found
  · intro species address known
    rw [classes_insert] at known
    apply (tidy.classes species address known).mono
    intro script found
    exact ⟨script, kept _ _ found, rfl⟩
  · intro kind
    rw [pools_insert]
    refine (tidy.pools kind).imp_right ?_
    intro current
    obtain ⟨contents, found, same⟩ := Option.map_eq_some_iff.mp current
    rw [kind?, kept _ _ found, Option.map_some, same]

/-- Memory stays tidy when a script is brought into it. -/
theorem of_brought {resources : Resources} {number : UInt16} (tidy : before.Tidy)
    (brought : before.Brought resources number id after) : after.Tidy := by
  obtain ⟨script, locals, localsSegment, offers, found, classes⟩ := brought.script
  have home : ({ script with localsSegment } : Script).IsAtHome id :=
    ⟨.inl offers.fresh.segment, offers.positions⟩
  refine ⟨brought.sound, ?_, ?_, ?_⟩
  · -- The new script is at home, and its variables are no script.
    intro place other foundOther
    by_cases here : place = id
    · rw [here, found, Option.some.injEq, Segment.script.injEq] at foundOther
      rw [here, ← foundOther]
      exact home
    · have arrivals := brought.arrivals _ found place
      split at arrivals
      · rename_i leaves
        obtain ⟨withVariables, variablesAt⟩ := leaves.resolve_left here
        obtain ⟨_, table, tableAt, _⟩ := brought.sound.ownLocals id _ found withVariables
        rw [← variablesAt, foundOther] at tableAt
        simp at tableAt
      · rw [arrivals] at foundOther
        exact tidy.homes place other foundOther
  · -- A class is known from before, or it is an object of the new script.
    intro species address known
    rw [classes] at known
    rcases address?_registerClasses known with earlier | ⟨object, member, _, rfl⟩
    · apply (tidy.classes species address earlier).mono
      intro other foundOther
      exact ⟨other, brought.kept _ _ foundOther, rfl⟩
    · have inside : object.pos ∈ script.positions :=
        Script.mem_positions.mpr ⟨object, member, rfl⟩
      rw [Defines, offers.positions _ inside]
      exact ⟨_, found, inside⟩
  · intro kind
    -- The current pools are the same, and stay where they are.
    rw [brought.pools]
    refine (tidy.pools kind).imp_right ?_
    intro current
    obtain ⟨contents, foundContents, same⟩ := Option.map_eq_some_iff.mp current
    rw [kind?, brought.kept _ _ foundContents, Option.map_some, same]

/-- A script takes no pool with it when it leaves. -/
theorem kind_of_leaves {script : Script} (sound : before.Sound)
    (found : before.get? id = some (.script script)) {place : SegmentId} {contents : Segment}
    (leaves : Store.leavesWith id script place) (there : before.get? place = some contents) :
    contents.kind = .script ∨ contents.kind = .locals := by
  -- What leaves is the script itself or its table of variables.
  rcases leaves with rfl | ⟨withVariables, rfl⟩
  · rw [found, Option.some.injEq] at there
    exact .inl (there ▸ rfl)
  · obtain ⟨_, table, tableAt, _⟩ := sound.ownLocals id script found withVariables
    rw [there, Option.some.injEq] at tableAt
    exact .inr (tableAt ▸ rfl)

/-- Memory stays tidy when a script leaves it. -/
theorem of_departed {script : Script} (tidy : before.Tidy)
    (found : before.get? id = some (.script script))
    (departed : Store.Departed before id script after) : after.Tidy := by
  refine ⟨departed.sound, ?_, ?_, ?_⟩
  · intro place other foundOther
    -- Whatever script is left was there before.
    rw [departed.places] at foundOther
    split at foundOther
    · simp at foundOther
    · exact tidy.homes place other foundOther
  · -- The classes that lay in the script are forgotten, and no class lies in its variables.
    intro species address known
    rw [departed.classes, ClassTable.address?_forget] at known
    apply (tidy.classes species address known.1).mono
    intro other foundOther
    refine ⟨other, ?_, rfl⟩
    rw [departed.places, if_neg]
    · exact foundOther
    · intro leaves
      obtain ⟨withVariables, variablesAt⟩ := leaves.resolve_left known.2
      obtain ⟨_, table, tableAt, _⟩ := tidy.sound.ownLocals id script found withVariables
      rw [← variablesAt, foundOther] at tableAt
      simp at tableAt
  · intro kind
    rw [departed.pools]
    by_cases none_ : before.pools.get kind = 0
    · exact .inl none_
    · -- What leaves is a script or its variables, and neither is a pool.
      have current := (tidy.pools kind).resolve_left none_
      obtain ⟨contents, foundContents, same⟩ := Option.map_eq_some_iff.mp current
      refine .inr ?_
      rw [kind?, departed.places, if_neg, foundContents, Option.map_some, same]
      intro leaves
      have either := kind_of_leaves tidy.sound found leaves foundContents
      rw [same] at either
      rcases either with rfl | rfl
      · exact none_ rfl
      · exact none_ rfl

/-- Memory stays tidy when a segment leaves that is neither a script nor variables. -/
theorem vacate (tidy : heap.Tidy) (found : heap.get? id = some segment)
    (passing : ¬ segment.IsLasting) :
    ({ heap.put id none with
      pools := Store.poolsWithout heap.pools segment.kind id } : Heap).Tidy := by
  have places : ∀ place, ({ heap.put id none with
      pools := Store.poolsWithout heap.pools segment.kind id } : Heap).get? place =
        if place = id then none else heap.get? place := fun place => get?_put found none
  rw [Segment.IsLasting, not_or] at passing
  refine ⟨(tidy.sound.vacate_other found passing.1 passing.2).of_same rfl rfl, ?_, ?_, ?_⟩
  · intro place script foundScript
    rw [places] at foundScript
    split at foundScript
    · simp at foundScript
    · exact tidy.homes place script foundScript
  · -- Classes lie in scripts, and this is none.
    intro species address known
    apply (tidy.classes species address known).mono
    intro script foundScript
    refine ⟨script, ?_, rfl⟩
    rw [places, if_neg]
    · exact foundScript
    · intro same
      rw [same, found, Option.some.injEq] at foundScript
      exact passing.1 (foundScript ▸ rfl)
  · intro kind
    rw [kind?, places]
    by_cases none_ : heap.pools.get kind = 0
    · -- There is no current pool of the kind, and none is made.
      left
      rw [Store.poolsWithout]
      split
      · rw [CurrentPools.get_set]
        split
        · rfl
        · exact none_
      · exact none_
    · have current := (tidy.pools kind).resolve_left none_
      by_cases here : heap.pools.get kind = id
      · -- The current pool of the kind is the segment that leaves, and is forgotten.
        left
        rw [here, kind?, found, Option.map_some, Option.some.injEq] at current
        have isPool : kind.isPool = true := by
          cases kind <;> first | rfl | exact absurd rfl none_
        rw [current, Store.poolsWithout, if_pos ⟨isPool, here⟩, CurrentPools.get_set,
          if_pos ⟨rfl, isPool⟩]
      · -- The current pool of the kind is another segment, which stays.
        right
        have same : (Store.poolsWithout heap.pools segment.kind id).get kind =
            heap.pools.get kind := by
          rw [Store.poolsWithout]
          split
          · rename_i forgotten
            rw [CurrentPools.get_set, if_neg]
            intro both
            exact here (both.1 ▸ forgotten.2)
          · rfl
        rw [same, if_neg here]
        exact current

/-- Memory stays tidy when a segment becomes the current pool of its kind. -/
theorem pooled (tidy : heap.Tidy) {kind : SegmentKind} (found : heap.kind? id = some kind) :
    ({ heap with pools := heap.pools.set kind id } : Heap).Tidy := by
  refine ⟨tidy.sound.of_same rfl rfl, tidy.homes, tidy.classes, ?_⟩
  intro other
  show (heap.pools.set kind id).get other = 0 ∨
    heap.kind? ((heap.pools.set kind id).get other) = some other
  rw [CurrentPools.get_set]
  -- Only the pool of one kind is another one now.
  split
  · rename_i here
    rw [here.1]
    exact .inr found
  · exact tidy.pools other

/-- Memory stays tidy when one more record of a script is read. -/
theorem read {script extended : Script} {version : Version} {offset : UInt16} {index : Nat}
    (tidy : heap.Tidy) (found : heap.get? id = some (.script script))
    (read : script.instantiateObject version offset = .ok (index, extended)) :
    (heap.put id (some (.script extended))).Tidy := by
  have home := tidy.homes id script found
  obtain ⟨added, positions, own, filled⟩ := Script.positions_instantiateObject read
  obtain ⟨objects, rfl⟩ := Script.instantiateObject_objects read
  refine ⟨tidy.sound.put found (Develops.akin_read read), ?_, ?_, ?_⟩
  · intro place other foundOther
    rw [get?_put found] at foundOther
    split at foundOther
    · -- A record can be read only where there are contents, so the script knows its place.
      rename_i here
      rw [Option.some.injEq, Segment.script.injEq] at foundOther
      subst foundOther here
      refine ⟨home.place, ?_⟩
      intro address member
      rw [positions, List.mem_append] at member
      rcases member with earlier | new
      · exact home.inside address earlier
      · have contents := filled (List.ne_nil_of_mem new)
        rw [own address new]
        exact home.place.resolve_right contents
    · exact tidy.homes place other foundOther
  · intro species address known
    -- Reading adds objects and takes none away, so every class is still defined.
    obtain ⟨other, foundOther, member⟩ := tidy.classes species address known
    rw [Defines, get?_put found]
    split
    · rename_i here
      rw [here, found, Option.some.injEq, Segment.script.injEq] at foundOther
      subst foundOther
      exact ⟨_, rfl, by rw [positions]; exact List.mem_append_left _ member⟩
    · exact ⟨other, foundOther, member⟩
  · intro kind
    refine (tidy.pools kind).imp_right ?_
    intro current
    show (Heap.put _ _ _).kind? (heap.pools.get kind) = some kind
    rw [kind?, get?_put found]
    split
    · -- The script is still a script.
      rename_i here
      rw [here, kind?, found] at current
      exact current
    · exact current

/-- Memory stays tidy while it develops. -/
theorem of_develops (tidy : before.Tidy) (develops : before.Develops after) : after.Tidy := by
  -- Each step keeps the tables in agreement.
  induction develops with
  | refl => exact tidy
  | alike _ alike _ sound ih => exact ih.of_alike (sound ih.sound) alike
  | loaded _ loaded sound ih => exact ih.of_brought ⟨loaded, sound ih.sound⟩
  | departed _ found _ left ih => exact ih.of_departed found (left.departed ih.sound found)
  | inserted _ next loose bare _ _ ih => exact ih.insert next loose bare
  | vacated _ found passing _ ih => exact ih.vacate found passing
  | replaced _ found persists _ ih => exact ih.put found persists.toSteady
  | read _ found read ih => exact ih.read found read
  | registered _ found member species number ih =>
    -- The object that is registered is one of a script in memory.
    apply ih.withClasses
    intro kind address known
    rw [ClassTable.address?_register] at known
    split at known
    · have position := Script.mem_positions.mpr ⟨_, member, Option.some.inj known⟩
      rw [Defines, (ih.homes _ _ found).inside address position]
      exact ⟨_, found, position⟩
    · exact ih.classes kind address known
  | pooled _ found _ ih => exact ih.pooled found

end Tidy

end Heap

end AdventureVm
