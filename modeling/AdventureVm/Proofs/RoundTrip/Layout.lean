import AdventureVm.Proofs.RoundTrip.Drafts
import AdventureVm.Proofs.RoundTrip.Texts

/-! The places that building reckons with are those at which loading finds things. -/

namespace AdventureVm

/-- The bytes of a text are those that spell it and a zero. -/
@[simp] theorem size_textBytes (text : String) : (textBytes text).size = text.utf8ByteSize + 1 := by
  rw [textBytes, Array.size_push]
  rfl

/-- What precedes the first zero is the text, when the text has no zero in it. -/
theorem beforeZero_append {front back : Bytes} (clean : 0 ∉ front) :
    beforeZero (front.push 0 ++ back) = front := by
  -- The first zero is the one that was pushed.
  have nonzero : ∀ byte ∈ front.toList, (byte != 0) = true := by
    intro byte member
    rw [bne_iff_ne]
    intro equal
    subst equal
    exact clean (Array.mem_toList_iff.mp member)
  apply Array.ext'
  simp only [beforeZero, Array.toList_takeWhile, Array.toList_append, Array.toList_push,
    List.append_assoc]
  rw [List.takeWhile_append_of_pos nonzero]
  simp

/-- A text that is in the buffer of a script is read there. -/
theorem Script.spells_of_carries {script : Script} {place : Nat} {text : String}
    (carries : Carries script.data place (textBytes text)) (clean : 0 ∉ text.toUTF8.data) :
    script.Spells place text := by
  have bound := carries.bound
  have stored := carries.extract
  rw [size_textBytes] at bound stored
  refine ⟨stored, ?_⟩
  -- The buffer from the text on starts with the text.
  rw [Script.text?, if_pos (by omega), carries.rest, textBytes, beforeZero_append clean,
    utf8Text_toUTF8]

/-- Items that follow each other have a place each. -/
@[simp] theorem length_running (start : Nat) (sizes : List Nat) :
    (running start sizes).length = sizes.length := by
  -- Induction on the sizes.
  induction sizes generalizing start with
  | nil => rfl
  | cons size sizes ih => simp [running, ih]

/-- The places move along with the start. -/
theorem map_running (distance start : Nat) (sizes : List Nat) :
    (running start sizes).map (distance + ·) = running (distance + start) sizes := by
  -- Induction on the sizes; the distance stays in front of each start.
  induction sizes generalizing start with
  | nil => rfl
  | cons size sizes ih =>
    rw [running, List.map_cons, ih, running, Nat.add_assoc]

/-- Items that follow each other start no earlier than the first. -/
theorem le_of_mem_running {start place : Nat} {sizes : List Nat}
    (member : place ∈ running start sizes) : start ≤ place := by
  -- Induction on the sizes: an item is the first, or starts after it.
  induction sizes generalizing start with
  | nil => cases member
  | cons size sizes ih =>
    rcases List.mem_cons.mp member with rfl | later
    · exact Nat.le_refl _
    · exact Nat.le_trans (Nat.le_add_right _ _) (ih later)

/-- Items that follow each other do not overlap. -/
theorem pairwise_of_running {α : Type} {items : List α} {place size : α → Nat} {start : Nat}
    (placed : items.map place = running start (items.map size)) :
    items.Pairwise fun first second => place first + size first ≤ place second := by
  induction items generalizing start with
  | nil => exact .nil
  | cons item items ih =>
    rw [List.map_cons, List.map_cons, running, List.cons.injEq] at placed
    refine .cons ?_ (ih placed.2)
    -- Whatever follows starts no earlier than the first item ends.
    intro later member
    have listed : place later ∈ items.map place := List.mem_map_of_mem member
    rw [placed.2] at listed
    rw [placed.1]
    exact le_of_mem_running listed

/-- Items that follow each other end where their sizes lead to. -/
theorem le_of_running {α : Type} {items : List α} {place size : α → Nat} {start : Nat}
    (placed : items.map place = running start (items.map size)) {item : α} (member : item ∈ items) :
    place item + size item ≤ start + totalSize (items.map size) := by
  induction items generalizing start with
  | nil => cases member
  | cons first items ih =>
    rw [List.map_cons, List.map_cons, running, List.cons.injEq] at placed
    rw [List.map_cons, totalSize]
    -- The item is the first one, or it comes later and the sizes before it count as well.
    rcases List.mem_cons.mp member with rfl | later
    · omega
    · have bound := ih placed.2 later
      omega

/-- The texts of a script are where building says that they are. -/
theorem ScriptDefinition.carries_text {definition : ScriptDefinition} {data : Bytes}
    {start place : Nat} {text : String}
    (carries : Carries data start (textsBytes definition.texts))
    (listed : (text, place) ∈ definition.textPlaces start) :
    text ∈ definition.texts ∧ Carries data place (textBytes text) := by
  -- The texts are one after the other, so each is at the sum of the sizes before it.
  rw [textsBytes, Carries.append] at carries
  have parts := carries.1.parts
  have sizes : (definition.texts.map textBytes).map (·.size) =
      definition.texts.map fun text => text.utf8ByteSize + 1 := by
    simp [Function.comp_def]
  rw [sizes, List.forall₂_map_right_iff] at parts
  exact ⟨(List.of_mem_zip listed).1, List.forall₂_zip parts.flip listed⟩

/-- The places of texts move along with their start. -/
theorem ScriptDefinition.textPlaces_add {definition : ScriptDefinition} {start place : Nat}
    {text : String} (distance : Nat) (listed : (text, place) ∈ definition.textPlaces start) :
    (text, distance + place) ∈ definition.textPlaces (distance + start) := by
  -- Sizes do not change, so every place moves by the same distance.
  rw [textPlaces, ← map_running, List.zip_map_right]
  exact List.mem_map_of_mem listed

/-- Filling in operands does not change how much code there is. -/
theorem Assembly.size_foldlM_fill {assembly : Assembly} {base : Nat} {absolute : Bool}
    {places : Places} (references : List Reference) {before after : Bytes}
    (filled : references.foldlM (assembly.fill base absolute places) before = .ok after) :
    after.size = before.size := by
  induction references generalizing before with
  | nil =>
    cases filled
    rfl
  | cons reference references ih =>
    rw [List.foldlM_cons] at filled
    obtain ⟨between, first, later⟩ := bind_eq_ok.mp filled
    -- One operand overwrites bytes that are there.
    have same : between.size = before.size := by
      unfold fill at first
      obtain ⟨value, _, written⟩ := bind_eq_ok.mp first
      split at written
      · cases written
      · cases written
        exact size_overwrite _ _ _
    rw [ih later, same]

/-- Linked code is as long as it was before. -/
theorem Assembly.size_link {assembly : Assembly} {base : Nat} {absolute : Bool} {places : Places}
    {code : Bytes} (linked : assembly.link base absolute places = .ok code) :
    code.size = assembly.code.size :=
  size_foldlM_fill _ linked

/-- Code is padded to the size that building reckons with. -/
theorem ScriptDefinition.size_padded {definition : ScriptDefinition} {code : Bytes}
    (same : code.size = definition.assembly.code.size) :
    (padded code).size = definition.paddedCodeSize := by
  rw [padded, Array.size_append, Array.size_replicate, paddedCodeSize, same]

end AdventureVm
