import AdventureVm.Memory.Residency
import AdventureVm.Proofs.Memory.Outcomes
import Mathlib.Logic.Function.Basic

/-!
Locking scripts with somebody watching, who writes down what each script locks.

Watching changes nothing: memory ends up as it does when nobody watches.
-/

namespace AdventureVm

/-- What is written down about one script that came to hold its superclasses. -/
structure Locking where
  /-- The script that came to hold its superclasses. -/
  holder : UInt16 := 0
  /-- The superclass species that it was to go through. -/
  species : List UInt16 := []
  /-- The script that was known to define each species, as far as they were gone through. -/
  answers : List (Option UInt16) := []
  /-- The scripts that were locked for the holder, in order. -/
  locked : List UInt16 := []
deriving Repr, DecidableEq, Inhabited

/-- One more species was gone through, for which some scripts were locked. -/
def Locking.advance (locking : Locking) (answer : Option UInt16) (taken : List UInt16) : Locking :=
  { locking with answers := locking.answers ++ [answer], locked := locking.locked ++ taken }

/-- Memory, and beside it what was written down about who has locked what. -/
structure Watched where
  /-- The memory and its journal. -/
  store : Store
  /-- The number of lockings that were begun. -/
  begun : Nat := 0
  /-- For each script, the locking that was begun when it last came to hold its superclasses. -/
  latest : UInt16 → Nat := fun _ => 0
  /-- The lockings by number. -/
  lockings : Nat → Locking := fun _ => {}

namespace Watched

/-- The locking that made a script hold its superclasses. -/
def locking (watched : Watched) (number : UInt16) : Locking :=
  watched.lockings (watched.latest number)

/-- Begins a locking for a script. -/
def start (watched : Watched) (holder : UInt16) (species : List UInt16) : Watched :=
  { watched with
    begun := watched.begun + 1
    latest := Function.update watched.latest holder watched.begun
    lockings := Function.update watched.lockings watched.begun { holder, species } }

/-- Writes something down about a locking. -/
def write (watched : Watched) (index : Nat) (change : Locking → Locking) : Watched :=
  { watched with
    lockings := Function.update watched.lockings index (change (watched.lockings index)) }

end Watched

/-- Work on memory that is watched. -/
abbrev WatchedM := ExceptT Fault (StateM Watched)

namespace WatchedM

variable {α β : Type}

/-- Work on memory about which nothing is written down. -/
def store (work : StoreM α) : WatchedM α :=
  fun watched =>
    let (result, store) := work watched.store
    (result, { watched with store })

/-- Does work and answers how it ended, without failing itself. -/
def outcome (work : WatchedM α) : WatchedM (Except Fault α) :=
  ExceptT.lift work.run

/-- Begins a locking for a script and answers its number. -/
def start (holder : UInt16) (species : List UInt16) : WatchedM Nat := do
  let watched ← get
  set (watched.start holder species)
  return watched.begun

/-- Writes something down about a locking. -/
def write (index : Nat) (change : Locking → Locking) : WatchedM Unit :=
  modify fun watched => watched.write index change

end WatchedM

namespace Store

/-- Locks the scripts of superclasses one after the other, and writes down what comes of each. -/
def lockOwnersWatched (lock : UInt16 → WatchedM SegmentId) (index : Nat) (number : UInt16) :
    List UInt16 → List UInt16 → WatchedM (Option (Fault × List UInt16))
  | [], _ => return none
  | species :: rest, locked => do
    match ← WatchedM.store (StoreM.read (·.classes.script? species)) with
    | none =>
      WatchedM.store (StoreM.note .warn
        s!"script {number}: superclass species {species} has no known script")
      WatchedM.write index (·.advance none [])
      lockOwnersWatched lock index number rest locked
    | some owner =>
      if owner = number ∨ owner ∈ locked then
        WatchedM.write index (·.advance (some owner) [])
        lockOwnersWatched lock index number rest locked
      else
        match ← WatchedM.outcome (lock owner) with
        | .ok _ =>
          WatchedM.write index (·.advance (some owner) [owner])
          lockOwnersWatched lock index number rest (locked ++ [owner])
        | .error fault => return some (fault, locked)

/-- Locks a script and the scripts of its superclasses while somebody watches. -/
def instantiateWatched (resources : Resources) : Nat → UInt16 → WatchedM SegmentId
  | 0, number => throw (.scriptNotFound number)
  | bound + 1, number => do
    let resident ← WatchedM.store (StoreM.read fun heap => (heap.scriptSegment? number).isSome)
    let id ← WatchedM.store (loadScript resources number)
    let script ← WatchedM.store (StoreM.require (·.script id))
    WatchedM.store (StoreM.change (·.modifyScript id fun script =>
      { script.lock.mark false with holdsSuperclasses := true }))
    if script.holdsSuperclasses then
      return id
    -- This is the one place where a script comes to hold its superclasses.
    let index ← WatchedM.start number script.superclasses
    match ← lockOwnersWatched (instantiateWatched resources bound) index number
      script.superclasses [] with
    | none => return id
    | some (fault, locked) =>
      WatchedM.store (rollBack resident id locked)
      throw fault

end Store

namespace WatchedM

variable {α β : Type}

/-- Work about which nothing is written down changes memory alone. -/
@[simp] theorem leads_store (work : StoreM α) (watched : Watched)
    (post : Except Fault α → Watched → Prop) :
    Leads (store work) watched post ↔
      Leads work watched.store fun result after => post result { watched with store := after } :=
  Iff.rfl

/-- Work whose failure is answered does not fail itself. -/
@[simp] theorem leads_outcome (work : WatchedM α) (watched : Watched)
    (post : Except Fault (Except Fault α) → Watched → Prop) :
    Leads (outcome work) watched post ↔
      Leads work watched fun result after => post (.ok result) after :=
  Iff.rfl

/-- A locking that is begun gets the next number. -/
@[simp] theorem leads_start (holder : UInt16) (species : List UInt16) (watched : Watched)
    (post : Except Fault Nat → Watched → Prop) :
    Leads (start holder species) watched post ↔
      post (.ok watched.begun) (watched.start holder species) :=
  Iff.rfl

/-- What is written down about a locking concerns no other one. -/
@[simp] theorem leads_write (index : Nat) (change : Locking → Locking) (watched : Watched)
    (post : Except Fault Unit → Watched → Prop) :
    Leads (write index change) watched post ↔ post (.ok ()) (watched.write index change) :=
  Iff.rfl

/-- Watched work leads memory wherever the plain work leads it, and ends as that does. -/
def Shows (work : WatchedM α) (plain : StoreM α) : Prop :=
  ∀ (watched : Watched) (post : Except Fault α → Store → Prop),
    Leads work watched (fun result after => post result after.store) ↔
      Leads plain watched.store post

/-- Work about which nothing is written down is the plain work. -/
theorem shows_store (plain : StoreM α) : Shows (store plain) plain :=
  fun _ _ => Iff.rfl

/-- Work that gives a value gives the same value. -/
theorem shows_pure (value : α) : Shows (pure value) (pure value) :=
  fun _ _ => Iff.rfl

/-- Work that fails fails in the same way. -/
theorem shows_throw (fault : Fault) : Shows (throw fault : WatchedM α) (throw fault) :=
  fun _ _ => Iff.rfl

/-- Work whose failure is answered answers the same. -/
theorem Shows.outcome {work : WatchedM α} {plain : StoreM α} (shown : Shows work plain) :
    Shows (WatchedM.outcome work) (StoreM.outcome plain) := by
  -- The condition on the answer is passed through unchanged.
  intro watched post
  rw [leads_outcome, StoreM.leads_outcome]
  exact shown watched fun result after => post (.ok result) after

/-- Two pieces of watched work show what the two plain pieces do. -/
theorem Shows.bind {first : WatchedM α} {next : α → WatchedM β} {plain : StoreM α}
    {plainNext : α → StoreM β} (shown : Shows first plain)
    (shownNext : ∀ value, Shows (next value) (plainNext value)) :
    Shows (first >>= next) (plain >>= plainNext) := by
  intro watched post
  rw [leads_bind, leads_bind, ← shown]
  -- A failure of the first piece is a failure of both, in the watched and in the plain work.
  constructor
  · intro reached
    apply reached.either
    · intro value between further
      exact (shownNext value between post).mp further
    · exact fun _ _ failed => failed
  · intro reached
    apply reached.mono
    intro result between further
    cases result with
    | ok value => exact (shownNext value between post).mpr further
    | error fault => exact further

/-- Writing something down is no part of the plain work. -/
theorem Shows.write {work : Unit → WatchedM α} {plain : StoreM α} (index : Nat)
    (change : Locking → Locking) (shown : Shows (work ()) plain) :
    Shows (WatchedM.write index change >>= work) plain := by
  -- Writing changes what was written down and leaves the store.
  intro watched post
  rw [leads_bind, leads_write]
  exact shown (watched.write index change) post

/-- Beginning a locking is no part of the plain work. -/
theorem Shows.start {work : Nat → WatchedM α} {plain : StoreM α} (holder : UInt16)
    (species : List UInt16) (shown : ∀ index, Shows (work index) plain) :
    Shows (WatchedM.start holder species >>= work) plain := by
  -- Beginning writes down a new locking and leaves the store.
  intro watched post
  rw [leads_bind, leads_start]
  exact shown watched.begun (watched.start holder species) post

/-- Watched work leaves memory as the plain work does. -/
theorem Shows.run_eq {work : WatchedM α} {plain : StoreM α} (shown : Shows work plain)
    (watched : Watched) :
    plain.run watched.store = ((work.run watched).1, (work.run watched).2.store) :=
  -- What the plain work comes to is a condition on how it ends.
  ((shown watched fun result after => plain.run watched.store = (result, after)).mpr rfl)

end WatchedM

namespace Store

open WatchedM

/-- Locking the scripts of superclasses goes on as if nobody watched. -/
theorem lockOwners_shows {watchedLock : UInt16 → WatchedM SegmentId}
    {lock : UInt16 → StoreM SegmentId} (each : ∀ owner, Shows (watchedLock owner) (lock owner))
    (index : Nat) (number : UInt16) (species locked : List UInt16) :
    Shows (lockOwnersWatched watchedLock index number species locked)
      (lockOwners lock number species locked) := by
  -- The list of locked scripts grows from species to species, so it stays quantified over.
  induction species generalizing locked with
  | nil => exact shows_pure none
  | cons first rest ih =>
    unfold lockOwnersWatched lockOwners
    apply (shows_store _).bind
    intro known
    cases known with
    | none =>
      apply (shows_store _).bind
      intro _
      exact .write index _ (ih locked)
    | some owner =>
      simp only
      split
      · exact .write index _ (ih locked)
      · apply (each owner).outcome.bind
        intro result
        cases result with
        | ok id => exact .write index _ (ih (locked ++ [owner]))
        | error fault => exact shows_pure _

/-- Locking a script goes on as if nobody watched. -/
theorem instantiateWatched_shows (resources : Resources) (bound : Nat) (number : UInt16) :
    Shows (instantiateWatched resources bound number)
      (instantiateWithin resources bound number) := by
  -- The bound counts how far superclasses are followed.
  induction bound generalizing number with
  | zero => exact shows_throw _
  | succ bound ih =>
    unfold instantiateWatched instantiateWithin
    refine (shows_store _).bind fun resident => (shows_store _).bind fun id =>
      (shows_store _).bind fun script => (shows_store _).bind fun _ => ?_
    split
    · exact shows_pure id
    · refine .start number _ fun index => ?_
      apply (lockOwners_shows ih index number script.superclasses []).bind
      intro failure
      cases failure with
      | none => exact shows_pure id
      | some failed =>
        apply (shows_store _).bind
        intro _
        exact shows_throw failed.1

end Store

end AdventureVm
