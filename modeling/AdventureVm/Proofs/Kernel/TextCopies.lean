import AdventureVm.Proofs.Kernel.TextOrder
import AdventureVm.Proofs.Memory.Overwriting

/-!
Copying a text takes the source as it was before anything was written.

That is so wherever the two are, also where the bytes that are written are some of those that are
read. Nothing but the bytes that are written changes, and a copy that fails changes nothing.
-/

namespace AdventureVm

/-- A value that can be read as a number is that number. -/
theorem Address.toWord?_eq_some {value : Address} {word : UInt16} :
    value.toWord? = some word ↔ value = .number word := by
  -- A number is an address without a segment.
  obtain ⟨segment, offset⟩ := value
  simp [toWord?, isNumber, number]

/-- The bytes that a copy takes from its source, given its bound. -/
def Heap.taken (heap : Heap) (source : Address) : Option Int → Except Fault Bytes
  | none => (heap.readString source).map (·.push 0)
  | some bound =>
    if bound < 0 then heap.readBytes source bound.natAbs
    else if 0 < bound then
      (heap.readString source).map fun text => (text.extract 0 (bound.toNat - 1)).push 0
    else .ok #[]

/-- The arguments of a copy are where it goes to, where it comes from, and a bound if there is. -/
structure CopyArguments (arguments : List Address) (target source : Address) (bound : Option Int) :
    Prop where
  /-- The first argument is where the copy goes to. -/
  target : arguments[0]? = some target
  /-- The second one is where it comes from. -/
  source : arguments[1]? = some source
  /-- The third one, if there is one, is a number, and counts with its sign. -/
  bound : ∃ word : Option UInt16, arguments[2]? = word.map .number ∧ word.map signedWord = bound

/-- The call that copies a text, with other arguments. -/
def KernelCall.copying (call : KernelCall) (arguments : List Address) : KernelCall :=
  { call with builtin := .strCpy, arguments }

namespace Store

variable {target source : Address} {bound : Option Int} {store : Store} {data : Bytes}
  {post : Except Fault Address → Store → Prop}

/-- What is to be copied can be taken, and there is room for it. -/
def CanCopy (store : Store) (target source : Address) (bound : Option Int) : Prop :=
  ∃ data, store.heap.taken source bound = .ok data ∧
    (data ≠ #[] → ∃ found, store.heap.readBytes target data.size = .ok found)

/--
What a copy leaves behind, given its bound.

What is said to be at the source is what was there before the copy.
-/
structure CopiedText (store after : Store) (target source : Address) (bound : Option Int) :
    Prop where
  /-- Without a bound, the whole text and a zero are written. -/
  whole : bound = none → ∃ text, store.heap.readString source = .ok text ∧
    after.heap.readString target = .ok text ∧
    store.heap.DiffersOnlyAt (store.heap.bytesFrom target (text.size + 1)) after.heap
  /-- A positive bound limits the bytes that are written, the zero included. -/
  limited : ∀ limit : Nat, 0 < limit → bound = some (limit : Int) →
    ∃ text, store.heap.readString source = .ok text ∧
      after.heap.readString target = .ok (text.extract 0 (min text.size (limit - 1))) ∧
      ∃ count ≤ limit, store.heap.DiffersOnlyAt (store.heap.bytesFrom target count) after.heap
  /-- A negative bound counts the bytes that are written, whatever they are. -/
  raw : ∀ count : Nat, 0 < count → bound = some (-count : Int) →
    ∃ data, store.heap.readBytes source count = .ok data ∧
      after.heap.readBytes target count = .ok data ∧
      store.heap.DiffersOnlyAt (store.heap.bytesFrom target count) after.heap
  /-- With a bound of zero nothing is done. -/
  nothing : bound = some 0 → after = store

/-- Bytes can be written where as many can be read. -/
theorem writes_iff (some_ : data ≠ #[]) : (∃ heap, store.heap.writeBytes target data = .ok heap) ↔
    ∃ found, store.heap.readBytes target data.size = .ok found := by
  -- Reading and writing ask the same of an address.
  rw [← (store.agreesOnBytes target some_).succeeds]
  constructor
  · rintro ⟨heap, done⟩
    exact ⟨store.mapHeap fun _ => heap, by rw [StoreM.run_attempt, done]⟩
  · rintro ⟨after, ended⟩
    exact ⟨after.heap, of_attempted ended⟩

/-- Something is taken and written, or nothing changes. -/
theorem leads_copy {α : Type} {work : StoreM α} {found : Except Fault α} (kept : α → Bytes)
    (took : Leads work store fun outcome after => outcome = found ∧ after.heap = store.heap)
    (failed : ∀ fault after, after.heap = store.heap →
      (∀ data, found.map kept = .ok data → ¬ ∃ heap, store.heap.writeBytes target data = .ok heap) →
      post (.error fault) after)
    (wrote : ∀ data after, found.map kept = .ok data →
      store.heap.writeBytes target data = .ok after.heap → post (.ok target) after) :
    Leads (do
      let value ← work
      StoreM.attempt (·.writeBytes target (kept value))
      return target) store post := by
  rw [leads_bind]
  refine took.mono ?_
  -- The bytes are all there before the first one is written, so an overlap does not matter.
  rintro outcome between ⟨rfl, same⟩
  cases outcome with
  | error fault => exact failed fault between same nofun
  | ok value =>
    rw [either_ok, leads_bind, StoreM.leads_attempt, same]
    cases written : store.heap.writeBytes target (kept value) with
    | error fault =>
      refine failed fault between same fun data is_ => ?_
      rw [← Except.ok.inj is_, written]
      nofun
    | ok heap => exact wrote _ (between.mapHeap fun _ => heap) rfl written

/-- As many bytes are read as are asked for. -/
theorem size_of_readBytes {count : Nat} (read : store.heap.readBytes source count = .ok data) :
    data.size = count := by
  obtain ⟨view, -, sliced⟩ := bind_eq_ok.mp read
  split at sliced
  · split at sliced
    · rename_i rest found taken
      cases sliced
      -- A slice exists only when the whole range lies in the region.
      rw [slice?, Option.ite_none_right_eq_some] at taken
      rw [← Option.some.inj taken.2, Array.size_extract]
      omega
    · cases sliced
  · cases sliced

/-- Only a bound of zero lets a copy take nothing. -/
theorem taken_ne_empty (taken : store.heap.taken source bound = .ok data) (some_ : bound ≠ some 0) :
    data ≠ #[] := by
  cases bound with
  | none =>
    -- A text is taken with the zero that ends it.
    obtain ⟨text, -, rfl⟩ := map_eq_ok.mp taken
    simp
  | some bound =>
    rw [Heap.taken] at taken
    split at taken
    · rename_i negative
      rintro rfl
      -- Raw bytes are taken in the number asked for, which is not zero here.
      have size := size_of_readBytes taken
      rw [Array.size_empty] at size
      omega
    · split at taken
      · obtain ⟨text, -, rfl⟩ := map_eq_ok.mp taken
        simp
      · rename_i natural positive
        exact absurd (congrArg some (by omega)) some_

/-- A copy writes what it takes from its source, has nothing to do, or fails for a reason. -/
theorem leads_strCpy {call : KernelCall} (given : CopyArguments call.arguments target source bound)
    (failed : ∀ fault after, after.heap = store.heap → ¬ store.CanCopy target source bound →
      post (.error fault) after)
    (nothing : bound = some 0 → post (.ok target) store)
    (wrote : ∀ data after, bound ≠ some 0 → store.heap.taken source bound = .ok data →
      store.heap.writeBytes target data = .ok after.heap → post (.ok target) after) :
    Leads call.strCpy store post := by
  -- Whatever goes wrong, what is to be copied cannot be taken or has no room.
  have refused (some_ : bound ≠ some 0) (fault : Fault) (after : Store)
      (same : after.heap = store.heap) (stuck : ∀ data, store.heap.taken source bound = .ok data →
        ¬ ∃ heap, store.heap.writeBytes target data = .ok heap) : post (.error fault) after := by
    refine failed fault after same fun ⟨data, taken, room⟩ => stuck data taken ?_
    exact (writes_iff (taken_ne_empty taken some_)).mpr (room (taken_ne_empty taken some_))
  obtain ⟨word, third, signed⟩ := given.bound
  simp only [KernelCall.strCpy, KernelCall.argument_eq given.target,
    KernelCall.argument_eq given.source, KernelCall.number?_eq third, pure_bind, signed]
  -- Reading a text is the first step of two of the three copies.
  have text : Leads (readString source) store fun outcome after =>
      outcome = store.heap.readString source ∧ after.heap = store.heap :=
    (leads_readString source store _).mpr ⟨rfl, rfl⟩
  cases bound with
  | none =>
    have unbounded : (none : Option Int) ≠ some 0 := (Option.some_ne_none 0).symm
    rw [Heap.taken] at wrote refused
    have copied := leads_copy (·.push 0) text (refused unbounded) fun data after =>
      wrote data after unbounded
    exact copied
  | some bound =>
    have some_ (other : bound ≠ 0) : some bound ≠ some 0 := mt Option.some.inj other
    dsimp only
    rw [Heap.taken] at wrote refused
    -- The sign of the bound says what is copied.
    by_cases negative : bound < 0
    · -- So many bytes are copied, whatever they are.
      rw [if_pos negative] at wrote refused ⊢
      simp only [KernelCall.copyBytes, bind_assoc]
      have bytes : Leads (StoreM.require (·.readBytes source bound.natAbs)) store
          fun outcome after =>
            outcome = store.heap.readBytes source bound.natAbs ∧ after.heap = store.heap :=
        (StoreM.leads_require _ store _).mpr ⟨rfl, rfl⟩
      refine leads_copy id bytes (fun fault after same stuck => ?_)
        fun data after took written => ?_
      · refine refused (some_ (by omega)) fault after same fun data read => stuck data ?_
        rw [read]
        rfl
      · obtain ⟨found, read, rfl⟩ := map_eq_ok.mp took
        exact wrote found after (some_ (by omega)) read written
    · by_cases positive : 0 < bound
      · rw [if_neg negative, if_pos positive] at wrote refused ⊢
        exact leads_copy (fun text : Bytes => (text.extract 0 (bound.toNat - 1)).push 0) text
          (refused (some_ (by omega))) fun data after => wrote data after (some_ (by omega))
      · rw [if_neg negative, if_neg positive]
        exact nothing (congrArg some (by omega))

/-- What a copy takes is what it leaves at the target. -/
theorem copiedText_of_written {after : Store} (taken : store.heap.taken source bound = .ok data)
    (written : store.heap.writeBytes target data = .ok after.heap) (some_ : bound ≠ some 0) :
    store.CopiedText after target source bound where
  -- Without a bound the text is copied with the zero that ends it.
  whole := by
    rintro rfl
    obtain ⟨text, read, rfl⟩ := map_eq_ok.mp taken
    refine ⟨text, read, Heap.readString_written (Heap.clean_of_readString read) written, ?_⟩
    simpa using Heap.differsOnlyAt_writeBytes written
  limited := by
    rintro limit positive rfl
    rw [Heap.taken, if_neg (by omega), if_pos (by omega)] at taken
    obtain ⟨text, read, rfl⟩ := map_eq_ok.mp taken
    have kept : text.extract 0 (min text.size (limit - 1)) = text.extract 0 (limit - 1) :=
      Array.extract_eq_extract_right.mpr (by omega)
    -- What is left of a text has no zero in it either, so it ends where it is cut.
    have clean : 0 ∉ text.extract 0 (limit - 1) := by
      intro member
      rw [← Array.mem_toList_iff, Array.toList_extract, List.extract_eq_take_drop] at member
      exact Heap.clean_of_readString read
        (Array.mem_toList_iff.mp (List.mem_of_mem_drop (List.mem_of_mem_take member)))
    refine ⟨text, read, ?_, _, ?_, Heap.differsOnlyAt_writeBytes written⟩
    · rw [kept]
      exact Heap.readString_written clean written
    · rw [Array.size_push, Array.size_extract]
      omega
  -- With a negative bound the bytes are copied as they are.
  raw := by
    rintro count positive rfl
    rw [Heap.taken, if_pos (by omega), Int.natAbs_neg, Int.natAbs_natCast] at taken
    obtain rfl := size_of_readBytes taken
    exact ⟨data, taken, Heap.readBytes_written positive written,
      Heap.differsOnlyAt_writeBytes written⟩
  nothing zero := absurd zero some_

/-- With a bound of zero a copy leaves everything behind as it was. -/
theorem copiedText_of_zero : store.CopiedText store target source (some 0) where
  -- The bound excludes all cases in which something is copied.
  whole := nofun
  limited _ positive zero := absurd (Option.some.inj zero) (by omega)
  raw _ positive zero := absurd (Option.some.inj zero) (by omega)
  nothing _ := rfl

/-- A call with the arguments of a copy makes the copy, or there is none to make. -/
theorem leads_copying {call : KernelCall}
    (given : CopyArguments call.arguments target source bound) : Leads call.strCpy store (Either
      (fun answer after => answer = target ∧ store.CanCopy target source bound ∧
        store.CopiedText after target source bound)
      fun _ after => ¬ store.CanCopy target source bound ∧ after.heap = store.heap) := by
  -- A bound of zero copies nothing; otherwise as much was written as was read.
  refine leads_strCpy given (fun _ _ same stuck => ⟨stuck, same⟩) ?_ ?_
  · rintro rfl
    exact ⟨rfl, ⟨#[], rfl, absurd rfl⟩, copiedText_of_zero⟩
  · intro data after some_ taken written
    have room := (writes_iff (taken_ne_empty taken some_)).mp ⟨_, written⟩
    exact ⟨rfl, ⟨data, taken, fun _ => room⟩, copiedText_of_written taken written some_⟩

/-- A location where a number could be is refused. -/
theorem number?_refused {call : KernelCall} {index : Nat} {value : Address}
    (given : call.arguments[index]? = some value) (location : value.toWord? = none) :
    ∃ fault, call.number? index = throw fault := by
  -- The argument is there, so it is read as a number, which a location is not.
  obtain ⟨inside, -⟩ := List.getElem?_eq_some_iff.mp given
  rw [KernelCall.number?, if_pos inside, KernelCall.number, KernelCall.argument_eq given, pure_bind,
    location]
  exact ⟨_, rfl⟩

/-- A call without the arguments of a copy fails and changes nothing. -/
theorem strCpy_refused {call : KernelCall}
    (missing : ∀ target source bound, ¬ CopyArguments call.arguments target source bound) :
    ∃ fault, call.strCpy.run store = (.error fault, store) := by
  -- What is wrong with the arguments is found from the first one on.
  cases first : call.arguments[0]? with
  | none =>
    rw [KernelCall.strCpy, KernelCall.argument, first]
    exact ⟨_, rfl⟩
  | some target =>
    rw [KernelCall.strCpy, KernelCall.argument_eq first, pure_bind]
    cases second : call.arguments[1]? with
    | none =>
      rw [KernelCall.argument, second]
      exact ⟨_, rfl⟩
    | some source =>
      rw [KernelCall.argument_eq second, pure_bind]
      cases third : call.arguments[2]? with
      -- Two arguments are enough, so this call was not refused.
      | none => exact absurd ⟨first, second, none, third, rfl⟩ (missing target source none)
      | some bound =>
        -- A third argument has to be a number.
        cases number : bound.toWord? with
        | none =>
          obtain ⟨fault, refused⟩ := number?_refused third number
          rw [refused]
          exact ⟨fault, rfl⟩
        | some word =>
          have number := Address.toWord?_eq_some.mp number
          exact absurd ⟨first, second, some word, by rw [third, number, Option.map_some], rfl⟩
            (missing target source (some (signedWord word)))

/-- A call either has the arguments of a copy, or fails and changes nothing. -/
theorem copies_or_refused (store : Store) (call : KernelCall) :
    (∃ target source bound, CopyArguments call.arguments target source bound) ∨
      ∃ fault, call.strCpy.run store = (.error fault, store) := by
  -- The arguments are looked at before anything is done.
  by_cases given : ∃ target source bound, CopyArguments call.arguments target source bound
  · exact .inl given
  · exact .inr (strCpy_refused fun target source bound is_ => given ⟨target, source, bound, is_⟩)

variable {call : KernelCall} {answer : Address} {after : Store} {fault : Fault}

/-- A call that succeeds has made a copy. -/
theorem copied_of_ok (ended : call.strCpy.run store = (.ok answer, after)) : ∃ source bound,
    CopyArguments call.arguments answer source bound ∧ store.CanCopy answer source bound ∧
      store.CopiedText after answer source bound := by
  -- A call that was refused would not have succeeded.
  rcases store.copies_or_refused call with ⟨target, source, bound, given⟩ | ⟨fault, refused⟩
  · have done : Leads call.strCpy store _ := leads_copying given
    rw [Leads, ended] at done
    obtain ⟨rfl, can, copied⟩ := done
    exact ⟨source, bound, given, can, copied⟩
  · rw [ended] at refused
    cases refused

/-- A call that fails has changed nothing. -/
theorem heap_of_error (ended : call.strCpy.run store = (.error fault, after)) :
    after.heap = store.heap := by
  -- It fails in making the copy, or before that.
  rcases store.copies_or_refused call with ⟨target, source, bound, given⟩ | ⟨fault, refused⟩
  · have done : Leads call.strCpy store _ := leads_copying given
    rw [Leads, ended] at done
    exact done.2
  · rw [ended] at refused
    cases refused
    rfl

/-- A copy that can be made is made. -/
theorem ok_of_canCopy (given : CopyArguments call.arguments target source bound)
    (can : store.CanCopy target source bound) :
    ∃ after, call.strCpy.run store = (.ok target, after) := by
  have done : Leads call.strCpy store _ := leads_copying given
  obtain ⟨outcome, after, ended⟩ : ∃ outcome after, call.strCpy.run store = (outcome, after) :=
    ⟨_, _, rfl⟩
  rw [Leads, ended] at done
  -- A failure would say that the copy cannot be made.
  cases outcome with
  | error fault => exact absurd can done.1
  | ok answer =>
    obtain ⟨rfl, -⟩ := done
    exact ⟨after, ended⟩

/--
A copy takes its source as it was before, wherever it goes to.

It is made exactly where its bytes can be taken and have room, and changes nothing but those. A
call that fails, whatever its arguments are, changes nothing.
-/
theorem copies_take_the_source (store : Store) (call : KernelCall) (arguments : List Address) :
    (∀ answer after, (call.copying arguments).run.run store = (.ok answer, after) →
      ∃ source bound, CopyArguments arguments answer source bound ∧
        store.CopiedText after answer source bound) ∧
    (∀ fault after, (call.copying arguments).run.run store = (.error fault, after) →
      after.heap = store.heap) ∧
    ((∃ answer after, (call.copying arguments).run.run store = (.ok answer, after)) ↔
      ∃ target source bound, CopyArguments arguments target source bound ∧
        store.CanCopy target source bound) := by
  have function : (call.copying arguments).run = (call.copying arguments).strCpy := rfl
  rw [function]
  refine ⟨fun answer after ended => ?_, fun fault after => heap_of_error, ?_, ?_⟩
  · obtain ⟨source, bound, given, -, copied⟩ := copied_of_ok ended
    exact ⟨source, bound, given, copied⟩
  · rintro ⟨answer, after, ended⟩
    obtain ⟨source, bound, given, can, -⟩ := copied_of_ok ended
    exact ⟨answer, source, bound, given, can⟩
  · rintro ⟨target, source, bound, given, can⟩
    -- The address that is answered is that of the target.
    obtain ⟨after, ended⟩ : ∃ after,
        (call.copying arguments).strCpy.run store = (.ok target, after) := ok_of_canCopy given can
    exact ⟨target, after, ended⟩

/-- A memory with a text of two bytes at the start of a block of six. -/
def textInBlock : Store :=
  { heap := {
      version := .sci0
      segments := #[none, some (.dynmem ⟨"text", #[65, 66, 0, 0, 0, 0]⟩)] } }

/--
A text can be copied one byte further, onto itself.

Four bytes can be copied two bytes further, but not three.
-/
theorem copies_take_the_source_overlapping :
    (∃ after, (anyComparison.copying [⟨1, 1⟩, ⟨1, 0⟩]).run.run textInBlock =
        (.ok ⟨1, 1⟩, after) ∧ after.heap.readString ⟨1, 1⟩ = .ok #[65, 66]) ∧
    (∃ target source bound, CopyArguments [⟨1, 2⟩, ⟨1, 0⟩, .ofInt (-4)] target source bound ∧
      textInBlock.CanCopy target source bound) ∧
    ∃ fault after, (anyComparison.copying [⟨1, 3⟩, ⟨1, 0⟩, .ofInt (-4)]).run.run textInBlock =
      (.error fault, after) ∧ after.heap = textInBlock.heap := by
  have copies := copies_take_the_source textInBlock anyComparison
  have read : textInBlock.heap.readString ⟨1, 0⟩ = .ok #[65, 66] := by decide +kernel
  have can : textInBlock.CanCopy ⟨1, 1⟩ ⟨1, 0⟩ none :=
    ⟨#[65, 66, 0], by rw [Heap.taken, read]; rfl, fun _ => ⟨_, rfl⟩⟩
  obtain ⟨answer, after, ended⟩ :=
    (copies [⟨1, 1⟩, ⟨1, 0⟩]).2.2.mpr ⟨_, _, none, ⟨rfl, rfl, none, rfl, rfl⟩, can⟩
  obtain ⟨source, bound, ⟨⟨⟩, ⟨⟩, word, third, rfl⟩, copied⟩ := (copies _).1 _ _ ended
  -- No third argument was given, so the copy has no bound.
  have unbounded : word.map signedWord = none := by
    cases word with
    | none => rfl
    | some word => cases third
  obtain ⟨text, readToo, copiedToo, -⟩ := copied.whole unbounded
  obtain rfl := Except.ok.inj (read.symm.trans readToo)
  have refused : (anyComparison.copying [⟨1, 3⟩, ⟨1, 0⟩, .ofInt (-4)]).run.run textInBlock =
    (.error (.invalidAddress ⟨1, 3⟩ (some .dynmem) 4), textInBlock) := rfl
  exact ⟨⟨after, ended, copiedToo⟩, (copies _).2.2.mp ⟨_, _, rfl⟩,
    _, _, refused, (copies _).2.1 _ _ refused⟩

end Store

end AdventureVm
