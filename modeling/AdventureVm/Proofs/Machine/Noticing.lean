import AdventureVm.Proofs.Machine.Loosening

/-!
A run that tells of a request to stop has taken the request.

The request may have been left before the run, by a kernel function, or by another thread. It may
be taken by the run itself or by one inside of it, unless a kernel function that was added makes one
up.
-/

namespace AdventureVm

open VmM

namespace Machine

/-- No request that was taken is forgotten. -/
def Remembers (before after : Machine) : Prop :=
  before.status.stop.taken <:+ after.status.stop.taken

instance : IsPreorder Machine Remembers where
  refl _ := List.suffix_rfl
  trans _ _ _ first second := List.IsSuffix.trans first second

/-- The request was taken in between. -/
def HasTaken (request : StopRequest) (before after : Machine) : Prop :=
  ∃ since, after.status.stop.taken = since ++ before.status.stop.taken ∧ request ∈ since

section Taken

variable {request : StopRequest} {machine before between after : Machine}

/-- What was taken stays taken while nothing is forgotten. -/
theorem HasTaken.later (taken : before.HasTaken request between)
    (remembers : between.Remembers after) : before.HasTaken request after := by
  -- What comes later is put in front.
  obtain ⟨since, same, member⟩ := taken
  obtain ⟨further, sameThen⟩ := remembers
  refine ⟨further ++ since, ?_, List.mem_append_right _ member⟩
  rw [← sameThen, same, List.append_assoc]

/-- What was taken since some time was taken since any time before. -/
theorem HasTaken.earlier (taken : between.HasTaken request after)
    (remembers : before.Remembers between) : before.HasTaken request after := by
  -- What came earlier is put behind.
  obtain ⟨since, same, member⟩ := taken
  obtain ⟨further, sameThen⟩ := remembers
  refine ⟨since ++ further, ?_, List.mem_append_left _ member⟩
  rw [same, ← sameThen, List.append_assoc]

/-- Looking for a request to stop forgets none. -/
theorem remembers_polled (machine : Machine) : machine.Remembers machine.polled :=
  ⟨_, machine.status.stop.taken_take.symm⟩

/-- The request that a look finds has then been taken. -/
theorem hasTaken_polled (found : machine.asked? = some request) :
    machine.HasTaken request machine.polled := by
  -- A look puts the request it finds in front of those that were taken.
  refine ⟨[request], ?_, List.mem_singleton_self _⟩
  have taken := machine.status.stop.taken_take
  rwa [show machine.status.stop.take.1 = some request from found] at taken

end Taken

end Machine

/-- Memory may be worked on and registers may be set without a request being forgotten. -/
instance : Machine.Admits Machine.Remembers where
  store _ machine := (ends_store _ machine _).mpr (Leads.intro fun _ _ _ => List.suffix_rfl)
  registers _ _ _ machine := (ends_modifyContext _ machine _).mpr List.suffix_rfl

/--
The function does not make up a request to stop.

It may pass on a request that ended a run of its own, or that it took itself. What it does after
that is not asked.
-/
inductive HostAction.Honest (request : StopRequest) : HostAction → Prop where
  | finish {result : Except Fault Address} (own : result ≠ .error (.interrupted request)) :
      Honest request (.finish result)
  | send {object : Address} {selector : UInt16} {arguments : List Address}
      {next : Except Fault Address → HostAction}
      (further : ∀ result, result ≠ .error (.interrupted request) → Honest request (next result)) :
      Honest request (.send object selector arguments next)
  | callExport {number : UInt16} {index : Nat} {arguments : List Address}
      {next : Except Fault Address → HostAction}
      (further : ∀ result, result ≠ .error (.interrupted request) → Honest request (next result)) :
      Honest request (.callExport number index arguments next)
  | execute {object : Address} {selector : UInt16} {arguments : List Address}
      {next : RunOutcome → HostAction}
      (further : ∀ outcome, outcome.state ≠ request.finalState → Honest request (next outcome)) :
      Honest request (.execute object selector arguments next)
  | memory {change : Store → Store} {next : Store → HostAction}
      (further : ∀ store, Honest request (next store)) : Honest request (.memory change next)
  | register {name : String} {action : List Address → HostAction} {next : Nat → HostAction}
      (added : ∀ arguments, Honest request (action arguments))
      (further : ∀ index, Honest request (next index)) :
      Honest request (.register name action next)
  | requestStop {other : StopRequest} {next : HostAction} (further : Honest request next) :
      Honest request (.requestStop other next)
  | pendingStop {next : Option StopRequest → HostAction}
      (further : ∀ found, Honest request (next found)) : Honest request (.pendingStop next)
  | takeStop {next : Option StopRequest → HostAction}
      (further : ∀ found, found ≠ some request → Honest request (next found)) :
      Honest request (.takeStop next)
  | clearStop {next : HostAction} (further : Honest request next) :
      Honest request (.clearStop next)
  | collect {next : Collection → HostAction}
      (further : ∀ collection, Honest request (next collection)) : Honest request (.collect next)
  | inspect {next : Context → ExecState → HostAction}
      (further : ∀ context state, Honest request (next context state)) :
      Honest request (.inspect next)
  | takeSnapshot {next : HostAction} (further : Honest request next) :
      Honest request (.takeSnapshot next)

/-- No kernel function that was added makes up a request to stop. -/
def KernelTable.Honest (request : StopRequest) (table : KernelTable) : Prop :=
  ∀ entry ∈ table.entries, ∀ action, entry.function = .host action →
    ∀ arguments, (action arguments).Honest request

/-- Adding a function that makes up no request leaves the functions honest. -/
theorem KernelTable.Honest.register {request : StopRequest} {table : KernelTable}
    (honest : table.Honest request) (name : String) {action : List Address → HostAction}
    (added : ∀ arguments, (action arguments).Honest request) :
    (table.register name action).2.Honest request := by
  have own : ∀ entry : KernelEntry, entry = ⟨name, .host action⟩ →
      ∀ other, entry.function = .host other →
        ∀ arguments, (other arguments).Honest request := by
    rintro _ rfl other same arguments
    cases same
    exact added arguments
  intro entry member
  unfold KernelTable.register at member
  -- The function takes the place of the first one of its name, or comes last.
  split at member
  · rcases Array.mem_or_eq_of_mem_setIfInBounds member with former | new
    · exact honest entry former
    · exact own entry new
  · rcases Array.mem_push.mp member with former | new
    · exact honest entry former
    · exact own entry new

namespace VmM

variable {α β : Type} {request : StopRequest}

/--
The work takes the request before it ends with it.

It does so where no kernel function makes the request up, and as long as it has not taken the
request it leaves kernel functions of that kind. What was taken before is never forgotten.
-/
structure Accounts (request : StopRequest) (work : VmM α) : Prop where
  /-- No request that was taken is forgotten. -/
  remembers : Along Machine.Remembers work
  /-- The request was taken, or the work ends otherwise. -/
  taken : ∀ machine, machine.setup.kernel.Honest request → Ends work machine fun result after =>
    machine.HasTaken request after ∨
      result ≠ .error (.interrupted request) ∧ after.setup.kernel.Honest request

/-- Steady work forgets no request. -/
theorem Steady.remembers {work : VmM α} (steady : Steady work) : Along Machine.Remembers work :=
  fun machine => (steady.genuine machine).mono fun _ _ ended => ⟨[], ended.2.taken.symm⟩

/-- Steady work ends with no request at all. -/
theorem Steady.accounts {work : VmM α} (steady : Steady work) : Accounts request work where
  -- Steady work makes up no request and keeps the table of kernel functions.
  remembers := steady.remembers
  taken machine honest := by
    refine (steady.genuine machine).mono ?_
    intro result after ended
    obtain ⟨genuine, kept⟩ := ended
    refine .inr ⟨?_, kept.setup ▸ honest⟩
    rintro rfl
    exact genuine request rfl

/-- Pieces of work that each take the request first do so together. -/
theorem Accounts.bind {work : VmM α} {next : α → VmM β} (here : Accounts request work)
    (further : ∀ value, Accounts request (next value)) : Accounts request (work >>= next) where
  remembers := here.remembers.bind fun value => (further value).remembers
  taken machine honest := by
    rw [ends_bind]
    refine ((here.remembers machine).and (here.taken machine honest)).mono ?_
    intro outcome between ended
    obtain ⟨remembers, taken⟩ := ended
    cases outcome with
    | error fault => exact taken.imp_right fun own => ⟨by simpa using own.1, own.2⟩
    | ok value =>
      -- The request was taken by the first piece, or it is for the second one to take.
      rcases taken with taken | ⟨_, kept⟩
      · exact ((further value).remembers between).mono fun _ _ later => .inl (taken.later later)
      · exact ((further value).taken between kept).mono fun _ _ ended =>
          ended.imp_left (·.earlier remembers)

/-- Work whose failure is answered is followed by what can deal with any other failure, and forgets
nothing after this one. -/
theorem Accounts.orTells {work : VmM α} {next : Except Fault α → VmM β}
    (here : Accounts request work) (remembers : ∀ result, Along Machine.Remembers (next result))
    (further : ∀ result, result ≠ .error (.interrupted request) → Accounts request (next result)) :
    Accounts request (outcome work >>= next) where
  remembers := here.remembers.outcome.bind remembers
  taken machine honest := by
    rw [ends_bind, ends_outcome]
    refine ((here.remembers machine).and (here.taken machine honest)).mono ?_
    intro result between ended
    obtain ⟨remembersHere, taken⟩ := ended
    rw [either_ok]
    -- The request was taken already, or what comes next has to account for it.
    rcases taken with taken | ⟨own, kept⟩
    · exact (remembers result between).mono fun _ _ later => .inl (taken.later later)
    · exact ((further result own).taken between kept).mono fun _ _ ended =>
        ended.imp_left (·.earlier remembersHere)

/-- Looking at the machine takes no request. -/
theorem accounts_get : Accounts request get where
  remembers := along_get
  taken _ honest := (ends_get _ _).mpr (.inr ⟨by simp, honest⟩)

/-- Reading what the machine was given takes no request. -/
theorem accounts_setup (query : Setup → α) : Accounts request (setup query) where
  remembers := along_setup query
  taken _ honest := (ends_setup _ _ _).mpr (.inr ⟨by simp, honest⟩)

/-- Ending as given does not end with the request when that is not what is given. -/
theorem accounts_ofExcept {result : Except Fault α} (own : result ≠ .error (.interrupted request)) :
    Accounts request (ofExcept result) where
  -- Nothing is run, so the fault is the one that was given.
  remembers := along_ofExcept result
  taken _ honest := (ends_ofExcept _ _ _).mpr (.inr ⟨own, honest⟩)

end VmM

namespace Machine

section Entries

variable {request : StopRequest} {run : Runner}

/-- Ending a run forgets no request. -/
theorem conclude_remembers (rest depth : Nat) (result : Except Fault Unit) :
    Along Remembers (do
      modifyContext fun context => { context with rest }
      conclude depth result) := by
  -- Ending a run changes registers and frames and does not look at the flag.
  refine (steady_modifyContext _).remembers.bind fun _ => ?_
  cases result with
  | ok _ => exact along_context _
  | error fault => exact (steady_modifyContext _).remembers.bind fun _ => along_throw _

/-- Ending a run does not end with the request when the run did not. -/
theorem conclude_accounts (rest depth : Nat) {result : Except Fault Unit}
    (own : result ≠ .error (.interrupted request)) :
    Accounts request (do
      modifyContext fun context => { context with rest }
      conclude depth result) := by
  -- A failure is passed on as it is, and it is not the request.
  refine (steady_modifyContext _).accounts.bind fun _ => ?_
  cases result with
  | ok _ => exact (steady_context _).accounts
  | error fault =>
    refine (steady_modifyContext _).accounts.bind fun _ => ?_
    exact @accounts_ofExcept Address request (.error fault) (by simpa using own)

variable (accounts : ∀ depth, Accounts request (run depth))
include accounts

/-- Sending a message takes the request before it ends with it, if running does. -/
theorem sendVia_accounts (object : Address) (selector : UInt16) (arguments : List Address) :
    Accounts request (sendVia run object selector arguments) := by
  -- All pieces but the run are steady, and the run is the assumption.
  refine (steady_context _).accounts.bind fun depth => (steady_context _).accounts.bind fun base =>
    takeRest_steady.accounts.bind fun rest => ?_
  refine Accounts.orTells ?_ (conclude_remembers rest depth) fun _ => conclude_accounts rest depth
  exact (writeMessage_steady _ _ _).accounts.bind fun words =>
    (dispatch_steady _ _ _ _).accounts.bind fun _ => accounts depth

/-- Calling an export takes the request before it ends with it, if running does. -/
theorem callExportVia_accounts (number : UInt16) (index : Nat) (arguments : List Address) :
    Accounts request (callExportVia run number index arguments) := by
  -- All pieces but the run are steady, and the run is the assumption.
  refine (scriptExport_steady _ _).accounts.bind fun target => (steady_context _).accounts.bind
    fun context => takeRest_steady.accounts.bind fun rest => (stackSetAll_steady _ _).accounts.bind
    fun _ => (steady_require fun _ => Heap.script_genuine _).accounts.bind fun script => ?_
  refine Accounts.orTells ?_ (conclude_remembers rest _) fun _ => conclude_accounts rest _
  exact (pushFrame_steady _).accounts.bind fun _ => accounts _

/-- Whatever an added function may ask for forgets no request. -/
theorem grants_remembers : Grants Remembers (fun _ => True) run where
  -- One field for each thing that an added function may ask for.
  send object selector arguments := (sendVia_accounts accounts object selector arguments).remembers
  callExport number index arguments :=
    (callExportVia_accounts accounts number index arguments).remembers
  abort := (steady_setState _).remembers
  status _ goesOn machine := (ends_modifyStatus _ machine _).mpr (goesOn machine.status).taken
  memory _ machine := (ends_storeState _ machine _).mpr List.suffix_rfl
  register _ _ _ machine := (ends_modifyGet _ machine _).mpr List.suffix_rfl
  collect := collectGarbage_steady.remembers

end Entries

section Told

variable {request : StopRequest} {run : Runner}

/-- Each of the requests but the abort leaves a state that nothing else leaves. -/
theorem result_of_told (special : request ≠ .abort) {before after : Machine}
    {result : Except Fault Address}
    (leaves : (after.told before result).state = request.finalState) :
    result = .error (.interrupted request) := by
  rw [told_state] at leaves
  -- Every other way to end leaves halted or aborted.
  cases result with
  | ok acc => cases request <;> cases leaves
  | error fault =>
    cases fault with
    | interrupted other => cases request <;> cases other <;> first | rfl | cases leaves
    | _ =>
      cases request with
      | abort => exact absurd rfl special
      | restart => cases leaves
      | restoreGame => cases leaves

/-- A run from outside that tells of the request has taken it, if running takes it first. -/
theorem executeVia_accounts (special : request ≠ .abort)
    (accounts : ∀ depth, Accounts request (run depth)) (object : Address) (selector : UInt16)
    (arguments : List Address) {machine : Machine}
    (honest : machine.setup.kernel.Honest request) :
    Ends (executeVia run object selector arguments) machine fun result after =>
      machine.HasTaken request after ∨
        (∃ outcome, result = .ok outcome ∧ outcome.state ≠ request.finalState) ∧
          after.setup.kernel.Honest request := by
  intro result after ended
  rw [executeVia_eq] at ended
  obtain ⟨⟨result, between⟩, sent, same⟩ := Option.map_eq_some_iff.mp ended
  cases same
  -- What is told at the end is read off how the message was answered.
  have ends := (sendVia_accounts accounts object selector arguments).taken machine honest _ _ sent
  obtain ⟨_, setup, stop⟩ := closed_same machine between result
  rw [HasTaken, setup, stop]
  refine ends.imp_right fun own => ⟨⟨_, rfl, fun leaves => ?_⟩, own.2⟩
  exact own.1 (result_of_told special leaves)

end Told

end Machine

/-- What an honest function asks for takes the request before it ends with it, if running does. -/
theorem HostAction.Honest.perform_accounts {request : StopRequest} {run : Runner}
    (special : request ≠ .abort) (accounts : ∀ depth, Accounts request (run depth))
    {action : HostAction} (honest : action.Honest request) :
    Accounts request (action.perform run) := by
  -- Once the request was taken, a function may do what it likes: nothing is forgotten any more.
  have remembers (action : HostAction) : Along Machine.Remembers (action.perform run) :=
    (Machine.grants_remembers accounts).perform action.respects_all
  induction honest with
  | finish own => exact accounts_ofExcept own
  | send _ ih =>
    exact (Machine.sendVia_accounts accounts _ _ _).orTells (fun _ => remembers _) ih
  | callExport _ ih =>
    exact (Machine.callExportVia_accounts accounts _ _ _).orTells (fun _ => remembers _) ih
  | @execute object selector arguments next _ ih =>
    refine ⟨remembers _, fun machine honest => ?_⟩
    have sends := Machine.executeVia_along
      (Machine.sendVia_accounts accounts object selector arguments).remembers
      (steady_setState _).remembers
    -- Where the run tells of anything else, the function goes on honestly.
    rw [perform, ends_bind]
    refine ((sends machine).and
      (Machine.executeVia_accounts special accounts _ _ _ honest)).mono ?_
    intro result between ended
    obtain ⟨remembersHere, taken⟩ := ended
    rcases taken with taken | ⟨⟨outcome, rfl, apart⟩, kept⟩
    · cases result with
      | ok outcome =>
        exact (remembers (next outcome) between).mono fun _ _ later => .inl (taken.later later)
      | error fault => exact .inl taken
    · exact ((ih outcome apart).taken between kept).mono fun _ _ ended =>
        ended.imp_left (·.earlier remembersHere)
  | memory _ ih =>
    refine Accounts.bind ?_ fun _ => accounts_get.bind fun machine => ih machine.store
    exact ⟨fun machine => (ends_storeState _ machine _).mpr List.suffix_rfl,
      fun machine honest => (ends_storeState _ machine _).mpr (.inr ⟨by simp, honest⟩)⟩
  | @register name _ _ added _ _ ih =>
    refine Accounts.bind ?_ ih
    exact ⟨fun machine => (ends_modifyGet _ machine _).mpr List.suffix_rfl,
      fun machine honest =>
        (ends_modifyGet _ machine _).mpr (.inr ⟨by simp, honest.register name added⟩)⟩
  | requestStop _ ih => exact (Machine.requestStop_steady _).accounts.bind fun _ => ih
  | pendingStop _ ih => exact Machine.pendingStop_steady.accounts.bind ih
  | @takeStop next _ ih =>
    refine ⟨remembers _, fun machine honest => ?_⟩
    rw [perform, ends_bind, Machine.ends_takeStop, either_ok]
    -- Either the function takes the request here, or it goes on without it.
    by_cases found : machine.asked? = some request
    · exact (remembers (next machine.asked?) machine.polled).mono fun _ _ later =>
        .inl ((Machine.hasTaken_polled found).later later)
    · exact ((ih _ found).taken machine.polled honest).mono fun _ _ ended =>
        ended.imp_left (·.earlier machine.remembers_polled)
  | clearStop _ ih => exact Machine.clearStop_steady.accounts.bind fun _ => ih
  | collect _ ih => exact Machine.collectGarbage_steady.accounts.bind ih
  | inspect _ ih => exact accounts_get.bind fun machine => ih machine.context machine.status.state
  | takeSnapshot _ ih =>
    have notes (machine : Machine) : Accounts request (modifyStatus fun status =>
        { status with snapshots := status.snapshots.push machine.snapshot }) :=
      (steady_modifyStatus (fun status =>
        { status with snapshots := status.snapshots.push machine.snapshot }) fun _ => rfl).accounts
    exact (accounts_get.bind notes).bind fun _ => ih

namespace Machine

variable {request : StopRequest} {run : Runner}

/-- Running a kernel function of an honest table takes the request before it ends with it, if
running does. -/
theorem applyKernel_accounts (special : request ≠ .abort)
    (accounts : ∀ depth, Accounts request (run depth)) {table : KernelTable}
    (honest : table.Honest request) {index : Nat} {entry : KernelEntry}
    (listed : table.get? index = some entry) (arguments : List Address) :
    Accounts request (applyKernel run entry arguments) := by
  cases function : entry.function with
  -- Only a function that was added acts on its own, and it does so honestly.
  | host action =>
    have own := honest entry (Array.mem_of_getElem? listed) action function arguments
    rw [applyKernel, function]
    exact own.perform_accounts special accounts
  | _ => exact (applyKernel_steady run arguments (by simp [function])).accounts

/-- Calling a kernel function takes the request before it ends with it, if running does. -/
theorem callKernel_accounts (special : request ≠ .abort)
    (accounts : ∀ depth, Accounts request (run depth)) (index bytes : Nat) :
    Accounts request (callKernel run index bytes) := by
  refine countKernelCall_steady.accounts.bind fun _ => (callBase_steady bytes).accounts.bind
    fun found => (stackSlice_steady _ _).accounts.bind fun arguments => ?_
  -- What comes after the function passes on how that ended.
  let further (depth : Nat) (result : Except Fault Address) : VmM Unit := do
    VmM.setState .running
    VmM.modifyContext (·.truncate depth)
    VmM.setAcc (← VmM.ofExcept result)
    setStackPointer found.1
  have remembers (depth : Nat) (result : Except Fault Address) :
      Along Remembers (further depth result) :=
    (steady_setState _).remembers.bind fun _ => (steady_modifyContext _).remembers.bind fun _ =>
      (along_ofExcept result).bind fun value => (steady_setAcc value).remembers.bind fun _ =>
        (setStackPointer_steady _).remembers
  have goesOn (depth : Nat) (result : Except Fault Address)
      (own : result ≠ .error (.interrupted request)) : Accounts request (further depth result) :=
    (steady_setState _).accounts.bind fun _ => (steady_modifyContext _).accounts.bind fun _ =>
      (accounts_ofExcept own).bind fun value => (steady_setAcc value).accounts.bind fun _ =>
        (setStackPointer_steady _).accounts
  constructor
  case remembers =>
    -- Whatever the function is, it forgets nothing.
    refine (along_setup _).bind fun entry => ?_
    cases entry with
    | none => exact along_throw _
    | some entry =>
      exact (steady_note _ _).remembers.bind fun _ => (along_context _).bind fun depth =>
        (steady_setState _).remembers.bind fun _ => ((grants_remembers accounts).applyKernel
          entry.respects_all arguments).outcome.bind (remembers depth)
  case taken =>
    -- The function comes from the table, whose functions make up no request.
    intro machine honest
    rw [ends_bind, ends_setup, either_ok]
    cases listed : machine.setup.kernel.get? index with
    | none => exact (steady_throw (by simp)).accounts.taken machine honest
    | some entry =>
      have applies := applyKernel_accounts special accounts honest listed arguments
      exact ((steady_note _ _).accounts.bind fun _ => (steady_context _).accounts.bind fun depth =>
        (steady_setState _).accounts.bind fun _ =>
          applies.orTells (remembers depth) (goesOn depth)).taken machine honest

/-- Recording an instruction takes no request. -/
theorem traceInstruction_accounts (frame : Frame) (instruction : Instruction) :
    Accounts request (traceInstruction frame instruction) := by
  -- Recording reads the machine and writes to the journal.
  refine accounts_get.bind fun machine => ?_
  split
  · exact (steady_pure _).accounts
  · exact (steady_note _ _).accounts

/-- A step takes the request before it ends with it, if running does. -/
theorem step_accounts (special : request ≠ .abort)
    (accounts : ∀ depth, Accounts request (run depth)) : Accounts request (step run) := by
  have executes (instruction : Instruction) (next : Address) :
      Accounts request (execute run instruction next) := by
    by_cases kernel : instruction.operation = .callKernel
    · refine (steady_context _).accounts.bind fun acc => ?_
      rw [kernel]
      exact callKernel_accounts special accounts _ _
    · exact (execute_steady run next kernel).accounts
  have carries (frame : Frame) (instruction : Instruction) :
      Accounts request (carryOut run frame instruction) :=
    (modifyFrame_steady _).accounts.bind fun _ => steady_countStep.accounts.bind fun _ =>
      executes instruction _
  -- The instruction is carried out whether or not it is recorded.
  have advances (frame : Frame) : Accounts request (advance run frame) := by
    refine (steady_require fun _ => instructionAt_genuine _ _).accounts.bind fun instruction =>
      (accounts_setup _).bind fun traced => ?_
    dsimp only
    split
    · exact (traceInstruction_accounts frame instruction).bind fun _ => carries frame instruction
    · exact carries frame instruction
  -- A step accesses a property, or it reads an instruction and carries it out.
  rw [step_eq]
  refine frame_steady.accounts.bind fun frame => ?_
  split
  · exact (accessSelected_steady frame _).accounts
  · exact advances frame

/-- Setting what the machine is doing before and after a run takes the request before it ends with
it, if the run does. -/
theorem settle_accounts (depth : Nat) {work : VmM Unit} (accounts : Accounts request work) :
    Accounts request (settle depth work) := by
  refine (steady_status _).accounts.bind fun outer => (steady_setState _).accounts.bind fun _ =>
    accounts.orTells ?_ ?_
  · -- Whatever the run ended with, setting the state forgets nothing.
    intro result
    cases result with
    | ok _ => exact (steady_setState _).remembers
    | error fault =>
      exact (steady_modifyContext _).remembers.bind fun _ =>
        (steady_setState _).remembers.bind fun _ => along_throw _
  · intro result own
    -- A failure of the run is passed on, and it is not the request.
    cases result with
    | ok _ => exact (steady_setState _).accounts
    | error fault =>
      refine (steady_modifyContext _).accounts.bind fun _ => (steady_setState _).accounts.bind
        fun _ => ?_
      exact @accounts_ofExcept Unit request (.error fault) own

/-- A run of any number of steps takes the request before it ends with it. -/
theorem runUntil_accounts (special : request ≠ .abort) (fuel depth : Nat) :
    Accounts request (runUntil fuel depth) := by
  -- The runs inside of a step have fewer steps left.
  induction fuel generalizing depth with
  | zero => exact ⟨fun _ => ends_runUntil_zero, fun _ _ => ends_runUntil_zero⟩
  | succ fuel ih =>
    have steps : Accounts request (step (runWithin fuel)) :=
      step_accounts special fun depth => settle_accounts depth (ih depth)
    constructor
    case remembers =>
      intro machine
      apply ends_runUntil_succ
      case returned => exact fun _ => refl machine
      case stopped => exact fun _ _ => machine.remembers_polled
      case steps =>
        intro _ _
        refine (steps.remembers machine.polled).mono ?_
        intro ending between remembers
        have remembersThere := IsTrans.trans _ _ _ machine.remembers_polled remembers
        cases ending with
        | ok _ =>
          exact ((ih depth).remembers between).mono fun _ _ later =>
            IsTrans.trans _ _ _ remembersThere later
        | error fault => exact remembersThere
    case taken =>
      intro machine honest
      apply ends_runUntil_succ
      case returned => exact fun _ => .inr ⟨by simp, honest⟩
      case stopped =>
        -- The run ends with the request that it has just taken, whichever that is.
        intro other found
        by_cases same : other = request
        · exact .inl (hasTaken_polled (found.trans (congrArg some same)))
        · exact .inr ⟨by simpa using same, honest⟩
      case steps =>
        intro _ _
        refine ((steps.remembers machine.polled).and (steps.taken machine.polled honest)).mono ?_
        intro ending between ended
        have remembersThere := IsTrans.trans _ _ _ machine.remembers_polled ended.1
        have taken := ended.2.imp_left (·.earlier machine.remembers_polled)
        cases ending with
        | error fault => exact taken.imp_right fun own => ⟨by simpa using own.1, own.2⟩
        | ok _ =>
          rcases taken with taken | ⟨_, kept⟩
          · exact ((ih depth).remembers between).mono fun _ _ later => .inl (taken.later later)
          · exact ((ih depth).taken between kept).mono fun _ _ ended =>
              ended.imp_left (·.earlier remembersThere)

/-- A run takes the request before it ends with it. -/
theorem runWithin_accounts (special : request ≠ .abort) (fuel depth : Nat) :
    Accounts request (runWithin fuel depth) :=
  settle_accounts depth (runUntil_accounts special fuel depth)

/-- A run from outside that tells of the request has taken it. -/
theorem hasTaken_of_told (special : request ≠ .abort) {fuel : Nat} {object : Address}
    {selector : UInt16} {arguments : List Address} {machine after : Machine} {outcome : RunOutcome}
    (honest : machine.setup.kernel.Honest request)
    (ended : executeVia (runWithin fuel) object selector arguments machine =
      some (.ok outcome, after))
    (told : outcome.state = request.finalState) : machine.HasTaken request after := by
  have ends := executeVia_accounts special (runWithin_accounts special fuel) object selector
    arguments honest _ _ ended
  -- Otherwise it would have told of something else.
  refine ends.resolve_right fun own => ?_
  obtain ⟨⟨_, same, apart⟩, _⟩ := own
  cases same
  exact apart told

end Machine

end AdventureVm
