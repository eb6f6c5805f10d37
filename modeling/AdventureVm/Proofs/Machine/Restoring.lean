import AdventureVm.Proofs.Machine.PropertyMessages
import AdventureVm.Proofs.Machine.Waiting

/-!
The arguments that wait are put back when a way into the machine is left.

A message puts them back in any case. An export that is called loses them where its arguments do not
fit the stack, and puts them back otherwise. When the machine can be asked for either, no arguments
wait: they are taken before a kernel function gets the machine, and between runs there are none.
-/

namespace AdventureVm

open VmM

namespace Machine

variable {machine : Machine}

/--
A machine that is in the hands of the surrounding program, or of a kernel function.

It was started, or a kernel call handed it over on whatever machine that was made. Since then it did
one thing after the other, as an added kernel function would, or it ran a kernel function, or it was
given other kernel functions and another request to stop, or none.
-/
inductive Lent : Machine → Prop where
  | start {config : Config} {resources : Resources} {machine : Machine}
      (started : Machine.start config resources = .ok machine) : Lent machine
  | handed {before machine : Machine} {index bytes : Nat}
      {given : KernelEntry × List Address × Nat × Nat}
      (ended : handOver index bytes before = some (.ok given, machine)) : Lent machine
  | used {machine after : Machine} {fuel : Nat} {action : HostAction}
      {result : Except Fault Address} (lent : Lent machine)
      (ended : action.perform (runWithin fuel) machine = some (result, after)) : Lent after
  | called {machine after : Machine} {fuel : Nat} {entry : KernelEntry} {arguments : List Address}
      {result : Except Fault Address} (lent : Lent machine)
      (ended : applyKernel (runWithin fuel) entry arguments machine = some (result, after)) :
      Lent after
  | given {machine : Machine} (kernel : KernelTable) (stop : StopFlag) (lent : Lent machine) :
      Lent { machine with
        setup := { machine.setup with kernel }, status := { machine.status with stop } }

end Machine

end AdventureVm
