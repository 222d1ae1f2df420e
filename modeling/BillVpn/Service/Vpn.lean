import Mathlib.Logic.Function.Basic
import BillVpn.Go.Run

/-!
# The VPN service and its coroutines

`BillVpnService` handles START and STOP commands on the main thread.  A start establishes the TUN
device, detaches its descriptor and leaves the rest to a coroutine; a stop leaves everything to a
coroutine.  They share seven variables and the Go core.

* `Service`                 the variables, the core, and where each coroutine stands;
* `StartPc`, `StopPc`       the steps of the two coroutines: a synchronized block, a call of the
                            core, or a group of statements is one step;
* `step`                    every step of the commands and of the coroutines.

A start coroutine is named by the descriptor it was launched with, a stop coroutine by a number.
What is closed and what the core is started with is recorded in the state.  A coroutine that only
takes the service down, and the one that publishes the log, touch none of this; `vpnInterface` is
`null` again before the group of statements that sets it is over.
-/

set_option linter.unusedVariables false

namespace Bill
open Go

inductive StartPc where
  | ensureConfigFile
  | consumeStop
  | closeConsumed
  | setWorkingDir
  | claimFd
  | startBill
  | startFailed
  | started
  | recheckStop
  | callStop
  | finish
deriving DecidableEq, Repr

inductive StopPc where
  | begin
  | shutdown
  | stopCore
  | closeFd
  | publishLogs
  | reset
  | clearPending
  | leave
  | finish
deriving DecidableEq, Repr

inductive Command where
  | start | stop
deriving DecidableEq, Repr

structure Service where
  isStarting : Bool := false
  isStopping : Bool := false
  coreStarted : Bool := false
  coreOwnsTunFd : Bool := false
  pendingStopRequested : Bool := false
  coreStopIssued : Bool := false
  coreTunFd : Option Nat := none
  /-- the descriptor of the core, while it is running -/
  coreFd : Option Nat := none
  /-- a START has passed the lock and the device is not established yet -/
  establishing : Bool := false
  starts : Nat → Option StartPc := fun _ => none
  stops : Nat → Option StopPc := fun _ => none
  nextFd : Nat := 0
  nextStop : Nat := 0
  lastCommand : Option Command := none
  /-- every descriptor at every time it was closed -/
  closed : List Nat := []
  /-- the descriptors that were closed when the core was started with them -/
  deadStarts : List Nat := []

/-! ## what the steps share -/

def closePendingTunFd (s : Service) : Service :=
  match s.coreTunFd with
  | none => s
  | some fd => { s with coreTunFd := none, closed := fd :: s.closed }

def Service.goto (s : Service) (fd : Nat) (pc : Option StartPc) : Service :=
  { s with starts := Function.update s.starts fd pc }

def Service.gotoStop (s : Service) (i : Nat) (pc : Option StopPc) : Service :=
  { s with stops := Function.update s.stops i pc }

def launchStop (s : Service) : Service :=
  { s with stops := Function.update s.stops s.nextStop (some .begin), nextStop := s.nextStop + 1 }

/-- the lock, and the coroutine; while another stop is going on a second coroutine is launched -/
def stopVpn (s : Service) : Service :=
  if s.isStopping then launchStop s
  else if !s.isStarting && !s.coreStarted && s.coreTunFd.isNone then s
  else launchStop { s with pendingStopRequested := true, isStopping := true }

/-- `Mobile.startBill`: a core that is running ignores the descriptor -/
def mobileStartBill (ok : Bool) (fd : Nat) (s : Service) : Service × Bool :=
  let s := { s with deadStarts := if fd ∈ s.closed then fd :: s.deadStarts else s.deadStarts }
  if s.coreFd.isSome then (s, true)
  else if ok then ({ s with coreFd := some fd }, true)
  else (s, false)

/-- `Mobile.stopBill`: the core closes its descriptor -/
def mobileStopBill (s : Service) : Service :=
  match s.coreFd with
  | none => s
  | some fd => { s with coreFd := none, closed := fd :: s.closed }

/-! ## the steps -/

/-- the test of `startVpn` -/
def Service.accepts (s : Service) : Bool :=
  !s.isStarting && !s.isStopping && !s.coreStarted && s.coreTunFd.isNone

/-- the lock of `startVpn` -/
def startCommand (s : Service) : Service :=
  let s := { s with lastCommand := some .start }
  if s.accepts then
    { s with isStarting := true, pendingStopRequested := false, coreStopIssued := false,
             establishing := true }
  else s

/-- the rest of `startVpn`, with a device or without -/
def establish (ok : Bool) (s : Service) : Service :=
  if ok then
    { s with establishing := false, coreTunFd := some s.nextFd, nextFd := s.nextFd + 1,
             starts := Function.update s.starts s.nextFd (some .ensureConfigFile) }
  else { s with establishing := false, isStarting := false }

def stopCommand (s : Service) : Service := stopVpn { s with lastCommand := some .stop }

/-- one step of the start coroutine of `fd`; `ok` is whether a call succeeds -/
def startStep (fd : Nat) (ok : Bool) (s : Service) : Service :=
  match s.starts fd with
  | none => s
  | some .ensureConfigFile => s.goto fd (some (if ok then .consumeStop else .callStop))
  | some .consumeStop =>
    if s.pendingStopRequested then
      { s with pendingStopRequested := false }.goto fd (some .closeConsumed)
    else s.goto fd (some .setWorkingDir)
  | some .closeConsumed => (closePendingTunFd s).goto fd (some .finish)
  | some .setWorkingDir => s.goto fd (some .claimFd)
  | some .claimFd =>
    if s.pendingStopRequested then (closePendingTunFd s).goto fd (some .finish)
    else { s with coreOwnsTunFd := true }.goto fd (some .startBill)
  | some .startBill =>
    let r := mobileStartBill ok fd s
    r.1.goto fd (some (if r.2 then .started else .startFailed))
  | some .startFailed =>
    (closePendingTunFd { s with coreOwnsTunFd := false }).goto fd (some .callStop)
  | some .started => { s with coreStarted := true }.goto fd (some .recheckStop)
  | some .recheckStop =>
    if s.pendingStopRequested then { s with pendingStopRequested := false }.goto fd (some .callStop)
    else s.goto fd (some .finish)
  | some .callStop => (stopVpn s).goto fd (some .finish)
  | some .finish => { s with isStarting := false }.goto fd none

/-- the lock of `performCoreShutdownIfNeeded`: whether the core has to be stopped -/
def Service.mustStopCore (s : Service) : Bool :=
  !s.coreStopIssued && (s.coreOwnsTunFd || s.coreStarted)

def stopStep (i : Nat) (s : Service) : Service :=
  match s.stops i with
  | none => s
  | some .begin => s.gotoStop i (some .shutdown)
  | some .shutdown =>
    { s with coreStopIssued := true }.gotoStop i (some (if s.mustStopCore then .stopCore else .closeFd))
  | some .stopCore => (mobileStopBill s).gotoStop i (some .publishLogs)
  | some .closeFd => (closePendingTunFd s).gotoStop i (some .publishLogs)
  | some .publishLogs => s.gotoStop i (some .reset)
  | some .reset =>
    { s with coreStarted := false, coreOwnsTunFd := false, coreTunFd := none }.gotoStop i
      (some .clearPending)
  | some .clearPending => { s with pendingStopRequested := false }.gotoStop i (some .leave)
  | some .leave => s.gotoStop i (some .finish)
  | some .finish => { s with isStarting := false, isStopping := false }.gotoStop i none

inductive ServiceEvent where
  | start
  | stop
  | establish (ok : Bool)
  | startStep (fd : Nat) (ok : Bool)
  | stopStep (i : Nat)
deriving DecidableEq, Repr

/-- the main thread takes no command while it establishes a device -/
def serviceStep : ServiceEvent → Service → Service
  | .start, s => if s.establishing then s else startCommand s
  | .stop, s => if s.establishing then s else stopCommand s
  | .establish ok, s => if s.establishing then establish ok s else s
  | .startStep fd ok, s => startStep fd ok s
  | .stopStep i, s => stopStep i s

/-- no coroutine is pending and the main thread is idle -/
structure Service.Quiet (s : Service) : Prop where
  main : s.establishing = false
  starts : ∀ fd, s.starts fd = none
  stops : ∀ i, s.stops i = none

end Bill
