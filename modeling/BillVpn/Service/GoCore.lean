import BillVpn.Service.Safety
import BillVpn.Go.HostPortText
import BillVpn.Go.Case

/-!
# The Go core under the service

`StartBill` and `StopBill` of the mobile API start and stop the engine: a device on the descriptor
of the TUN, a network stack on the device, and the proxy that the tunnel dials through.  A start can
fail at each of these.  The service knows nothing of it but the text that `StartBill` returns.

* `engineStart`, `engineStop`   the engine, with everything it leaves behind when a start fails;
* `startBill`, `stopBill`       the mobile API on top of it;
* `CoreOk`                      stacks and proxies in every state of the core; a `CreateStack` that
                                fails leaves a stack that nobody closes;
* `Phone`, `phoneStep`          the service with this core in the place of its `coreFd`;
* `phoneStep_abs`               a step of the phone is a step of the service;
* `phone_refines`               **every run with the Go core is a run of the service**, so that the
                                core is down, with the stacks it got closed, after a STOP in time.
-/

set_option linter.unusedVariables false

namespace Bill
open Go

/-! ## the engine -/

inductive EngineProxy where
  /-- `BillProxy`, injected by the mobile API -/
  | bill
  | parsed (text : Bytes)
deriving DecidableEq, Repr

inductive Device where
  | fd (fd : Int) (mtu : Nat)
  | tun (name : Bytes) (mtu : Nat)
deriving DecidableEq, Repr

structure EngineKey where
  mtu : Nat := 0
  proxy : Bytes := []
  restAPI : Bytes := []
  device : Bytes := []
  logLevel : Bytes := []
  iface : Bytes := []
  tcpSendBufferSize : Bytes := []
  tcpReceiveBufferSize : Bytes := []
  multicastGroups : Bytes := []
  /-- in nanoseconds -/
  udpTimeout : Int := 0
deriving DecidableEq, Repr

/-- what the libraries answer during a start -/
structure EngineEnv where
  /-- of a directory and the name of a file in it -/
  loadConfig : Bytes → Bytes → Except String Unit
  parseLevel : Bytes → Except String Unit
  interfaceByName : Bytes → Except String Unit
  parseRestAPI : Bytes → Except String Unit
  parseProxy : Bytes → Except String Unit
  /-- the scheme and the host of a URL -/
  urlParse : Bytes → Except String (Bytes × Bytes)
  newEndpoint : Int → Nat → Except String Unit
  openTUN : Bytes → Nat → Except String Unit
  parseMulticastGroups : Bytes → Except String Unit
  ramInBytes : Bytes → Except String Unit
  createStack : Except String Unit

structure Engine where
  key : Option EngineKey := none
  customProxy : Option EngineProxy := none
  proxy : Option EngineProxy := none
  /-- the dialer of the tunnel -/
  dialer : Option EngineProxy := none
  device : Option Device := none
  /-- the stacks are numbered in the order in which they are made -/
  stack : Option Nat := none
  stacksMade : Nat := 0
  closedStacks : List Nat := []
  /-- made by a `CreateStack` that failed afterwards, and never closed -/
  droppedStacks : List Nat := []

/-- the stacks that nobody uses any more -/
def Engine.goneStacks (e : Engine) : List Nat := e.closedStacks ++ e.droppedStacks

/-- `strings.Contains` -/
def containsText (sub : Bytes) : Bytes → Bool
  | [] => sub.isPrefixOf []
  | c :: s => sub.isPrefixOf (c :: s) || containsText sub s

/-- `fdbased.Open` -/
def openFD (env : EngineEnv) (name : Bytes) (mtu : Nat) : Except String Device :=
  match atoi name with
  | none => .error ("cannot open fd: " ++ textOf name)
  | some fd =>
    let mtu := if mtu = 0 then 1500 else mtu
    match env.newEndpoint fd mtu with
    | .error e => .error ("create endpoint: " ++ e)
    | .ok _ => .ok (.fd fd mtu)

def parseDevice (env : EngineEnv) (s : Bytes) (mtu : Nat) : Except String Device :=
  match env.urlParse (if containsText (lit "://") s then s else lit "tun://" ++ s) with
  | .error e => .error e
  | .ok (scheme, host) =>
    if asciiLower scheme = lit "fd" then openFD env host mtu
    else if asciiLower scheme = lit "tun" then (env.openTUN host mtu).map fun _ => .tun host mtu
    else .error ("unsupported driver: " ++ textOf (asciiLower scheme))

def general (env : EngineEnv) (k : EngineKey) : Except String Unit := do
  env.parseLevel k.logLevel
  if k.iface ≠ [] then env.interfaceByName k.iface
  if 0 < k.udpTimeout ∧ k.udpTimeout < 10 ^ 9 then throw "invalid udp timeout value"

def restAPI (env : EngineEnv) (k : EngineKey) : Except String Unit :=
  if k.restAPI ≠ [] then env.parseRestAPI k.restAPI else .ok ()

/-- the groups and the sizes of the buffers, which are read between the device and the stack -/
def stackOptions (env : EngineEnv) (k : EngineKey) : Except String Unit := do
  env.parseMulticastGroups k.multicastGroups
  if k.tcpSendBufferSize ≠ [] then env.ramInBytes k.tcpSendBufferSize
  if k.tcpReceiveBufferSize ≠ [] then env.ramInBytes k.tcpReceiveBufferSize

def netstackStack (env : EngineEnv) (k : EngineKey) (e : Engine) : Except String Unit × Engine :=
  match stackOptions env k with
  | .error x => (.error x, e)
  | .ok _ =>
    -- `CreateStack` makes the stack first, and returns `nil` if one of its options fails
    match env.createStack with
    | .error x => (.error x, { e with
        stack := none
        stacksMade := e.stacksMade + 1
        droppedStacks := e.stacksMade :: e.droppedStacks })
    | .ok _ => (.ok (), { e with stack := some e.stacksMade, stacksMade := e.stacksMade + 1 })

def netstackDevice (env : EngineEnv) (k : EngineKey) (e : Engine) : Except String Unit × Engine :=
  match parseDevice env k.device k.mtu with
  | .error x => (.error x, { e with device := none })
  | .ok d => netstackStack env k { e with device := some d }

/-- the proxy of the engine: the custom one, or the one that the key names -/
def chooseProxy (env : EngineEnv) (k : EngineKey) (e : Engine) : Except String EngineProxy :=
  match e.customProxy with
  | some p => .ok p
  | none => (env.parseProxy k.proxy).map fun _ => .parsed k.proxy

def netstack (env : EngineEnv) (k : EngineKey) (e : Engine) : Except String Unit × Engine :=
  if k.proxy = [] ∧ e.customProxy = none then (.error "empty proxy", e)
  else if k.device = [] then (.error "empty device", e)
  else
    match chooseProxy env k e with
    | .error x => (.error x, { e with proxy := none })
    | .ok p => netstackDevice env k { e with proxy := some p, dialer := some p }

/-- `start` -/
def engineStart (env : EngineEnv) (e : Engine) : Except String Unit × Engine :=
  match e.key with
  | none => (.error "empty key", e)
  | some k =>
    match general env k with
    | .error x => (.error x, e)
    | .ok _ =>
      match restAPI env k with
      | .error x => (.error x, e)
      | .ok _ => netstack env k e

/-- `stop`: the device that it closes, and the engine after it -/
def engineStop (e : Engine) : List Device × Engine :=
  (e.device.toList, { e with closedStacks := e.stack.toList ++ e.closedStacks })

/-! ## the mobile API -/

structure GoCore where
  workingDir : Bytes := []
  isRunning : Bool := false
  /-- `coreLogWriter` is a `LogWriter`, not the standard output -/
  logsToApp : Bool := false
  engine : Engine := {}

def setWorkingDir (dir : Bytes) (c : GoCore) : GoCore := { c with workingDir := dir }

/-- the key for the descriptor `fd` -/
def keyFor (fd : Nat) : EngineKey :=
  { device := lit "fd://" ++ itoa fd, logLevel := lit "info", mtu := 1500 }

/-- `StartBill` once the configuration is loaded -/
def startEngine (env : EngineEnv) (fd : Nat) (c : GoCore) : GoCore × String :=
  match engineStart env { c.engine with customProxy := some .bill, key := some (keyFor fd) } with
  | (.error x, e) =>
    ({ c with engine := { e with customProxy := none } }, "engine start error: " ++ x)
  | (.ok _, e) => ({ c with engine := e, isRunning := true }, "")

/-- `StartBill`: the core, and the text it returns -/
def startBill (env : EngineEnv) (fd : Nat) (configName : Bytes) (c : GoCore) : GoCore × String :=
  if c.workingDir = [] then (c, "working directory not set")
  else if c.isRunning then (c, "")
  else
    match env.loadConfig c.workingDir (configName ++ lit ".json") with
    | .error x => ({ c with logsToApp := true }, "load config error: " ++ x)
    | .ok _ => startEngine env fd { c with logsToApp := true }

/-- `StopBill`: the devices it closes, and the core -/
def stopBill (c : GoCore) : List Device × GoCore :=
  if c.isRunning then
    ((engineStop c.engine).1,
      { c with
        engine := { (engineStop c.engine).2 with customProxy := none }
        isRunning := false
        logsToApp := false })
  else ([], c)

/-! ## what a start can do -/

structure SameStacks (e e' : Engine) : Prop where
  made : e'.stacksMade = e.stacksMade
  closed : e'.closedStacks = e.closedStacks
  dropped : e'.droppedStacks = e.droppedStacks

structure OneDropped (e e' : Engine) : Prop where
  made : e'.stacksMade = e.stacksMade + 1
  closed : e'.closedStacks = e.closedStacks
  dropped : e'.droppedStacks = e.stacksMade :: e.droppedStacks

/-- a start that got through, on the descriptor `fd` -/
structure Up (fd : Nat) (e e' : Engine) : Prop where
  made : e'.stacksMade = e.stacksMade + 1
  gone : e'.goneStacks = e.goneStacks
  stack : e'.stack = some e.stacksMade
  device : ∃ mtu, e'.device = some (.fd fd mtu)
  custom : e'.customProxy = e.customProxy
  dialer : e'.dialer = e.customProxy

/-- what `url.Parse` is documented to do with such a text -/
def EngineEnv.Lawful (env : EngineEnv) : Prop :=
  ∀ fd : Nat, env.urlParse (lit "fd://" ++ itoa fd) = .ok (lit "fd", itoa fd)

/-- `engineStart`, whatever the libraries answer -/
def Started (fd : Nat) (e : Engine) (r : Except String Unit × Engine) : Prop :=
  match r.1 with
  | .error _ => SameStacks e r.2 ∨ OneDropped e r.2
  | .ok _ => Up fd e r.2

section
variable {env : EngineEnv} {fd : Nat} {e : Engine}

theorem openFD_ok {mtu : Nat} {d : Device} (h : openFD env (itoa fd) mtu = .ok d) :
    ∃ mtu, d = .fd fd mtu := by
  unfold openFD at h
  cases ha : atoi (itoa fd) with
  | none =>
    rw [ha] at h
    cases h
  | some n =>
    rw [ha, eq_of_atoi_itoa ha] at h
    dsimp only at h
    split at h
    · cases h
    · cases h
      exact ⟨_, rfl⟩

theorem parseDevice_ok (hlaw : env.Lawful) {d : Device}
    (h : parseDevice env (keyFor fd).device (keyFor fd).mtu = .ok d) : ∃ mtu, d = .fd fd mtu := by
  have hsub : containsText (lit "://") (keyFor fd).device = true := by
    show containsText [58, 47, 47] ([102, 100, 58, 47, 47] ++ itoa fd) = true
    simp [containsText]
  unfold parseDevice at h
  rw [if_pos hsub] at h
  unfold keyFor at h
  dsimp only at h
  rw [hlaw fd] at h
  dsimp only at h
  rw [if_pos (by decide)] at h
  exact openFD_ok h

theorem Started.congr {e' : Engine} {r : Except String Unit × Engine} (h : Started fd e r)
    (hs : SameStacks e e') (hp : e'.customProxy = e.customProxy) : Started fd e' r := by
  unfold Started at h ⊢
  cases hr : r.1 with
  | error x =>
    rw [hr] at h
    rcases h with h | h
    · exact .inl ⟨h.made.trans hs.made.symm, h.closed.trans hs.closed.symm, h.dropped.trans hs.dropped.symm⟩
    · refine .inr ⟨?_, h.closed.trans hs.closed.symm, ?_⟩
      · rw [h.made, hs.made]
      · rw [h.dropped, hs.made, hs.dropped]
  | ok u =>
    rw [hr] at h
    have hgone : r.2.goneStacks = e'.goneStacks := by
      rw [h.gone]
      unfold Engine.goneStacks
      rw [hs.closed, hs.dropped]
    refine ⟨?_, hgone, ?_, h.device, h.custom.trans hp.symm,
      h.dialer.trans hp.symm⟩
    · rw [h.made, hs.made]
    · rw [h.stack, hs.made]

theorem netstackDevice_started (fd : Nat) (hlaw : env.Lawful) {p : EngineProxy} (hp : e.customProxy = some p)
    (hd : e.dialer = some p) : Started fd e (netstackDevice env (keyFor fd) e) := by
  unfold netstackDevice
  cases hdev : parseDevice env (keyFor fd).device (keyFor fd).mtu with
  | error x => exact .inl ⟨rfl, rfl, rfl⟩
  | ok d =>
    unfold netstackStack
    cases stackOptions env (keyFor fd) with
    | error x => exact .inl ⟨rfl, rfl, rfl⟩
    | ok u =>
      cases env.createStack with
      | error x => exact .inr ⟨rfl, rfl, rfl⟩
      | ok u =>
        obtain ⟨mtu, rfl⟩ := parseDevice_ok hlaw hdev
        exact ⟨rfl, rfl, rfl, ⟨mtu, rfl⟩, rfl, hd.trans hp.symm⟩

theorem netstack_started (hlaw : env.Lawful) {p : EngineProxy} (hp : e.customProxy = some p) :
    Started fd e (netstack env (keyFor fd) e) := by
  unfold netstack
  rw [if_neg (by rw [hp]; rintro ⟨-, h⟩; cases h)]
  split
  · exact .inl ⟨rfl, rfl, rfl⟩
  · unfold chooseProxy
    rw [hp]
    dsimp only
    have h := netstackDevice_started fd hlaw (e := { e with proxy := some p, dialer := some p })
      hp rfl
    rw [← hp] at h ⊢
    exact h.congr ⟨rfl, rfl, rfl⟩ rfl

theorem engineStart_started (fd : Nat) (hlaw : env.Lawful) {p : EngineProxy} (hp : e.customProxy = some p)
    (hk : e.key = some (keyFor fd)) : Started fd e (engineStart env e) := by
  unfold engineStart
  rw [hk]
  dsimp only
  cases general env (keyFor fd) with
  | error x => exact .inl ⟨rfl, rfl, rfl⟩
  | ok u =>
    cases restAPI env (keyFor fd) with
    | error x => exact .inl ⟨rfl, rfl, rfl⟩
    | ok u => exact netstack_started hlaw hp

theorem netstackStack_dropped (hcreate : env.createStack = .ok ()) (k : EngineKey) (e : Engine) :
    (netstackStack env k e).2.droppedStacks = e.droppedStacks := by
  unfold netstackStack
  rw [hcreate]
  cases stackOptions env k with
  | error x => rfl
  | ok u => rfl

theorem engineStart_dropped (hcreate : env.createStack = .ok ()) (e : Engine) :
    (engineStart env e).2.droppedStacks = e.droppedStacks := by
  unfold engineStart netstack netstackDevice
  repeat' split
  all_goals first | rfl | exact netstackStack_dropped hcreate _ _

end

/-! ## the states of the core -/

/-- Outside of its calls: the stack of a running core is the last one made and the only one that is
neither closed nor dropped, no stack is closed twice or closed and dropped, and the proxy is there
exactly while the core is running. -/
structure CoreOk (c : GoCore) : Prop where
  once : c.engine.goneStacks.Nodup
  old : ∀ k ∈ c.engine.goneStacks, k < c.engine.stacksMade
  all : ∀ k < c.engine.stacksMade,
    k ∈ c.engine.goneStacks ∨ c.isRunning = true ∧ c.engine.stack = some k
  current : c.isRunning = true → ∀ k, c.engine.stack = some k →
    k < c.engine.stacksMade ∧ k ∉ c.engine.goneStacks
  proxy : c.engine.customProxy = if c.isRunning then some .bill else none
  dials : c.isRunning = true → c.engine.dialer = some .bill
  device : c.isRunning = true → ∃ fd mtu, c.engine.device = some (.fd (fd : Nat) mtu)
  dir : c.isRunning = true → c.workingDir ≠ []

def Device.descriptor : Device → Option Nat
  | .fd n _ => some n.toNat
  | .tun _ _ => none

def GoCore.coreFd (c : GoCore) : Option Nat :=
  if c.isRunning then c.engine.device.bind Device.descriptor else none

section
variable {env : EngineEnv} {fd : Nat} {c : GoCore} {name : Bytes}

theorem error_ne (x : String) : "engine start error: " ++ x ≠ "" ∧ "load config error: " ++ x ≠ "" := by
  constructor <;>
  · intro h
    have hlen := congrArg String.length h
    rw [String.length_append] at hlen
    exact absurd hlen (by simp)

theorem CoreOk.gone_all (h : CoreOk c) (hr : c.isRunning = false) :
    ∀ k < c.engine.stacksMade, k ∈ c.engine.goneStacks := by
  intro k hk
  rcases h.all k hk with hk | ⟨hrun, -⟩
  · exact hk
  · rw [hr] at hrun
    cases hrun

theorem CoreOk.of_down (hr : c.isRunning = false) (once : c.engine.goneStacks.Nodup)
    (old : ∀ k ∈ c.engine.goneStacks, k < c.engine.stacksMade)
    (all : ∀ k < c.engine.stacksMade, k ∈ c.engine.goneStacks)
    (proxy : c.engine.customProxy = none) : CoreOk c := by
  have hno : ∀ {P : Prop}, c.isRunning = true → P := by
    intro P hrun
    cases hr.symm.trans hrun
  refine ⟨once, old, fun k hk => .inl (all k hk), hno, ?_, hno, hno, hno⟩
  rw [proxy, hr]
  rfl

theorem coreFd_down (hr : c.isRunning = false) : c.coreFd = none := by
  unfold GoCore.coreFd
  rw [hr]
  rfl

theorem CoreOk.coreFd_isSome (h : CoreOk c) : c.coreFd.isSome = c.isRunning := by
  unfold GoCore.coreFd
  cases hr : c.isRunning with
  | false => rfl
  | true =>
    obtain ⟨fd, mtu, hd⟩ := h.device hr
    rw [hd]
    rfl

theorem CoreOk.up (h : CoreOk c) (hr : c.isRunning = false) (hdir : c.workingDir ≠ []) {e : Engine}
    (he : Up fd { c.engine with customProxy := some .bill, key := some (keyFor fd) } e) :
    CoreOk { c with engine := e, isRunning := true } := by
  obtain ⟨hmade, hgone, hstack, ⟨mtu, hdev⟩, hcustom, hdialer⟩ := he
  dsimp only at hmade hstack
  replace hgone : e.goneStacks = c.engine.goneStacks := hgone
  refine ⟨?_, ?_, ?_, ?_, hcustom, fun _ => hdialer, fun _ => ⟨fd, mtu, hdev⟩, fun _ => hdir⟩
  · exact hgone ▸ h.once
  · rw [hgone, hmade]
    exact fun k hk => Nat.lt_succ_of_lt (h.old k hk)
  · rw [hgone, hmade]
    intro k hk
    rcases Nat.lt_succ_iff_lt_or_eq.mp hk with hk | rfl
    · exact .inl (h.gone_all hr k hk)
    · exact .inr ⟨rfl, hstack⟩
  · rw [hgone, hstack, hmade]
    intro _ k hk
    cases hk
    exact ⟨Nat.lt_succ_self _, fun hmem => absurd (h.old _ hmem) (Nat.lt_irrefl _)⟩

theorem CoreOk.same (h : CoreOk c) (hr : c.isRunning = false) {e : Engine}
    (he : SameStacks c.engine e) (hp : e.customProxy = none) : CoreOk { c with engine := e } := by
  have hgone : e.goneStacks = c.engine.goneStacks := by
    unfold Engine.goneStacks
    rw [he.closed, he.dropped]
  refine .of_down hr (hgone ▸ h.once) ?_ ?_ hp
  · rw [hgone, he.made]
    exact h.old
  · rw [hgone, he.made]
    exact h.gone_all hr

theorem CoreOk.dropped (h : CoreOk c) (hr : c.isRunning = false) {e : Engine}
    (he : OneDropped c.engine e) (hp : e.customProxy = none) : CoreOk { c with engine := e } := by
  have hgone : e.goneStacks.Perm (c.engine.stacksMade :: c.engine.goneStacks) := by
    unfold Engine.goneStacks
    rw [he.closed, he.dropped]
    exact List.perm_middle
  refine .of_down hr ?_ (fun k hk => ?_) (fun k hk => ?_) hp
  · refine hgone.nodup_iff.mpr (List.nodup_cons.mpr ⟨fun hmem => ?_, h.once⟩)
    exact Nat.lt_irrefl _ (h.old _ hmem)
  · rw [he.made]
    rcases List.mem_cons.mp (hgone.mem_iff.mp hk) with rfl | hk
    · exact Nat.lt_succ_self _
    · exact Nat.lt_succ_of_lt (h.old k hk)
  · rw [he.made] at hk
    refine hgone.mem_iff.mpr (List.mem_cons.mpr ?_)
    exact (Nat.lt_succ_iff_lt_or_eq.mp hk).symm.imp_right (h.gone_all hr k)

theorem startEngine_ok (hlaw : env.Lawful) (h : CoreOk c) (hr : c.isRunning = false)
    (hdir : c.workingDir ≠ []) : CoreOk (startEngine env fd c).1 ∧
      (startEngine env fd c).1.coreFd = if (startEngine env fd c).2 = "" then some fd else none := by
  have hst := engineStart_started fd hlaw
    (e := { c.engine with customProxy := some .bill, key := some (keyFor fd) }) rfl rfl
  unfold startEngine
  revert hst
  unfold Started
  rcases engineStart env _ with ⟨r, e'⟩
  cases r with
  | error x =>
    intro hst
    dsimp only at hst ⊢
    rw [if_neg (error_ne x).1]
    refine ⟨?_, coreFd_down hr⟩
    rcases hst with hst | hst
    · exact h.same hr ⟨hst.made, hst.closed, hst.dropped⟩ rfl
    · exact h.dropped hr ⟨hst.made, hst.closed, hst.dropped⟩ rfl
  | ok u =>
    intro hup
    refine ⟨h.up hr hdir hup, ?_⟩
    obtain ⟨mtu, hdev⟩ := hup.device
    unfold GoCore.coreFd
    rw [if_pos rfl, if_pos rfl]
    exact congrArg (Option.bind · Device.descriptor) hdev

theorem CoreOk.logs (h : CoreOk c) (b : Bool) : CoreOk { c with logsToApp := b } :=
  ⟨h.once, h.old, h.all, h.current, h.proxy, h.dials, h.device, h.dir⟩

theorem startBill_running (h : CoreOk c) (hr : c.isRunning = true) :
    startBill env fd name c = (c, "") := by
  unfold startBill
  rw [if_neg (h.dir hr), if_pos hr]

theorem startBill_down (hlaw : env.Lawful) (h : CoreOk c) (hr : c.isRunning = false) :
    CoreOk (startBill env fd name c).1 ∧ (startBill env fd name c).1.coreFd
      = if (startBill env fd name c).2 = "" then some fd else none := by
  have hnone : c.coreFd = none := coreFd_down hr
  unfold startBill
  split
  · have hne : ¬ "working directory not set" = "" := by decide
    exact ⟨h, hnone.trans (if_neg hne).symm⟩
  · rename_i hdir
    rw [if_neg (by rw [hr]; decide)]
    cases env.loadConfig c.workingDir (name ++ lit ".json") with
    | error x => exact ⟨h.logs true, hnone.trans (if_neg (error_ne x).2).symm⟩
    | ok u => exact startEngine_ok hlaw (h.logs true) hr hdir

theorem startBill_dropped (hcreate : env.createStack = .ok ()) :
    (startBill env fd name c).1.engine.droppedStacks = c.engine.droppedStacks := by
  have hst : (startEngine env fd { c with logsToApp := true }).1.engine.droppedStacks
      = c.engine.droppedStacks := by
    have h := engineStart_dropped hcreate
      { c.engine with customProxy := some .bill, key := some (keyFor fd) }
    unfold startEngine
    revert h
    rcases engineStart env _ with ⟨_ | _, e⟩
    · exact fun h => h
    · exact fun h => h
  unfold startBill
  repeat' split
  all_goals first | rfl | exact hst

theorem startBill_ok (hlaw : env.Lawful) (h : CoreOk c) : CoreOk (startBill env fd name c).1 := by
  cases hr : c.isRunning with
  | true =>
    rw [startBill_running h hr]
    exact h
  | false => exact (startBill_down hlaw h hr).1

theorem stopBill_ok (h : CoreOk c) : CoreOk (stopBill c).2 ∧ (stopBill c).2.isRunning = false ∧
    (stopBill c).1.filterMap Device.descriptor = c.coreFd.toList := by
  unfold stopBill GoCore.coreFd
  cases hr : c.isRunning with
  | false => exact ⟨h, hr, rfl⟩
  | true =>
    rw [if_pos rfl, if_pos rfl]
    have hgone : Engine.goneStacks { (engineStop c.engine).2 with customProxy := none }
        = c.engine.stack.toList ++ c.engine.goneStacks := List.append_assoc _ _ _
    refine ⟨.of_down rfl ?_ ?_ ?_ rfl, rfl, ?_⟩
    · rw [hgone]
      cases hs : c.engine.stack with
      | none => exact h.once
      | some k => exact List.nodup_cons.mpr ⟨(h.current hr k hs).2, h.once⟩
    · rw [hgone]
      intro k hk
      rcases List.mem_append.mp hk with hk | hk
      · exact (h.current hr k (Option.mem_toList.mp hk)).1
      · exact h.old k hk
    · rw [hgone]
      intro k hk
      rcases h.all k hk with hk | ⟨-, hs⟩
      · exact List.mem_append_right _ hk
      · rw [hs]
        exact List.mem_cons_self
    · obtain ⟨fd, mtu, hd⟩ := h.device hr
      unfold engineStop
      rw [hd]
      rfl

end

/-! ## the service on top of it -/

/-- the service of `BillVpnService`, with the Go core instead of `coreFd` -/
structure Phone where
  service : Service := {}
  core : GoCore := {}

/-- an event of the service, and what the step finds if it calls the core -/
structure PhoneEvent where
  event : ServiceEvent
  env : EngineEnv
  filesDir : Bytes
  configName : Bytes

/-- the start coroutine at `Mobile.startBill` -/
def phoneStart (x : PhoneEvent) (fd : Nat) (p : Phone) : Phone :=
  let r := startBill x.env fd x.configName p.core
  let s := p.service
  { core := r.1
    service := { s with deadStarts := if fd ∈ s.closed then fd :: s.deadStarts else s.deadStarts }.goto
      fd (some (if r.2 = "" then .started else .startFailed)) }

/-- a stop coroutine at `Mobile.stopBill` -/
def phoneStop (i : Nat) (p : Phone) : Phone :=
  let r := stopBill p.core
  { core := r.2
    service := { p.service with
      closed := r.1.filterMap Device.descriptor ++ p.service.closed }.gotoStop i (some .publishLogs) }

def phoneStep (x : PhoneEvent) (p : Phone) : Phone :=
  match x.event with
  | .startStep fd ok =>
    if p.service.starts fd = some .startBill then phoneStart x fd p
    else if p.service.starts fd = some .setWorkingDir then
      { service := startStep fd ok p.service, core := setWorkingDir x.filesDir p.core }
    else { p with service := startStep fd ok p.service }
  | .stopStep i =>
    if p.service.stops i = some .stopCore then phoneStop i p
    else { p with service := stopStep i p.service }
  | e => { p with service := serviceStep e p.service }

/-- the service that sees of the core only its descriptor -/
def Phone.abs (p : Phone) : Service := { p.service with coreFd := p.core.coreFd }

/-- the event of the service: a start succeeds if `StartBill` returns no error -/
def PhoneEvent.abs (x : PhoneEvent) (p : Phone) : List ServiceEvent :=
  match x.event with
  | .startStep fd ok =>
    if p.service.starts fd = some .startBill then
      [.startStep fd ((startBill x.env fd x.configName p.core).2 == "")]
    else [.startStep fd ok]
  | e => [e]

/-- `url.Parse` does what it is documented to, and the app has a directory -/
structure PhoneEvent.Lawful (x : PhoneEvent) : Prop where
  env : x.env.Lawful
  dir : x.filesDir ≠ []

section
variable {s : Service} {o : Option Nat}

theorem closePendingTunFd_coreFd :
    closePendingTunFd { s with coreFd := o } = { closePendingTunFd s with coreFd := o } := by
  rw [closePendingTunFd_eq, closePendingTunFd_eq]

theorem stopVpn_coreFd : stopVpn { s with coreFd := o } = { stopVpn s with coreFd := o } := by
  unfold stopVpn
  dsimp only
  split
  · rfl
  · split <;> rfl

theorem startCommand_coreFd :
    startCommand { s with coreFd := o } = { startCommand s with coreFd := o } := by
  unfold startCommand
  dsimp only
  by_cases h : { s with lastCommand := some .start }.accepts = true
  · rw [if_pos h]
    exact if_pos h
  · rw [if_neg h]
    exact if_neg h

theorem startStep_coreFd (fd : Nat) (ok : Bool) (h : s.starts fd ≠ some .startBill) :
    startStep fd ok { s with coreFd := o } = { startStep fd ok s with coreFd := o } := by
  unfold startStep
  dsimp only
  cases hpc : s.starts fd with
  | none => rfl
  | some pc =>
    cases pc with
    | startBill => exact absurd hpc h
    | consumeStop | claimFd | recheckStop =>
      dsimp only
      split <;> first | rfl | (rw [closePendingTunFd_coreFd]; rfl)
    | closeConsumed =>
      dsimp only
      rw [closePendingTunFd_coreFd]
      rfl
    | startFailed =>
      dsimp only
      exact congrArg (fun s => Service.goto s fd (some .callStop))
        (closePendingTunFd_coreFd (s := { s with coreOwnsTunFd := false }))
    | callStop =>
      dsimp only
      rw [stopVpn_coreFd]
      rfl
    | _ => rfl

theorem stopStep_coreFd (i : Nat) (h : s.stops i ≠ some .stopCore) :
    stopStep i { s with coreFd := o } = { stopStep i s with coreFd := o } := by
  unfold stopStep
  dsimp only
  cases hpc : s.stops i with
  | none => rfl
  | some pc =>
    cases pc with
    | stopCore => exact absurd hpc h
    | closeFd =>
      dsimp only
      rw [closePendingTunFd_coreFd]
      rfl
    | _ => rfl

end

section
variable {x : PhoneEvent} {p : Phone}

theorem serviceStep_coreFd {s : Service} {o : Option Nat} {e : ServiceEvent}
    (hs : ∀ fd ok, e ≠ .startStep fd ok) (ht : ∀ i, e ≠ .stopStep i) :
    serviceStep e { s with coreFd := o } = { serviceStep e s with coreFd := o } := by
  cases e with
  | start =>
    unfold serviceStep
    dsimp only
    split
    · rfl
    · exact startCommand_coreFd
  | stop =>
    unfold serviceStep stopCommand
    dsimp only
    split
    · rfl
    · exact stopVpn_coreFd (s := { s with lastCommand := some .stop })
  | establish ok =>
    unfold serviceStep establish
    dsimp only
    split
    · cases ok <;> rfl
    · rfl
  | startStep fd ok => exact absurd rfl (hs fd ok)
  | stopStep i => exact absurd rfl (ht i)

theorem phoneStart_abs (hlaw : x.env.Lawful) (h : CoreOk p.core) {fd : Nat}
    (hpc : p.service.starts fd = some .startBill) :
    (phoneStart x fd p).abs
      = startStep fd ((startBill x.env fd x.configName p.core).2 == "") p.abs := by
  unfold startStep Phone.abs phoneStart mobileStartBill
  dsimp only
  rw [hpc, h.coreFd_isSome]
  dsimp only
  cases hr : p.core.isRunning with
  | true =>
    rw [startBill_running h hr]
    rfl
  | false =>
    rw [(startBill_down hlaw h hr).2]
    by_cases he : (startBill x.env fd x.configName p.core).2 = ""
    · rw [he]
      rfl
    · have hbeq : ((startBill x.env fd x.configName p.core).2 == "") = false := by
        simpa using he
      rw [if_neg he, if_neg he, hbeq, coreFd_down hr]
      rfl

theorem phoneStop_abs (h : CoreOk p.core) {i : Nat} (hpc : p.service.stops i = some .stopCore) :
    (phoneStop i p).abs = stopStep i p.abs := by
  obtain ⟨-, hdown, hclosed⟩ := stopBill_ok h
  unfold stopStep Phone.abs phoneStop
  dsimp only
  rw [hpc, hclosed, coreFd_down hdown]
  dsimp only
  rw [mobileStopBill_eq]
  rfl

/-- **A step of the phone is a step of the service.** -/
theorem phoneStep_abs (x : PhoneEvent) (p : Phone) (hx : x.Lawful) (h : CoreOk p.core) :
    (phoneStep x p).abs = runAll serviceStep (x.abs p) p.abs := by
  unfold phoneStep PhoneEvent.abs
  cases he : x.event with
  | startStep fd ok =>
    dsimp only
    by_cases hpc : p.service.starts fd = some .startBill
    · rw [if_pos hpc, if_pos hpc]
      exact phoneStart_abs hx.env h hpc
    · rw [if_neg hpc, if_neg hpc]
      have hstep : startStep fd ok p.abs = { startStep fd ok p.service with coreFd := p.core.coreFd } :=
        startStep_coreFd fd ok hpc
      split <;> exact hstep.symm
  | stopStep i =>
    dsimp only
    by_cases hpc : p.service.stops i = some .stopCore
    · rw [if_pos hpc]
      exact phoneStop_abs h hpc
    · rw [if_neg hpc]
      exact (stopStep_coreFd i hpc).symm
  | start | stop | establish ok =>
    exact (serviceStep_coreFd (fun _ _ h => by cases h) fun _ h => by cases h).symm

theorem phoneStep_ok (x : PhoneEvent) (p : Phone) (hx : x.Lawful) (h : CoreOk p.core) :
    CoreOk (phoneStep x p).core := by
  unfold phoneStep
  cases x.event with
  | startStep fd ok =>
    dsimp only
    split
    · exact startBill_ok hx.env h
    · split
      · exact ⟨h.once, h.old, h.all, h.current, h.proxy, h.dials, h.device, fun _ => hx.dir⟩
      · exact h
  | stopStep i =>
    dsimp only
    split
    · exact (stopBill_ok h).1
    · exact h
  | _ => exact h

theorem phoneStep_dropped (x : PhoneEvent) (p : Phone) (hx : x.env.createStack = .ok ())
    (h : p.core.engine.droppedStacks = []) : (phoneStep x p).core.engine.droppedStacks = [] := by
  unfold phoneStep
  cases x.event with
  | startStep fd ok =>
    dsimp only
    split
    · exact (startBill_dropped hx).trans h
    · split <;> exact h
  | stopStep i =>
    dsimp only
    split
    · show (stopBill p.core).2.engine.droppedStacks = []
      unfold stopBill
      split <;> exact h
    · exact h
  | _ => exact h

theorem CoreOk.initial : CoreOk {} :=
  .of_down rfl List.nodup_nil (fun k hk => (List.not_mem_nil hk).elim)
    (fun k hk => absurd hk (Nat.not_lt_zero k)) rfl

end

/-- what holds when all is quiet after a STOP -/
structure AllDown (p : Phone) : Prop where
  down : p.core.isRunning = false
  proxy : p.core.engine.customProxy = none
  noStack : ∀ k < p.core.engine.stacksMade, k ∈ p.core.engine.goneStacks
  descriptors : ∀ fd < p.service.nextFd, fd ∈ p.service.closed

theorem allDown_of_safe {p : Phone} (hc : CoreOk p.core) (h : ServiceSafe p.abs)
    (hq : p.service.Quiet) (hlast : p.service.lastCommand = some .stop) : AllDown p := by
  have hnone : p.service.coreTunFd = none := by
    rcases (h.stopped hlast).2 with ⟨i, pc, hi, -⟩ | ⟨htun, -⟩
    · cases (hq.stops i).symm.trans hi
    · exact htun
  have hfd : p.core.coreFd = none := h.mode.core_down hnone fun i pc hi => by
    cases (hq.stops i).symm.trans hi
  have hdown : p.core.isRunning = false := by
    rw [← hc.coreFd_isSome, hfd]
    rfl
  refine ⟨hdown, ?_, hc.gone_all hdown, fun fd hlt => ?_⟩
  · rw [hc.proxy, hdown]
    rfl
  · rcases h.books.accounted fd hlt with hcl | hcl
    · exact hcl
    · cases hnone.symm.trans hcl

/-- **The service with the Go core under it does what the service does with a descriptor in the
place of the core**, whatever fails inside a start; every stack of the engine is closed once, except
those that a failing `CreateStack` drops, and after a STOP that overlaps with no start, nothing else
is left. -/
theorem phone_refines (es : List PhoneEvent) (hlaw : ∀ x ∈ es, x.Lawful) :
    (runAll phoneStep es {}).abs = runAll serviceStep (collect phoneStep PhoneEvent.abs es {}) {} ∧
    CoreOk (runAll phoneStep es {}).core ∧
    ((∀ x ∈ es, x.env.createStack = .ok ()) →
      (runAll phoneStep es {}).core.engine.droppedStacks = []) ∧
    (Along serviceStep Apart (collect phoneStep PhoneEvent.abs es {}) {} →
      (runAll phoneStep es {}).service.closed.Nodup ∧
      (runAll phoneStep es {}).service.deadStarts = [] ∧
      ((runAll phoneStep es {}).service.Quiet →
        (runAll phoneStep es {}).service.lastCommand = some .stop →
        AllDown (runAll phoneStep es {}))) := by
  have hrun : (runAll phoneStep es {}).abs
      = runAll serviceStep (collect phoneStep PhoneEvent.abs es {}) {} :=
    runAll_refines phoneStep_ok phoneStep_abs hlaw CoreOk.initial
  have hok : CoreOk (runAll phoneStep es {}).core :=
    runAll_invariant_of (I := fun p : Phone => CoreOk p.core) phoneStep_ok hlaw CoreOk.initial
  refine ⟨hrun, hok, fun hcreate => runAll_invariant_of
    (I := fun p : Phone => p.core.engine.droppedStacks = []) phoneStep_dropped hcreate rfl,
    fun hap => ?_⟩
  have hsafe : ServiceSafe (runAll phoneStep es {}).abs := by
    rw [hrun]
    exact hap.invariant serviceStep_safe service_initial
  exact ⟨hsafe.books.once, hsafe.books.alive, allDown_of_safe hok hsafe⟩

/-- an app whose libraries answer everything -/
def ready (e : ServiceEvent) : PhoneEvent where
  event := e
  env := {
    loadConfig := fun _ _ => .ok ()
    parseLevel := fun _ => .ok ()
    interfaceByName := fun _ => .ok ()
    parseRestAPI := fun _ => .ok ()
    parseProxy := fun _ => .ok ()
    urlParse := fun s => .ok (s.take 2, s.drop 5)
    newEndpoint := fun _ _ => .ok ()
    openTUN := fun _ _ => .ok ()
    parseMulticastGroups := fun _ => .ok ()
    ramInBytes := fun _ => .ok ()
    createStack := .ok () }
  filesDir := lit "/data"
  configName := lit "config"

theorem ready_lawful (e : ServiceEvent) : (ready e).Lawful :=
  ⟨fun fd => rfl, show lit "/data" ≠ [] by decide⟩

def stoppedRun : List ServiceEvent := startedRun ++ .stop :: List.replicate 8 (.stopStep 0)

theorem stoppedRun_apart : Along serviceStep Apart stoppedRun {} := by
  have hno : ∀ {s : Service}, (∀ i, s.stops i = none) → Apart .start s := by
    intro s h _ i pc hi
    cases (h i).symm.trans hi
  have hpast : ∀ {s : Service} {pc : StopPc}, s.stops 0 = some pc → pc ≠ .shutdown →
      Apart (.stopStep 0) s := fun h hne hlock => absurd (Option.some.inj (h.symm.trans hlock)) hne
  -- of the steps of the stop coroutine only the lock has something to show
  refine ⟨hno fun _ => rfl, trivial, trivial, trivial, trivial, trivial, trivial, trivial, trivial,
    trivial, trivial, hpast rfl (by decide), fun _ => ⟨⟨rfl, fun fd => ?_⟩, fun i pc hi => ?_⟩,
    hpast rfl (by decide), hpast rfl (by decide), hpast rfl (by decide), hpast rfl (by decide),
    hpast rfl (by decide), hpast rfl (by decide), trivial⟩
  · rcases fd with _ | fd <;> rfl
  · rcases i with _ | i
    · cases hi
      rfl
    · cases hi

/-- a start and a stop of an app whose libraries answer everything -/
theorem phone_refines_stopped : AllDown (runAll phoneStep (stoppedRun.map ready) {}) ∧
    (runAll phoneStep (stoppedRun.map ready) {}).core.engine.closedStacks = [0] := by
  have hlaw : ∀ x ∈ stoppedRun.map ready, x.Lawful := by
    intro x hx
    obtain ⟨e, -, rfl⟩ := List.mem_map.mp hx
    exact ready_lawful e
  have hev : collect phoneStep PhoneEvent.abs (stoppedRun.map ready) {} = stoppedRun := rfl
  obtain ⟨-, -, -, hsafe⟩ := phone_refines _ hlaw
  rw [hev] at hsafe
  refine ⟨(hsafe stoppedRun_apart).2.2 ⟨rfl, fun fd => ?_, fun i => ?_⟩ rfl, rfl⟩
  · rcases fd with _ | fd <;> rfl
  · rcases i with _ | i <;> rfl

end Bill
