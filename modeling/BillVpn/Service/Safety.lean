import BillVpn.Service.Vpn

/-!
# When starting and stopping is safe

A shutdown reads and resets the variables in several steps.  If none of them falls into a start, and
no two shutdowns overlap, the service is always in one of five modes, and the descriptor of the
device is closed once.

* `Apart e s`              the step `e` does not make a shutdown overlap with a start or with another
                           shutdown;
* `ServiceMode s`                 the five modes;
* `service_safe`           **every run whose steps are apart is safe**: no descriptor is closed twice,
                           the core is never started with a closed one, and when all is quiet after a
                           STOP, the core is down and every descriptor is closed;
* `stop_during_start`      **a STOP during a start can leave the core running.**
-/

set_option linter.unusedVariables false

namespace Bill
open Go

/-! ## overlapping -/

/-- from launch until the descriptor is handed over or given up -/
def StartPc.active : StartPc → Bool
  | .recheckStop | .callStop | .finish => false
  | _ => true

/-- from the lock of the shutdown until the variables are reset -/
def StopPc.shutting : StopPc → Bool
  | .stopCore | .closeFd | .publishLogs | .reset => true
  | _ => false

def NoShut (s : Service) : Prop := ∀ i pc, s.stops i = some pc → pc.shutting = false

def NoStart (s : Service) : Prop := s.establishing = false ∧ ∀ fd, s.starts fd = none

/-- a shutdown begins only while no start and no other shutdown is going on, and a start is accepted
only while no shutdown is -/
def Apart : ServiceEvent → Service → Prop
  | .start, s => s.accepts = true → NoShut s
  | .stopStep i, s => s.stops i = some .shutdown → NoStart s ∧ NoShut s
  | _, _ => True

/-! ## the modes -/

def NoActive (s : Service) : Prop := ∀ fd pc, s.starts fd = some pc → pc.active = false

structure Holding (s : Service) (fd : Nat) : Prop where
  tun : s.coreTunFd = some fd
  isOpen : fd ∉ s.closed

/-- the core owns the descriptor from the claim on -/
def StartPc.claimed : StartPc → Bool
  | .startBill | .startFailed | .started => true
  | _ => false

def Shut (s : Service) : StopPc → Prop
  | .stopCore => ∃ fd, Holding s fd ∧ s.coreFd = some fd
  | .closeFd => s.coreFd = none ∧ s.coreOwnsTunFd = false ∧ s.coreStarted = false ∧
      ∀ fd, s.coreTunFd = some fd → fd ∉ s.closed
  | _ => s.coreFd = none ∧ ∀ fd, s.coreTunFd = some fd → fd ∈ s.closed

/-- the coroutine of `fd` is the one that starts the core -/
structure Starting (s : Service) (fd : Nat) (pc : StartPc) : Prop where
  here : s.starts fd = some pc
  active : pc.active = true
  only : ∀ fd' pc', s.starts fd' = some pc' → pc'.active = true → fd' = fd
  noShut : NoShut s
  holding : Holding s fd
  core : s.coreFd = if pc = .started then some fd else none
  owns : s.coreOwnsTunFd = pc.claimed
  notStarted : s.coreStarted = false
  notIssued : s.coreStopIssued = false
  main : s.establishing = false

/-- the coroutine `i` is the one that shuts the core down -/
structure ShuttingDown (s : Service) (i : Nat) (pc : StopPc) : Prop where
  here : s.stops i = some pc
  shutting : pc.shutting = true
  only : ∀ j pc', s.stops j = some pc' → pc'.shutting = true → j = i
  noStart : NoStart s
  reached : Shut s pc

inductive ServiceMode (s : Service) : Prop where
  | idle : NoActive s → NoShut s → s.coreTunFd = none → s.coreFd = none → s.coreOwnsTunFd = false →
      s.coreStarted = false → (s.establishing = true → s.coreStopIssued = false) → ServiceMode s
  | starting (fd : Nat) (pc : StartPc) : Starting s fd pc → ServiceMode s
  | crashed (fd : Nat) : NoActive s → NoShut s → Holding s fd → s.coreFd = none →
      s.coreOwnsTunFd = false → s.coreStarted = false → s.establishing = false → ServiceMode s
  | running (fd : Nat) : NoActive s → NoShut s → Holding s fd → s.coreFd = some fd →
      s.coreOwnsTunFd = true → s.coreStopIssued = false → s.establishing = false → ServiceMode s
  | shutting (i : Nat) (pc : StopPc) : ShuttingDown s i pc → ServiceMode s

/-- what holds in every mode -/
structure Books (s : Service) : Prop where
  freshFd : ∀ fd, s.nextFd ≤ fd → s.starts fd = none
  freshStop : ∀ i, s.nextStop ≤ i → s.stops i = none
  closedOld : ∀ fd ∈ s.closed, fd < s.nextFd
  tunOld : ∀ fd, s.coreTunFd = some fd → fd < s.nextFd
  once : s.closed.Nodup
  alive : s.deadStarts = []
  accounted : ∀ fd, fd < s.nextFd → fd ∈ s.closed ∨ s.coreTunFd = some fd

/-- not past the end of its shutdown -/
def StopPc.early : StopPc → Bool
  | .clearPending | .leave | .finish => false
  | _ => true

/-- after a STOP there is a shutdown to come, or nothing to shut down -/
def Stopped (s : Service) : Prop :=
  s.lastCommand = some .stop → s.establishing = false ∧
    ((∃ i pc, s.stops i = some pc ∧ pc.early = true) ∨ s.coreTunFd = none ∧ s.coreStarted = false)

structure ServiceSafe (s : Service) : Prop where
  mode : ServiceMode s
  books : Books s
  stopped : Stopped s

/-! ## steps that do not matter -/

/-- the parts of the state that a mode speaks of -/
structure SameCore (s t : Service) : Prop where
  tun : t.coreTunFd = s.coreTunFd
  core : t.coreFd = s.coreFd
  owns : t.coreOwnsTunFd = s.coreOwnsTunFd
  started : t.coreStarted = s.coreStarted
  issued : t.coreStopIssued = s.coreStopIssued
  main : t.establishing = s.establishing
  closed : t.closed = s.closed
  active : ∀ fd pc, pc.active = true → (t.starts fd = some pc ↔ s.starts fd = some pc)
  shutting : ∀ i pc, pc.shutting = true → (t.stops i = some pc ↔ s.stops i = some pc)
  noStart : (∀ fd, s.starts fd = none) → ∀ fd, t.starts fd = none

section
variable {s t : Service}

theorem NoActive.congr (h : NoActive s) (he : SameCore s t) : NoActive t := by
  intro fd pc hpc
  by_contra hact
  have ha : pc.active = true := by simpa using hact
  exact hact (h fd pc ((he.active fd pc ha).mp hpc))

theorem NoShut.congr (h : NoShut s) (he : SameCore s t) : NoShut t := by
  intro i pc hpc
  by_contra hsh
  have hs : pc.shutting = true := by simpa using hsh
  exact hsh (h i pc ((he.shutting i pc hs).mp hpc))

theorem Holding.congr {fd : Nat} (h : Holding s fd) (he : SameCore s t) : Holding t fd :=
  ⟨he.tun.trans h.tun, he.closed ▸ h.isOpen⟩

theorem Shut.congr {pc : StopPc} (h : Shut s pc) (he : SameCore s t) : Shut t pc := by
  cases pc with
  | stopCore =>
    obtain ⟨fd, hh, hc⟩ := h
    exact ⟨fd, hh.congr he, he.core.trans hc⟩
  | closeFd =>
    refine ⟨he.core.trans h.1, he.owns.trans h.2.1, he.started.trans h.2.2.1, fun fd hfd => ?_⟩
    rw [he.closed]
    exact h.2.2.2 fd (he.tun ▸ hfd)
  | begin | shutdown | publishLogs | reset | clearPending | leave | finish =>
    refine ⟨he.core.trans h.1, fun fd hfd => ?_⟩
    rw [he.closed]
    exact h.2 fd (he.tun ▸ hfd)

theorem Starting.congr {fd : Nat} {pc : StartPc} (h : Starting s fd pc) (he : SameCore s t) :
    Starting t fd pc := by
  refine ⟨(he.active fd pc h.active).mpr h.here, h.active, ?_, h.noShut.congr he, h.holding.congr he,
    he.core.trans h.core, he.owns.trans h.owns, he.started.trans h.notStarted,
    he.issued.trans h.notIssued, he.main.trans h.main⟩
  intro fd' pc' hpc ha
  exact h.only fd' pc' ((he.active fd' pc' ha).mp hpc) ha

theorem ServiceMode.congr (h : ServiceMode s) (he : SameCore s t) : ServiceMode t := by
  cases h with
  | idle h1 h2 h3 h4 h5 h6 h7 =>
    exact .idle (h1.congr he) (h2.congr he) (he.tun.trans h3) (he.core.trans h4) (he.owns.trans h5)
      (he.started.trans h6) fun h => he.issued.trans (h7 (he.main ▸ h))
  | starting fd pc h => exact .starting fd pc (h.congr he)
  | crashed fd h1 h2 h3 h4 h5 h6 h7 =>
    exact .crashed fd (h1.congr he) (h2.congr he) (h3.congr he) (he.core.trans h4) (he.owns.trans h5)
      (he.started.trans h6) (he.main.trans h7)
  | running fd h1 h2 h3 h4 h5 h6 h7 =>
    exact .running fd (h1.congr he) (h2.congr he) (h3.congr he) (he.core.trans h4) (he.owns.trans h5)
      (he.issued.trans h6) (he.main.trans h7)
  | shutting i pc h =>
    refine .shutting i pc ⟨(he.shutting i pc h.shutting).mpr h.here, h.shutting, ?_,
      ⟨he.main.trans h.noStart.1, he.noStart h.noStart.2⟩, h.reached.congr he⟩
    intro j pc' hpc hs
    exact h.only j pc' ((he.shutting j pc' hs).mp hpc) hs

end

/-! ## what the shared parts do -/

theorem closePendingTunFd_eq (s : Service) : closePendingTunFd s =
    { s with coreTunFd := none, closed := s.coreTunFd.toList ++ s.closed } := by
  obtain ⟨_, _, _, _, _, _, tun, _, _, _, _, _, _, _, _, _⟩ := s
  cases tun <;> rfl

theorem mobileStopBill_eq (s : Service) : mobileStopBill s =
    { s with coreFd := none, closed := s.coreFd.toList ++ s.closed } := by
  obtain ⟨_, _, _, _, _, _, _, core, _, _, _, _, _, _, _, _⟩ := s
  cases core <;> rfl

theorem stopVpn_cases (s : Service) :
    stopVpn s = s ∧ s.coreTunFd = none ∧ s.coreStarted = false ∨
      ∃ p b, stopVpn s = launchStop { s with pendingStopRequested := p, isStopping := b } := by
  unfold stopVpn
  by_cases h1 : s.isStopping = true
  · rw [if_pos h1]
    exact .inr ⟨s.pendingStopRequested, s.isStopping, rfl⟩
  · rw [if_neg h1]
    by_cases h2 : (!s.isStarting && !s.coreStarted && s.coreTunFd.isNone) = true
    · rw [if_pos h2]
      simp only [Bool.and_eq_true, Bool.not_eq_true', Option.isNone_iff_eq_none] at h2
      exact .inl ⟨rfl, h2.2, h2.1.2⟩
    · rw [if_neg h2]
      exact .inr ⟨true, true, rfl⟩

section
variable {s : Service} {fd i : Nat}

theorem goto_starts (s : Service) (fd : Nat) (pc : Option StartPc) (fd' : Nat) :
    (s.goto fd pc).starts fd' = if fd' = fd then pc else s.starts fd' :=
  Function.update_apply ..

theorem gotoStop_stops (s : Service) (i : Nat) (pc : Option StopPc) (j : Nat) :
    (s.gotoStop i pc).stops j = if j = i then pc else s.stops j :=
  Function.update_apply ..

theorem launchStop_stops (s : Service) (j : Nat) :
    (launchStop s).stops j = if j = s.nextStop then some .begin else s.stops j :=
  Function.update_apply ..

theorem SameCore.goto {p : StartPc} {q : Option StartPc} (hp : s.starts fd = some p)
    (hpa : p.active = false) (hq : ∀ pc, q = some pc → pc.active = false) :
    SameCore s (s.goto fd q) := by
  refine ⟨rfl, rfl, rfl, rfl, rfl, rfl, rfl, ?_, fun _ _ _ => Iff.rfl, ?_⟩
  · intro fd' pc ha
    rw [goto_starts]
    by_cases h : fd' = fd
    · rw [if_pos h, h, hp]
      constructor
      · intro hpc
        rw [hq pc hpc] at ha
        cases ha
      · intro hpc
        cases hpc
        rw [hpa] at ha
        cases ha
    · rw [if_neg h]
  · intro hnone
    rw [hnone fd] at hp
    cases hp

theorem SameCore.gotoStop {p : StopPc} {q : Option StopPc} (hp : s.stops i = some p)
    (hps : p.shutting = false) (hq : ∀ pc, q = some pc → pc.shutting = false) :
    SameCore s (s.gotoStop i q) := by
  refine ⟨rfl, rfl, rfl, rfl, rfl, rfl, rfl, fun _ _ _ => Iff.rfl, ?_, fun h => h⟩
  intro j pc hs
  rw [gotoStop_stops]
  by_cases h : j = i
  · rw [if_pos h, h, hp]
    constructor
    · intro hpc
      rw [hq pc hpc] at hs
      cases hs
    · intro hpc
      cases hpc
      rw [hps] at hs
      cases hs
  · rw [if_neg h]

theorem SameCore.launchStop (hfresh : s.stops s.nextStop = none) :
    SameCore s (launchStop s) := by
  refine ⟨rfl, rfl, rfl, rfl, rfl, rfl, rfl, fun _ _ _ => Iff.rfl, ?_, fun h => h⟩
  intro j pc hs
  rw [launchStop_stops]
  by_cases h : j = s.nextStop
  · rw [if_pos h, h, hfresh]
    constructor
    · intro hpc
      cases hpc
      cases hs
    · intro hpc
      cases hpc
  · rw [if_neg h]

theorem SameCore.trans {s t u : Service} (h : SameCore s t) (g : SameCore t u) : SameCore s u where
  tun := g.tun.trans h.tun
  core := g.core.trans h.core
  owns := g.owns.trans h.owns
  started := g.started.trans h.started
  issued := g.issued.trans h.issued
  main := g.main.trans h.main
  closed := g.closed.trans h.closed
  active fd pc ha := (g.active fd pc ha).trans (h.active fd pc ha)
  shutting i pc hs := (g.shutting i pc hs).trans (h.shutting i pc hs)
  noStart hn := g.noStart (h.noStart hn)

theorem SameCore.flags (s : Service) (a b c : Bool) (l : Option Command) : SameCore s
    { s with isStarting := a, isStopping := b, pendingStopRequested := c, lastCommand := l } :=
  ⟨rfl, rfl, rfl, rfl, rfl, rfl, rfl, fun _ _ _ => Iff.rfl, fun _ _ _ => Iff.rfl, fun h => h⟩

theorem stopVpn_starts (s : Service) : (stopVpn s).starts = s.starts := by
  rcases stopVpn_cases s with ⟨h, -⟩ | ⟨p, b, h⟩
  · rw [h]
  · rw [h]
    rfl

theorem stopVpn_nextFd (s : Service) : (stopVpn s).nextFd = s.nextFd := by
  rcases stopVpn_cases s with ⟨h, -⟩ | ⟨p, b, h⟩
  · rw [h]
  · rw [h]
    rfl

theorem SameCore.stopVpn (hfresh : s.stops s.nextStop = none) : SameCore s (stopVpn s) := by
  rcases stopVpn_cases s with ⟨h, -⟩ | ⟨p, b, h⟩
  · rw [h]
    exact .flags s s.isStarting s.isStopping s.pendingStopRequested s.lastCommand
  · rw [h]
    exact (SameCore.flags s s.isStarting b p s.lastCommand).trans (.launchStop hfresh)

/-! ## the books -/

theorem Books.flags (h : Books s) (a b c d e f g : Bool) (x : Option Nat) (l : Option Command) :
    Books { s with isStarting := a, isStopping := b, coreStarted := c, coreOwnsTunFd := d,
                   pendingStopRequested := e, coreStopIssued := f, establishing := g, coreFd := x,
                   lastCommand := l } :=
  ⟨h.freshFd, h.freshStop, h.closedOld, h.tunOld, h.once, h.alive, h.accounted⟩

theorem Books.goto (h : Books s) (hfd : fd < s.nextFd) (pc : Option StartPc) :
    Books (s.goto fd pc) := by
  refine ⟨?_, h.freshStop, h.closedOld, h.tunOld, h.once, h.alive, h.accounted⟩
  intro fd' (hfd' : s.nextFd ≤ fd')
  rw [goto_starts, if_neg (by omega)]
  exact h.freshFd fd' hfd'

theorem Books.gotoStop (h : Books s) (hi : i < s.nextStop) (pc : Option StopPc) :
    Books (s.gotoStop i pc) := by
  refine ⟨h.freshFd, ?_, h.closedOld, h.tunOld, h.once, h.alive, h.accounted⟩
  intro j (hj : s.nextStop ≤ j)
  rw [gotoStop_stops, if_neg (by omega)]
  exact h.freshStop j hj

theorem Books.launchStop (h : Books s) : Books (launchStop s) := by
  refine ⟨h.freshFd, ?_, h.closedOld, h.tunOld, h.once, h.alive, h.accounted⟩
  intro j (hj : s.nextStop + 1 ≤ j)
  rw [launchStop_stops, if_neg (by omega)]
  exact h.freshStop j (by omega)

theorem Books.stopVpn (h : Books s) : Books (stopVpn s) := by
  rcases stopVpn_cases s with ⟨he, -⟩ | ⟨p, b, he⟩
  · rw [he]
    exact h
  · rw [he]
    exact (h.flags _ b _ _ p _ _ _ _).launchStop

theorem Books.close (h : Books s) (hopen : ∀ fd, s.coreTunFd = some fd → fd ∉ s.closed) :
    Books (closePendingTunFd s) := by
  rw [closePendingTunFd_eq]
  cases ht : s.coreTunFd with
  | none =>
    refine ⟨h.freshFd, h.freshStop, h.closedOld, fun _ h => (nomatch h), h.once, h.alive, ?_⟩
    intro fd hfd
    rcases h.accounted fd hfd with hc | hc
    · exact .inl hc
    · rw [ht] at hc
      cases hc
  | some d =>
    refine ⟨h.freshFd, h.freshStop, ?_, fun _ h => (nomatch h),
      List.nodup_cons.mpr ⟨hopen d ht, h.once⟩, h.alive, ?_⟩
    · intro fd hfd
      rcases List.mem_cons.mp hfd with rfl | hmem
      · exact h.tunOld fd ht
      · exact h.closedOld fd hmem
    · intro fd hfd
      rcases h.accounted fd hfd with hc | hc
      · exact .inl (List.mem_cons_of_mem d hc)
      · rw [ht] at hc
        cases hc
        exact .inl (List.mem_cons_self ..)

theorem Books.closeGoto (h : Books s) {d : Nat} (hd : Holding s d) (hfd : fd < s.nextFd)
    {pc : Option StartPc} : Books ((closePendingTunFd s).goto fd pc) := by
  refine (h.close ?_).goto ?_ _
  · intro d' hd'
    have he := hd.tun.symm.trans hd'
    cases he
    exact hd.isOpen
  · rw [closePendingTunFd_eq]
    exact hfd

theorem Books.startOld (h : Books s) {pc : StartPc} (hpc : s.starts fd = some pc) : fd < s.nextFd := by
  by_contra hlt
  rw [h.freshFd fd (by omega)] at hpc
  cases hpc

theorem Books.stopOld (h : Books s) {pc : StopPc} (hpc : s.stops i = some pc) : i < s.nextStop := by
  by_contra hlt
  rw [h.freshStop i (by omega)] at hpc
  cases hpc

end

/-! ## the start coroutine -/

section
variable {s : Service} {fd : Nat} {pc : StartPc}

theorem ServiceMode.starting_of (h : ServiceMode s) (hpc : s.starts fd = some pc)
    (ha : pc.active = true) : Starting s fd pc := by
  cases h with
  | idle h1 | crashed _ h1 | running _ h1 =>
    rw [h1 fd pc hpc] at ha
    cases ha
  | starting fd' pc' h =>
    have hfd := h.only fd pc hpc ha
    subst hfd
    have he : some pc = some pc' := hpc.symm.trans h.here
    cases he
    exact h
  | shutting i pc' h =>
    rw [h.noStart.2 fd] at hpc
    cases hpc

theorem Starting.next {t : Service} {q : StartPc} (h : Starting s fd pc) (hq : q.active = true)
    (hstarts : t.starts = s.starts) (hstops : t.stops = s.stops) (htun : t.coreTunFd = s.coreTunFd)
    (hclosed : t.closed = s.closed) (hcore : t.coreFd = if q = .started then some fd else none)
    (howns : t.coreOwnsTunFd = q.claimed) (hstarted : t.coreStarted = s.coreStarted)
    (hissued : t.coreStopIssued = s.coreStopIssued) (hmain : t.establishing = s.establishing) :
    ServiceMode (t.goto fd (some q)) := by
  refine .starting fd q ⟨?_, hq, ?_, ?_, ⟨htun.trans h.holding.tun, ?_⟩, hcore, howns,
    hstarted.trans h.notStarted, hissued.trans h.notIssued, hmain.trans h.main⟩
  · rw [goto_starts, if_pos rfl]
  · intro fd' pc' hpc ha
    by_contra hne
    rw [goto_starts, if_neg hne, hstarts] at hpc
    exact hne (h.only fd' pc' hpc ha)
  · intro i pc' hpc
    have hpc : t.stops i = some pc' := hpc
    rw [hstops] at hpc
    exact h.noShut i pc' hpc
  · show fd ∉ t.closed
    rw [hclosed]
    exact h.holding.isOpen

theorem Starting.noActive {t : Service} {q : StartPc} (h : Starting s fd pc)
    (hstarts : t.starts = s.starts) (hq : q.active = false) : NoActive (t.goto fd (some q)) := by
  intro fd' pc' hpc
  rw [goto_starts, hstarts] at hpc
  by_cases hfd : fd' = fd
  · rw [if_pos hfd] at hpc
    cases hpc
    exact hq
  · rw [if_neg hfd] at hpc
    by_contra hact
    exact hfd (h.only fd' pc' hpc (by simpa using hact))

theorem Starting.close {t : Service} {q : StartPc} (h : Starting s fd pc) (hpc : pc ≠ .started)
    (hq : q.active = false) (he : t = { s with coreOwnsTunFd := false }) :
    ServiceMode ((closePendingTunFd t).goto fd (some q)) := by
  rw [closePendingTunFd_eq, he]
  refine .idle (h.noActive rfl hq) (fun i p hp => h.noShut i p hp) rfl ?_ rfl h.notStarted ?_
  · have hcore := h.core
    rw [if_neg hpc] at hcore
    exact hcore
  · intro hmain
    have hfalse := h.main.symm.trans hmain
    cases hfalse

theorem Starting.startBill (h : Starting s fd .startBill) (ok : Bool) :
    mobileStartBill ok fd s = ({ s with coreFd := if ok then some fd else none }, ok) := by
  have hcore : s.coreFd = none := h.core
  have hdead : (if fd ∈ s.closed then fd :: s.deadStarts else s.deadStarts) = s.deadStarts :=
    if_neg h.holding.isOpen
  obtain ⟨_, _, _, _, _, _, _, core, _, _, _, _, _, _, _, _⟩ := s
  cases hcore
  cases ok <;> simp only [mobileStartBill, hdead, Option.isSome_none, Bool.false_eq_true, if_false,
    if_true]

theorem startStep_mode (h : ServiceMode s) (hb : Books s) (ok : Bool) :
    ServiceMode (startStep fd ok s) := by
  unfold startStep
  cases hpc : s.starts fd with
  | none => exact h
  | some pc =>
    cases pc with
    | ensureConfigFile =>
      have hst := h.starting_of hpc rfl
      cases ok with
      | true => exact hst.next rfl rfl rfl rfl rfl hst.core hst.owns rfl rfl rfl
      | false =>
        exact .crashed fd (hst.noActive rfl rfl) (fun i p hp => hst.noShut i p hp)
          ⟨hst.holding.tun, hst.holding.isOpen⟩ hst.core hst.owns hst.notStarted hst.main
    | consumeStop =>
      have hst := h.starting_of hpc rfl
      by_cases hp : s.pendingStopRequested = true
      · simp only [hp, if_true]
        exact hst.next rfl rfl rfl rfl rfl hst.core hst.owns rfl rfl rfl
      · simp only [hp, Bool.false_eq_true, if_false]
        exact hst.next rfl rfl rfl rfl rfl hst.core hst.owns rfl rfl rfl
    | closeConsumed =>
      have hst := h.starting_of hpc rfl
      exact hst.close (by decide) rfl (by rw [← show s.coreOwnsTunFd = false from hst.owns])
    | setWorkingDir =>
      have hst := h.starting_of hpc rfl
      exact hst.next rfl rfl rfl rfl rfl hst.core hst.owns rfl rfl rfl
    | claimFd =>
      have hst := h.starting_of hpc rfl
      by_cases hp : s.pendingStopRequested = true
      · simp only [hp, if_true]
        exact hst.close (by decide) rfl (by rw [← show s.coreOwnsTunFd = false from hst.owns])
      · simp only [hp, Bool.false_eq_true, if_false]
        exact hst.next rfl rfl rfl rfl rfl hst.core rfl rfl rfl rfl
    | startBill =>
      have hst := h.starting_of hpc rfl
      simp only [hst.startBill ok]
      cases ok with
      | true => exact hst.next rfl rfl rfl rfl rfl rfl hst.owns rfl rfl rfl
      | false => exact hst.next rfl rfl rfl rfl rfl rfl hst.owns rfl rfl rfl
    | startFailed =>
      have hst := h.starting_of hpc rfl
      exact hst.close (by decide) rfl rfl
    | started =>
      have hst := h.starting_of hpc rfl
      exact .running fd (hst.noActive rfl rfl) (fun i p hp => hst.noShut i p hp)
        ⟨hst.holding.tun, hst.holding.isOpen⟩ hst.core hst.owns hst.notIssued hst.main
    | recheckStop =>
      by_cases hp : s.pendingStopRequested = true
      · simp only [hp, if_true]
        refine h.congr ((SameCore.flags s s.isStarting s.isStopping false s.lastCommand).trans ?_)
        exact .goto hpc rfl (by rintro _ ⟨⟩; rfl)
      · simp only [hp, Bool.false_eq_true, if_false]
        exact h.congr (.goto hpc rfl (by rintro _ ⟨⟩; rfl))
    | callStop =>
      refine h.congr ((SameCore.stopVpn (hb.freshStop _ (Nat.le_refl _))).trans ?_)
      refine .goto (p := .callStop) ?_ rfl (by rintro _ ⟨⟩; rfl)
      rw [stopVpn_starts]
      exact hpc
    | finish =>
      refine h.congr ((SameCore.flags s false s.isStopping s.pendingStopRequested
        s.lastCommand).trans ?_)
      exact .goto hpc rfl (fun _ h => nomatch h)

theorem startStep_books (h : ServiceMode s) (hb : Books s) (ok : Bool) :
    Books (startStep fd ok s) := by
  unfold startStep
  cases hpc : s.starts fd with
  | none => exact hb
  | some pc =>
    have hold := hb.startOld hpc
    cases pc with
    | ensureConfigFile | setWorkingDir => exact hb.goto hold _
    | consumeStop | recheckStop =>
      by_cases hp : s.pendingStopRequested = true
      · simp only [hp, if_true]
        exact (hb.flags _ _ _ _ false _ _ _ _).goto hold _
      · simp only [hp, Bool.false_eq_true, if_false]
        exact hb.goto hold _
    | closeConsumed => exact hb.closeGoto (h.starting_of hpc rfl).holding hold
    | claimFd =>
      by_cases hp : s.pendingStopRequested = true
      · simp only [hp, if_true]
        exact hb.closeGoto (h.starting_of hpc rfl).holding hold
      · simp only [hp, Bool.false_eq_true, if_false]
        exact (hb.flags _ _ _ true _ _ _ _ _).goto hold _
    | startBill =>
      simp only [(h.starting_of hpc rfl).startBill ok]
      exact (hb.flags _ _ _ _ _ _ _ (if ok then some fd else none) _).goto hold _
    | startFailed =>
      have hst := (h.starting_of hpc rfl).holding
      exact (hb.flags _ _ _ false _ _ _ _ _).closeGoto ⟨hst.tun, hst.isOpen⟩ hold
    | started => exact (hb.flags _ _ true _ _ _ _ _ _).goto hold _
    | callStop =>
      refine hb.stopVpn.goto ?_ _
      rw [stopVpn_nextFd]
      exact hold
    | finish => exact (hb.flags false _ _ _ _ _ _ _ _).goto hold _

end

/-! ## the stop coroutine -/

section
variable {s : Service} {i : Nat} {pc : StopPc}

theorem ServiceMode.shutting_of (h : ServiceMode s) (hpc : s.stops i = some pc)
    (hs : pc.shutting = true) : ShuttingDown s i pc := by
  have hno : NoShut s → ShuttingDown s i pc := by
    intro hn
    rw [hn i pc hpc] at hs
    cases hs
  cases h with
  | idle _ h2 | crashed _ _ h2 | running _ _ h2 => exact hno h2
  | starting fd p h => exact hno h.noShut
  | shutting j pc' h =>
    have hij := h.only i pc hpc hs
    subst hij
    have he : some pc = some pc' := hpc.symm.trans h.here
    cases he
    exact h

theorem ShuttingDown.next {t : Service} {q : StopPc} (h : ShuttingDown s i pc)
    (hq : q.shutting = true) (hstops : t.stops = s.stops) (hstarts : t.starts = s.starts)
    (hmain : t.establishing = s.establishing) (hreached : Shut (t.gotoStop i (some q)) q) :
    ServiceMode (t.gotoStop i (some q)) := by
  refine .shutting i q ⟨?_, hq, ?_, ⟨hmain.trans h.noStart.1, fun fd => ?_⟩, hreached⟩
  · rw [gotoStop_stops, if_pos rfl]
  · intro j pc' hpc hs
    by_contra hne
    rw [gotoStop_stops, if_neg hne, hstops] at hpc
    exact hne (h.only j pc' hpc hs)
  · show t.starts fd = none
    rw [hstarts]
    exact h.noStart.2 fd

theorem shutdown_mode (h : ServiceMode s) (hpc : s.stops i = some .shutdown) (hstart : NoStart s)
    (hshut : NoShut s) : ServiceMode (stopStep i s) := by
  have hnew : ∀ q : StopPc, q.shutting = true →
      Shut ({ s with coreStopIssued := true }.gotoStop i (some q)) q →
      ServiceMode ({ s with coreStopIssued := true }.gotoStop i (some q)) := by
    intro q hq hreached
    refine .shutting i q ⟨?_, hq, ?_, hstart, hreached⟩
    · rw [gotoStop_stops, if_pos rfl]
    · intro j pc' hj hs
      by_contra hne
      rw [gotoStop_stops, if_neg hne] at hj
      rw [hshut j pc' hj] at hs
      cases hs
  simp only [stopStep, hpc]
  cases h with
  | idle h1 h2 h3 h4 h5 h6 h7 =>
    have hmust : s.mustStopCore = false := by simp [Service.mustStopCore, h5, h6]
    rw [hmust]
    refine hnew .closeFd rfl ⟨h4, h5, h6, fun fd hfd => ?_⟩
    have hfalse := h3.symm.trans hfd
    cases hfalse
  | starting fd p h =>
    have hfalse := (hstart.2 fd).symm.trans h.here
    cases hfalse
  | crashed fd h1 h2 h3 h4 h5 h6 h7 =>
    have hmust : s.mustStopCore = false := by simp [Service.mustStopCore, h5, h6]
    rw [hmust]
    refine hnew .closeFd rfl ⟨h4, h5, h6, fun fd' hfd => ?_⟩
    have he := h3.tun.symm.trans hfd
    cases he
    exact h3.isOpen
  | running fd h1 h2 h3 h4 h5 h6 h7 =>
    have hmust : s.mustStopCore = true := by simp [Service.mustStopCore, h5, h6]
    rw [hmust]
    exact hnew .stopCore rfl ⟨fd, ⟨h3.tun, h3.isOpen⟩, h4⟩
  | shutting j p h =>
    have hfalse := h.shutting.symm.trans (hshut j p h.here)
    cases hfalse

theorem stopStep_mode (h : ServiceMode s)
    (hap : s.stops i = some .shutdown → NoStart s ∧ NoShut s) : ServiceMode (stopStep i s) := by
  cases hpc : s.stops i with
  | none => simpa only [stopStep, hpc] using h
  | some pc =>
    cases pc with
    | begin | leave =>
      simp only [stopStep, hpc]
      exact h.congr (.gotoStop hpc rfl (by rintro _ ⟨⟩; rfl))
    | shutdown => exact shutdown_mode h hpc (hap hpc).1 (hap hpc).2
    | stopCore =>
      have hsh := h.shutting_of hpc rfl
      obtain ⟨fd, hh, hc⟩ := hsh.reached
      simp only [stopStep, hpc, mobileStopBill_eq]
      refine hsh.next rfl rfl rfl rfl ⟨rfl, fun fd' hfd => ?_⟩
      have he := hh.tun.symm.trans hfd
      cases he
      show fd ∈ s.coreFd.toList ++ s.closed
      rw [hc]
      exact List.mem_cons_self ..
    | closeFd =>
      have hsh := h.shutting_of hpc rfl
      simp only [stopStep, hpc, closePendingTunFd_eq]
      exact hsh.next rfl rfl rfl rfl ⟨hsh.reached.1, fun _ h => nomatch h⟩
    | publishLogs =>
      have hsh := h.shutting_of hpc rfl
      simp only [stopStep, hpc]
      exact hsh.next rfl rfl rfl rfl hsh.reached
    | reset =>
      have hsh := h.shutting_of hpc rfl
      simp only [stopStep, hpc]
      refine .idle (fun fd p hp => ?_) (fun j p hp => ?_) rfl hsh.reached.1 rfl rfl (fun hm => ?_)
      · have hfalse := (hsh.noStart.2 fd).symm.trans hp
        cases hfalse
      · rw [gotoStop_stops] at hp
        by_cases hj : j = i
        · rw [if_pos hj] at hp
          cases hp
          rfl
        · rw [if_neg hj] at hp
          by_contra hs
          exact hj (hsh.only j p hp (by simpa using hs))
      · have hfalse := hsh.noStart.1.symm.trans hm
        cases hfalse
    | clearPending =>
      simp only [stopStep, hpc]
      refine h.congr ((SameCore.flags s s.isStarting s.isStopping false s.lastCommand).trans ?_)
      exact .gotoStop hpc rfl (by rintro _ ⟨⟩; rfl)
    | finish =>
      simp only [stopStep, hpc]
      refine h.congr ((SameCore.flags s false false s.pendingStopRequested s.lastCommand).trans ?_)
      exact .gotoStop hpc rfl (fun _ h => nomatch h)

theorem stopStep_books (h : ServiceMode s) (hb : Books s) : Books (stopStep i s) := by
  unfold stopStep
  cases hpc : s.stops i with
  | none => exact hb
  | some pc =>
    have hold := hb.stopOld hpc
    cases pc with
    | begin | publishLogs | leave => exact hb.gotoStop hold _
    | shutdown => exact (hb.flags _ _ _ _ _ true _ _ _).gotoStop hold _
    | stopCore =>
      obtain ⟨fd, hh, hc⟩ := (h.shutting_of hpc rfl).reached
      simp only [mobileStopBill_eq]
      refine Books.gotoStop ?_ (by exact hold) _
      refine ⟨hb.freshFd, hb.freshStop, ?_, hb.tunOld, ?_, hb.alive, ?_⟩
      · intro fd' hfd
        rw [hc] at hfd
        rcases List.mem_cons.mp hfd with rfl | hmem
        · exact hb.tunOld fd' hh.tun
        · exact hb.closedOld fd' hmem
      · show (s.coreFd.toList ++ s.closed).Nodup
        rw [hc]
        exact List.nodup_cons.mpr ⟨hh.isOpen, hb.once⟩
      · intro fd' hfd
        rcases hb.accounted fd' hfd with hm | hm
        · exact .inl (List.mem_append_right _ hm)
        · exact .inr hm
    | closeFd =>
      have hsh := h.shutting_of hpc rfl
      refine (hb.close hsh.reached.2.2.2).gotoStop ?_ _
      rw [closePendingTunFd_eq]
      exact hold
    | reset =>
      have hsh := h.shutting_of hpc rfl
      refine Books.gotoStop ?_ (by exact hold) _
      refine ⟨hb.freshFd, hb.freshStop, hb.closedOld, fun _ h => (nomatch h), hb.once, hb.alive, ?_⟩
      intro fd hfd
      rcases hb.accounted fd hfd with hm | hm
      · exact .inl hm
      · exact .inl (hsh.reached.2 fd hm)
    | clearPending => exact (hb.flags _ _ _ _ false _ _ _ _).gotoStop hold _
    | finish => exact (hb.flags false false _ _ _ _ _ _ _).gotoStop hold _

end

/-! ## after a STOP -/

section
variable {s t : Service} {fd i : Nat}

theorem Stopped.keep (h : Stopped s) (hl : t.lastCommand = s.lastCommand)
    (hm : t.establishing = s.establishing)
    (hearly : ∀ j p, s.stops j = some p → p.early = true → ∃ j p, t.stops j = some p ∧ p.early = true)
    (hclean : s.coreTunFd = none → s.coreStarted = false →
      t.coreTunFd = none ∧ t.coreStarted = false) : Stopped t := by
  intro hlast
  obtain ⟨hmain, hrest⟩ := h (hl.symm.trans hlast)
  refine ⟨hm.trans hmain, ?_⟩
  rcases hrest with ⟨j, p, hj, hp⟩ | ⟨h1, h2⟩
  · exact .inl (hearly j p hj hp)
  · exact .inr (hclean h1 h2)

theorem Stopped.stopVpn (h : Stopped s) (hfresh : s.stops s.nextStop = none) :
    Stopped (stopVpn s) := by
  rcases stopVpn_cases s with ⟨he, -⟩ | ⟨p, b, he⟩
  · rw [he]
    exact h
  · rw [he]
    refine h.keep rfl rfl (fun _ _ _ _ => ⟨s.nextStop, .begin, ?_, rfl⟩) fun h1 h2 => ⟨h1, h2⟩
    rw [launchStop_stops]
    exact if_pos rfl

/-- a start coroutine launches shutdowns and closes the descriptor, and only an active one marks the
core as started -/
theorem startStep_stopped (h : ServiceMode s) (hb : Books s) (hs : Stopped s) (ok : Bool) :
    Stopped (startStep fd ok s) := by
  have hsame : ∀ j p, s.stops j = some p → p.early = true →
      ∃ j p, s.stops j = some p ∧ p.early = true := fun j p hj hp => ⟨j, p, hj, hp⟩
  unfold startStep
  cases hpc : s.starts fd with
  | none => exact hs
  | some pc =>
    cases pc with
    | ensureConfigFile | setWorkingDir | finish =>
      exact hs.keep rfl rfl hsame fun h1 h2 => ⟨h1, h2⟩
    | consumeStop | recheckStop =>
      by_cases hp : s.pendingStopRequested = true
      · simp only [hp, if_true]
        exact hs.keep rfl rfl hsame fun h1 h2 => ⟨h1, h2⟩
      · simp only [hp, Bool.false_eq_true, if_false]
        exact hs.keep rfl rfl hsame fun h1 h2 => ⟨h1, h2⟩
    | closeConsumed | startFailed =>
      simp only [closePendingTunFd_eq]
      exact hs.keep rfl rfl hsame fun h1 h2 => ⟨rfl, h2⟩
    | claimFd =>
      by_cases hp : s.pendingStopRequested = true
      · simp only [hp, if_true, closePendingTunFd_eq]
        exact hs.keep rfl rfl hsame fun h1 h2 => ⟨rfl, h2⟩
      · simp only [hp, Bool.false_eq_true, if_false]
        exact hs.keep rfl rfl hsame fun h1 h2 => ⟨h1, h2⟩
    | startBill =>
      simp only [(h.starting_of hpc rfl).startBill ok]
      exact hs.keep rfl rfl hsame fun h1 h2 => ⟨h1, h2⟩
    | started =>
      refine hs.keep rfl rfl hsame fun h1 _ => ?_
      have hfalse := h1.symm.trans (h.starting_of hpc rfl).holding.tun
      cases hfalse
    | callStop =>
      exact (hs.stopVpn (hb.freshStop _ (Nat.le_refl _))).keep rfl rfl
        (fun j p hj hp => ⟨j, p, hj, hp⟩) fun h1 h2 => ⟨h1, h2⟩

theorem stopStep_stopped (hs : Stopped s) : Stopped (stopStep i s) := by
  have hstep : ∀ {t : Service} {p q : StopPc}, s.stops i = some p → t.stops = s.stops →
      q.early = true → ∀ j p, s.stops j = some p → p.early = true →
      ∃ j p, (t.gotoStop i (some q)).stops j = some p ∧ p.early = true := by
    intro t p q _ _ hq _ _ _ _
    exact ⟨i, q, by rw [gotoStop_stops, if_pos rfl], hq⟩
  have hother : ∀ {t : Service} {p : StopPc} {q : Option StopPc}, s.stops i = some p →
      p.early = false → t.stops = s.stops → ∀ j p, s.stops j = some p → p.early = true →
      ∃ j p, (t.gotoStop i q).stops j = some p ∧ p.early = true := by
    intro t p q hi hp ht j p' hj hp'
    refine ⟨j, p', ?_, hp'⟩
    have hne : j ≠ i := by
      intro he
      rw [he, hi] at hj
      cases hj
      rw [hp] at hp'
      cases hp'
    rw [gotoStop_stops, if_neg hne, ht]
    exact hj
  unfold stopStep
  cases hpc : s.stops i with
  | none => exact hs
  | some pc =>
    cases pc with
    | begin | publishLogs => exact hs.keep rfl rfl (hstep hpc rfl rfl) fun h1 h2 => ⟨h1, h2⟩
    | shutdown =>
      refine hs.keep rfl rfl (hstep hpc rfl ?_) fun h1 h2 => ⟨h1, h2⟩
      cases s.mustStopCore <;> rfl
    | stopCore =>
      simp only [mobileStopBill_eq]
      exact hs.keep rfl rfl (hstep hpc rfl rfl) fun h1 h2 => ⟨h1, h2⟩
    | closeFd =>
      simp only [closePendingTunFd_eq]
      exact hs.keep rfl rfl (hstep hpc rfl rfl) fun h1 h2 => ⟨rfl, h2⟩
    | reset => exact fun hlast => ⟨(hs hlast).1, .inr ⟨rfl, rfl⟩⟩
    | clearPending | leave | finish =>
      exact hs.keep rfl rfl (hother hpc rfl rfl) fun h1 h2 => ⟨h1, h2⟩

/-! ## the commands -/

theorem startCommand_safe (h : ServiceSafe s) (hm : s.establishing = false)
    (hap : s.accepts = true → NoShut s) : ServiceSafe (startCommand s) := by
  have hflags := SameCore.flags s s.isStarting s.isStopping s.pendingStopRequested (some .start)
  have hacc : Service.accepts { s with lastCommand := some .start } = s.accepts := rfl
  unfold startCommand
  by_cases ha : s.accepts = true
  · simp only [hacc, ha, if_true]
    have htun : s.coreTunFd = none := by
      simp only [Service.accepts, Bool.and_eq_true, Option.isNone_iff_eq_none] at ha
      exact ha.2
    refine ⟨?_, h.books.flags _ _ _ _ _ _ _ _ _, fun h => nomatch h⟩
    cases h.mode with
    | idle h1 h2 h3 h4 h5 h6 h7 => exact .idle h1 h2 h3 h4 h5 h6 fun _ => rfl
    | starting fd p h => cases htun.symm.trans h.holding.tun
    | crashed fd _ _ h3 | running fd _ _ h3 => cases htun.symm.trans h3.tun
    | shutting j p h => cases h.shutting.symm.trans (hap ha j p h.here)
  · simp only [hacc, ha, Bool.false_eq_true, if_false]
    exact ⟨h.mode.congr hflags, h.books.flags _ _ _ _ _ _ _ _ _, fun h => nomatch h⟩

theorem stopCommand_safe (h : ServiceSafe s) (hm : s.establishing = false) :
    ServiceSafe (stopCommand s) := by
  have hflags := SameCore.flags s s.isStarting s.isStopping s.pendingStopRequested (some .stop)
  have hb : Books { s with lastCommand := some .stop } := h.books.flags _ _ _ _ _ _ _ _ _
  have hfresh := h.books.freshStop s.nextStop (Nat.le_refl _)
  refine ⟨(h.mode.congr hflags).congr (.stopVpn hfresh), hb.stopVpn, ?_⟩
  unfold stopCommand
  intro hlast
  rcases stopVpn_cases { s with lastCommand := some .stop } with ⟨he, h1, h2⟩ | ⟨p, b, he⟩
  · rw [he]
    exact ⟨hm, .inr ⟨h1, h2⟩⟩
  · rw [he]
    refine ⟨hm, .inl ⟨s.nextStop, .begin, ?_, rfl⟩⟩
    rw [launchStop_stops]
    exact if_pos rfl

theorem establish_safe (h : ServiceSafe s) (hm : s.establishing = true) (ok : Bool) :
    ServiceSafe (establish ok s) := by
  have hlast : s.lastCommand ≠ some .stop := fun hl => nomatch hm.symm.trans (h.stopped hl).1
  have hb := h.books
  cases h.mode with
  | starting fd p h => cases hm.symm.trans h.main
  | crashed fd _ _ _ _ _ _ h7 | running fd _ _ _ _ _ _ h7 => cases hm.symm.trans h7
  | shutting j p h => cases hm.symm.trans h.noStart.1
  | idle h1 h2 h3 h4 h5 h6 h7 =>
    cases ok with
    | false =>
      exact ⟨.idle h1 h2 h3 h4 h5 h6 (fun h => nomatch h), hb.flags _ _ _ _ _ _ _ _ _,
        fun hl => absurd hl hlast⟩
    | true =>
      refine ⟨.starting s.nextFd .ensureConfigFile ⟨?_, rfl, ?_, h2, ⟨rfl, ?_⟩, h4, h5, h6, h7 hm, rfl⟩,
        ⟨?_, hb.freshStop, ?_, ?_, hb.once, hb.alive, ?_⟩, fun hl => absurd hl hlast⟩
      · exact Function.update_self ..
      · intro fd p hp ha
        by_contra hne
        have hp : s.starts fd = some p := (Function.update_of_ne hne _ _).symm.trans hp
        rw [h1 fd p hp] at ha
        cases ha
      · intro hmem
        exact Nat.lt_irrefl _ (hb.closedOld _ hmem)
      · intro fd (hfd : s.nextFd + 1 ≤ fd)
        have hne : fd ≠ s.nextFd := by omega
        exact (Function.update_of_ne hne _ _).trans (hb.freshFd fd (by omega))
      · intro fd hmem
        exact Nat.lt_succ_of_lt (hb.closedOld fd hmem)
      · intro fd hfd
        cases hfd
        exact Nat.lt_succ_self _
      · intro fd (hfd : fd < s.nextFd + 1)
        by_cases heq : fd = s.nextFd
        · exact .inr (congrArg some heq.symm)
        · rcases hb.accounted fd (by omega) with hc | hc
          · exact .inl hc
          · cases h3.symm.trans hc

/-! ## runs -/

theorem serviceStep_safe (e : ServiceEvent) (s : Service) (hap : Apart e s) (h : ServiceSafe s) :
    ServiceSafe (serviceStep e s) := by
  cases e with
  | start =>
    simp only [serviceStep]
    by_cases hm : s.establishing = true
    · rw [if_pos hm]
      exact h
    · rw [if_neg hm]
      exact startCommand_safe h (by simpa using hm) hap
  | stop =>
    simp only [serviceStep]
    by_cases hm : s.establishing = true
    · rw [if_pos hm]
      exact h
    · rw [if_neg hm]
      exact stopCommand_safe h (by simpa using hm)
  | establish ok =>
    simp only [serviceStep]
    by_cases hm : s.establishing = true
    · rw [if_pos hm]
      exact establish_safe h hm ok
    · rw [if_neg hm]
      exact h
  | startStep fd ok =>
    exact ⟨startStep_mode h.mode h.books ok, startStep_books h.mode h.books ok,
      startStep_stopped h.mode h.books h.stopped ok⟩
  | stopStep i =>
    exact ⟨stopStep_mode h.mode hap, stopStep_books h.mode h.books, stopStep_stopped h.stopped⟩

theorem service_initial : ServiceSafe {} := by
  refine ⟨.idle (fun _ _ h => nomatch h) (fun _ _ h => nomatch h) rfl rfl rfl rfl (fun h => nomatch h),
    ⟨fun _ _ => rfl, fun _ _ => rfl, fun _ h => (nomatch h), fun _ h => (nomatch h), List.nodup_nil,
      rfl, fun _ h => (nomatch h)⟩, fun h => nomatch h⟩

theorem ServiceMode.core_down (h : ServiceMode s) (htun : s.coreTunFd = none)
    (hno : NoShut s) : s.coreFd = none := by
  cases h with
  | idle _ _ _ h4 => exact h4
  | starting fd p h => cases htun.symm.trans h.holding.tun
  | crashed fd _ _ h3 | running fd _ _ h3 => cases htun.symm.trans h3.tun
  | shutting j p h => cases h.shutting.symm.trans (hno j p h.here)

end

/-- **every run whose steps are apart is safe** -/
theorem service_safe (es : List ServiceEvent) (hap : Along serviceStep Apart es {}) :
    let s := runAll serviceStep es {}
    s.closed.Nodup ∧ s.deadStarts = [] ∧
      (s.Quiet → s.lastCommand = some .stop →
        s.coreFd = none ∧ s.coreStarted = false ∧ ∀ fd, fd < s.nextFd → fd ∈ s.closed) := by
  have h : ServiceSafe (runAll serviceStep es {}) := hap.invariant serviceStep_safe service_initial
  refine ⟨h.books.once, h.books.alive, fun hq hlast => ?_⟩
  rcases (h.stopped hlast).2 with ⟨i, pc, hi, -⟩ | ⟨htun, hstarted⟩
  · cases (hq.stops i).symm.trans hi
  · refine ⟨h.mode.core_down htun fun i pc hi => ?_, hstarted, fun fd hfd => ?_⟩
    · cases (hq.stops i).symm.trans hi
    · rcases h.books.accounted fd hfd with hc | hc
      · exact hc
      · cases htun.symm.trans hc

/-- a start that succeeds, from the command to the end of its coroutine -/
def startedRun : List ServiceEvent :=
  [.start, .establish true] ++ List.replicate 8 (.startStep 0 true)

/-- a whole start and then a whole stop -/
theorem service_safe_stopped :
    let s := runAll serviceStep (startedRun ++ .stop :: List.replicate 8 (.stopStep 0)) {}
    s.Quiet ∧ s.lastCommand = some .stop ∧ s.closed = [0] ∧ s.coreFd = none := by
  have hq : (runAll serviceStep (startedRun ++ .stop :: List.replicate 8 (.stopStep 0)) {}).Quiet :=
    ⟨rfl, fun fd => by rcases fd with _ | fd <;> rfl, fun i => by rcases i with _ | i <;> rfl⟩
  refine ⟨hq, rfl, rfl, ((service_safe _ ?_).2.2 hq rfl).1⟩
  have hno : ∀ {s : Service}, (∀ i, s.stops i = none) → Apart .start s :=
    fun h _ i pc hi => nomatch (h i).symm.trans hi
  have hpast : ∀ {s : Service} {pc : StopPc}, s.stops 0 = some pc → pc ≠ .shutdown →
      Apart (.stopStep 0) s := fun h hne hlock => absurd (Option.some.inj (h.symm.trans hlock)) hne
  -- of the steps of the stop coroutine only the lock has something to show
  refine ⟨hno fun _ => rfl, trivial, trivial, trivial, trivial, trivial, trivial, trivial, trivial,
    trivial, trivial, hpast rfl (by decide), fun _ => ⟨⟨rfl, fun fd => ?_⟩, fun i pc hi => ?_⟩,
    hpast rfl (by decide), hpast rfl (by decide), hpast rfl (by decide), hpast rfl (by decide),
    hpast rfl (by decide), hpast rfl (by decide), trivial⟩
  · rcases fd with _ | fd <;> rfl
  · rcases i with _ | i
    · cases hi
      rfl
    · cases hi

/-- **a STOP during a start can leave the core running**, after the coroutine has claimed the
descriptor and before it starts the core; **and two STOPs can close a descriptor twice** -/
theorem stop_during_start :
    (let s := runAll serviceStep ([.start, .establish true] ++ List.replicate 4 (.startStep 0 true) ++
        .stop :: List.replicate 8 (.stopStep 0) ++ List.replicate 4 (.startStep 0 true)) {}
     s.Quiet ∧ s.lastCommand = some .stop ∧ s.coreFd = some 0 ∧ s.coreStarted = true ∧ s.closed = []) ∧
    (runAll serviceStep (startedRun ++ [.stop, .stop, .stopStep 0, .stopStep 0, .stopStep 1,
      .stopStep 1, .stopStep 1, .stopStep 0]) {}).closed = [0, 0] := by
  refine ⟨⟨⟨rfl, fun fd => ?_, fun i => ?_⟩, rfl, rfl, rfl, rfl⟩, rfl⟩
  · rcases fd with _ | fd <;> rfl
  · rcases i with _ | i <;> rfl

end Bill
