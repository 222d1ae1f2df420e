import BillVpn.Config.Settings
import BillVpn.Go.NetipText

/-!
# The `host` field, read twice

A rule for the server of DNS over HTTPS is read by `genDialContext` when a file is loaded, and by
`genPolicyWithOptions` when something asks for the same name.  Both look a host up (`seek`) and
follow the `map_to` of the address they find (`moved`); they differ in what they look up, in
whether they do it at all, and in the address whose rule they attach.

* `planned_sought`, `planned_skipped`       what the planner makes of a rule;
* `byHost_sought`, `byHost_skipped`         what the dialer makes of it;
* `HostAlike`                               the rules and answers for which that is the same;
* `doh_host_iff`                            **and only then is it.**
-/

set_option linter.unusedVariables false

namespace Bill
open Go Proc

section
variable {κ τ : Type} {calls : Callees κ τ}

/-! ## what looking for an address leaves alone -/

/-- everything but the policy of the connection -/
def Globals.bare (g : Globals κ τ) : Globals κ τ := { g with dohConnPolicy := .own {} }

/-- the variables that no look-up changes -/
def Globals.rules (g : Globals κ τ) : PolicyRef × Policy × Option (IPTrie Policy × IPTrie Policy) :=
  (g.dohConnPolicy, g.defaultPolicy, g.ipMatchers)

/-- a look-up does not see the policy of the connection and leaves the rules alone -/
abbrev Mild {α : Type} (x : Proc (Globals κ τ) α) : Prop := Confined Globals.rules Globals.bare x

theorem dnsCacheGet_mild (host : Bytes) : Mild (dnsCacheGet calls host) := by
  refine ⟨fun g => ?_, dnsCacheGet_same (v := Globals.bare) (fun _ => rfl) (fun _ _ => rfl) host⟩
  unfold dnsCacheGet
  cases g.dnsCache with
  | none => rfl
  | some cache => rfl

theorem resolveBootstrap_mild (host : Bytes) : Mild (resolveBootstrapHost calls host) :=
  resolveBootstrap_confined dnsCacheGet_mild
    (fun host ip => Confined.modify (fun g => rfl) (view_modify fun _ => rfl)) host

theorem poolAddress_mild (tag : Bytes) : Mild (poolAddress tag : Proc (Globals κ τ) Bytes) :=
  ⟨fun g => rfl, poolAddress_same (v := Globals.bare) (fun _ => rfl) (fun _ _ => rfl) tag⟩

/-! ## the two steps that both take -/

/-- the address that a host stands for; `skip` says that a name is not resolved -/
def seek (calls : Callees κ τ) (skip : Bool) (host : Bytes) : Proc (Globals κ τ) Bytes :=
  dohPool host >>= dohResolve calls skip

theorem seek_mild (skip : Bool) (host : Bytes) : Mild (seek calls skip host) :=
  Confined.bind ((poolAddress_mild _).ite (Confined.pure _)) fun _ =>
    (resolveBootstrap_mild _).ite (Confined.pure _)

theorem moved_mild (g : Globals κ τ) (ip : Bytes) : Mild (moved (redirects calls g) ip) :=
  moved_confined poolAddress_mild resolveBootstrap_mild ip

theorem redirects_of_rules {g h : Globals κ τ} (he : g.rules = h.rules) :
    redirects calls g = redirects calls h := by
  have hm : g.ipMatchers = h.ipMatchers := congrArg (·.2.2) he
  unfold redirects Globals.getIPPolicy
  rw [hm]

/-! ## the course of a look-up -/

/-- the address that was found, and the one that its rule leads to, if that is found as well -/
structure Course where
  address : Bytes
  target : Option Bytes
deriving DecidableEq, Repr

def course (calls : Callees κ τ) (g : Globals κ τ) (host : Bytes) : Option Course :=
  match seek calls false host g with
  | (.ok ip, g') => some ⟨ip, (moved (redirects calls g) ip g').1.toOption⟩
  | _ => none

/-- the policy of a connection to an address with the rule `ip` -/
def attached (g : Globals κ τ) (rule : Policy) (ip : Option Policy) : Policy :=
  mergePolicies (rule :: (ip.toList ++ [g.defaultPolicy]))

/-- the rule that the planner reads for an address; it reads none for a name -/
def Course.rule (c : Course) (g : Globals κ τ) : Option Policy :=
  if isIP c.address then g.getIPPolicy c.address else none

/-- where the planner ends -/
def Course.goal (c : Course) : Option Bytes := if isIP c.address then c.target else some c.address

/-- the rule of the address stops the request -/
def Course.Stopped (c : Course) (g : Globals κ τ) (rule : Policy) : Prop :=
  (c.rule g).isSome = true ∧ (attached g rule (c.rule g)).mode = .block

instance (c : Course) (g : Globals κ τ) (rule : Policy) : Decidable (c.Stopped g rule) :=
  inferInstanceAs (Decidable (_ ∧ _))

/-- what the planner makes of the course of its look-ups -/
def Course.planEnd (c : Course) (g : Globals κ τ) (rule : Policy) : Option (Bytes × Policy) :=
  c.goal.map fun ip => if c.Stopped g rule then ([], {}) else (ip, attached g rule (c.rule g))

/-- what the dialer makes of its own -/
def dialEnd (g : Globals κ τ) (rule : Policy) (c : Course) : Option (Bytes × Policy) :=
  c.target.map fun ip => (ip, attached g rule (g.getIPPolicy ip))

/-! ## the planner -/

/-- the host and the policy of a verdict -/
def planned (r : Res Verdict) : Option (Bytes × Policy) :=
  r.toOption.bind fun v => if v.failed then none else some (v.dstHost, v.policy)

/-- the planner takes from the same pools, and its resolver answers as the look-up before there is
one -/
structure SameAnswers (calls : Callees κ τ) (rt : Env (Globals κ τ)) : Prop where
  pool : rt.getFromIPPool = poolAddress
  bootstrap : rt.resolveBootstrapHost = resolveBootstrapHost calls
  resolver : ∀ m name, isIP name = false →
    resolveTarget rt m name = resolveBootstrapHost calls name

section
variable {std : Std} {g : Globals κ τ} {rt : Env (Globals κ τ)} {d x : Bytes} {rule : Policy}

theorem locate_seek (hs : SameAnswers calls rt) (skip : Bool) (m : DNSMode) (x : Bytes) :
    locate (g.env std rt) true skip m x = seek calls skip x := by
  have hpool : poolTarget (g.env std rt) x = dohPool x := by
    unfold poolTarget dohPool
    show (if _ then rt.getFromIPPool _ else _) = _
    rw [hs.pool]
  unfold locate seek
  rw [hpool]
  refine congrArg (dohPool x >>= ·) (funext fun y => ?_)
  unfold dohResolve
  cases hy : isIP y with
  | true => cases skip <;> rfl
  | false =>
    cases skip with
    | true => rfl
    | false => exact hs.resolver m y hy

theorem redirects_env (hs : SameAnswers calls rt) :
    (g.env std rt).toRedirects = redirects calls g := by
  show (⟨_, rt.getFromIPPool, rt.resolveBootstrapHost⟩ : Redirects (Globals κ τ)) = _
  rw [hs.pool, hs.bootstrap]
  rfl

theorem routeDomain_some (hr : (routeDomain (g.env std rt) d).domainPolicy = some rule) :
    g.domainFind d = some rule ∧
      routeDomain (g.env std rt) d = ⟨some rule, true, [rule, g.defaultPolicy]⟩ := by
  rcases routeDomain_cases (g.env std rt) d with ⟨r, hf, he⟩ | he | he
  · rw [he] at hr
    obtain rfl : r = rule := Option.some.inj hr
    exact ⟨hf, he⟩
  · rw [he] at hr; cases hr
  · rw [he] at hr; cases hr

theorem planEnd_ip {ip : Bytes} (hip : isIP ip = true) (t : Option Bytes) :
    (Course.mk ip t).planEnd g rule = t.map fun t =>
      if (g.getIPPolicy ip).isSome = true ∧ (attached g rule (g.getIPPolicy ip)).mode = .block
      then ([], {}) else (t, attached g rule (g.getIPPolicy ip)) := by
  have hrule : (Course.mk ip t).rule g = g.getIPPolicy ip := if_pos hip
  have hgoal : (Course.mk ip t).goal = t := if_pos hip
  unfold Course.planEnd Course.Stopped
  simp only [hrule, hgoal]

theorem planEnd_name {ip : Bytes} (hip : isIP ip = false) (t : Option Bytes) :
    (Course.mk ip t).planEnd g rule = some (ip, attached g rule none) := by
  have hno : ¬ isIP (Course.mk ip t).address = true := by
    show ¬ isIP ip = true
    simp [hip]
  have hrule : (Course.mk ip t).rule g = none := if_neg hno
  have hgoal : (Course.mk ip t).goal = some ip := if_neg hno
  unfold Course.planEnd Course.Stopped
  simp [hrule, hgoal]

theorem redirectDomain_planned (hs : SameAnswers calls rt) {ip : Bytes} (hip : isIP ip = true)
    (g' : Globals κ τ) :
    planned (redirectDomain (g.env std rt) ⟨some rule, true, [rule, g.defaultPolicy]⟩ ip g').1 =
      (Course.mk ip (moved (redirects calls g) ip g').1.toOption).planEnd g rule := by
  unfold redirectDomain
  rw [planEnd_ip hip, redirects_env hs, ipRedirect_logged]
  rcases hm : moved (redirects calls g) ip g' with ⟨r, g''⟩
  cases r with
  | panic =>
    rw [run_bind, attempt_panic (run_bind_panic hm)]
    rfl
  | err e =>
    rw [run_bind, attempt_err (run_bind_err hm)]
    rfl
  | ok t =>
    have hrun : (moved (redirects calls g) ip >>= fun t => pure (t, (redirects calls g).getIPPolicy ip))
        g' = (.ok (t, g.getIPPolicy ip), g'') := run_bind_ok hm
    rw [run_bind_ok (attempt_ok hrun)]
    cases g.getIPPolicy ip with
    | none => rfl
    | some p =>
      show planned ((if (attached g rule (some p)).mode = .block then _ else _ :
        Proc (Globals κ τ) Verdict) g'').1 = some (if _ then _ else _)
      by_cases hb : (attached g rule (some p)).mode = .block
      · rw [if_pos hb, if_pos ⟨rfl, hb⟩]
        rfl
      · rw [if_neg hb, if_neg fun h => hb h.2]
        rfl

theorem planned_attempt {σ : Type} {env : Env σ} {r : Route} {skip : Bool} (y : Proc σ Bytes)
    (s : σ) : planned ((attempt y >>= settle env r skip) s).1 =
      (y s).1.toOption.bind fun host => planned (settle env r skip (.ok host) (y s).2).1 := by
  rcases hy : y s with ⟨res, s'⟩
  cases res with
  | panic =>
    rw [run_bind_panic (attempt_panic hy)]
    rfl
  | err e =>
    rw [run_bind_ok (attempt_err hy)]
    rfl
  | ok host =>
    rw [run_bind_ok (attempt_ok hy)]
    rfl

theorem genPolicy_name {σ : Type} (env : Env σ) (hip : isIP d = false) (b : Bool) :
    genPolicyWithOptions env d b = genDomainPolicy env d b := by
  unfold genPolicyWithOptions
  rw [hip]
  rfl

section
variable (hip : isIP d = false)
  (hr : routeDomain (g.env std rt) d = ⟨some rule, true, [rule, g.defaultPolicy]⟩)
include hip hr

theorem planned_blocked (hb : rule.mode = .block) :
    planned (genPolicyWithOptions (g.env std rt) d true g).1 = some ([], {}) := by
  have hblock : IsBlock (routeDomain (g.env std rt) d).domainPolicy := by
    rw [hr]
    exact congrArg some hb
  rw [genPolicy_name _ hip, genDomainPolicy_block hblock]
  rfl

theorem planned_settle (hs : SameAnswers calls rt) (hb : rule.mode ≠ .block) {skip : Bool}
    (ht : hostTarget (attached g rule none).host d = (x, skip)) :
    planned (genPolicyWithOptions (g.env std rt) d true g).1 =
      (seek calls skip x g).1.toOption.bind fun host => planned
        (settle (g.env std rt) ⟨some rule, true, [rule, g.defaultPolicy]⟩ skip (.ok host)
          (seek calls skip x g).2).1 := by
  have hblock : ¬ IsBlock (routeDomain (g.env std rt) d).domainPolicy := by
    rw [hr]
    exact fun h => hb (Option.some.inj h)
  have htarget : hostTarget (mergePolicies (routeDomain (g.env std rt) d).policies).host d = (x, skip) := by
    rw [hr]
    exact ht
  rw [genPolicy_name _ hip, genDomainPolicy_settle hblock htarget, locate_seek hs, hr]
  exact planned_attempt _ g

theorem planned_skipped (hs : SameAnswers calls rt) (hb : rule.mode ≠ .block)
    (ht : hostTarget (attached g rule none).host d = (x, true)) :
    planned (genPolicyWithOptions (g.env std rt) d true g).1 =
      (seek calls true x g).1.toOption.map fun host => (host, attached g rule none) := by
  rw [planned_settle hip hr hs hb ht, Option.map_eq_bind]
  rfl

theorem planned_sought (hs : SameAnswers calls rt) (hb : rule.mode ≠ .block)
    (ht : hostTarget (attached g rule none).host d = (x, false)) :
    planned (genPolicyWithOptions (g.env std rt) d true g).1 =
      (course calls g x).bind fun c => c.planEnd g rule := by
  rw [planned_settle hip hr hs hb ht]
  unfold course
  rcases hx : seek calls false x g with ⟨r, g'⟩
  cases r with
  | panic => rfl
  | err e => rfl
  | ok ip =>
    show planned ((if (false || !isIP ip) = true then _ else redirectDomain _ _ ip :
      Proc (Globals κ τ) Verdict) g').1 = Course.planEnd _ g rule
    cases hx : isIP ip with
    | true =>
      rw [if_neg (by decide)]
      exact redirectDomain_planned hs hx g'
    | false =>
      rw [if_pos (by decide), planEnd_name hx]
      rfl

end

end

/-! ## the dialer -/

/-- a host, with the policy of the connection as it is then -/
def reported (x : Proc (Globals κ τ) Bytes) : Proc (Globals κ τ) (Bytes × Policy) := do
  let host ← x
  let g ← get
  pure (host, g.dohPolicy)

/-- the host that is dialed, and the policy of the connection -/
def dohDials (calls : Callees κ τ) (host : Bytes) : Proc (Globals κ τ) (Bytes × Policy) := do
  setDoh (.own {})
  reported (dohTarget calls host)

theorem genDialContext_dials {addr d port : Bytes} (hurl : calls.parseURL addr = .ok (d, port)) :
    genDialContext calls addr = dohDials calls d >>= fun r => pure (dohDialer r.1 port r.2) := by
  unfold genDialContext dohDials reported
  rw [hurl, seq_assoc]
  refine congrArg (setDoh (.own {}) >>= ·) (funext fun _ => ?_)
  rw [seq_assoc]
  rfl

theorem reported_value (x : Proc (Globals κ τ) Bytes) (s : Globals κ τ) :
    (reported x s).1.toOption = (x s).1.toOption.map fun host => (host, (x s).2.dohPolicy) := by
  unfold reported
  rcases hx : x s with ⟨r, s'⟩
  cases r with
  | panic => rw [run_bind_panic hx]; rfl
  | err e => rw [run_bind_err hx]; rfl
  | ok host => rw [run_bind_ok hx]; rfl

section
variable {g s : Globals κ τ} {d x : Bytes} {rule : Policy}

/-- the state in which the dialer reads the `host` field -/
def dohStart (g : Globals κ τ) (rule : Policy) : Globals κ τ :=
  { g with dohConnPolicy := .own (attached g rule none) }

theorem dohPolicy_of_rules (h : s.rules = (dohStart g rule).rules) :
    s.dohPolicy = attached g rule none := by
  have hp : s.dohConnPolicy = .own (attached g rule none) := congrArg (·.1) h
  unfold Globals.dohPolicy
  rw [hp]

theorem Mild.of_bare {α : Type} {x : Proc (Globals κ τ) α} (hx : Mild x) (he : s.bare = g.bare) :
    (x s).1 = (x g).1 ∧ (x s).2.bare = (x g).2.bare ∧ (x s).2.rules = s.rules :=
  ⟨(hx.same s g he).1, (hx.same s g he).2, hx.keeps s⟩

theorem dohByHost_seek (h : Bytes) : dohByHost calls (some rule) h =
    seek calls (dohHost h).2 (dohHost h).1 >>= fun host =>
      if (dohHost h).2 then pure host else dohRedirect calls (some rule) host := by
  unfold dohByHost seek
  rw [seq_assoc]

/-- what is done with the answer of `ipRedirect` -/
def attach (g : Globals κ τ) (rule : Policy) : Bytes × Option Policy → Proc (Globals κ τ) Bytes
  | (host, none) => pure host
  | (host, some p) => do
    setDoh (.own (attached g rule (some p)))
    pure host

theorem dohRedirect_attach (hs : s.rules = (dohStart g rule).rules) (ip : Bytes) :
    dohRedirect calls (some rule) ip s =
      (wrap "ip redirect" (moved (redirects calls g) ip >>= fun t => pure (t, g.getIPPolicy t)) >>=
        attach g rule) s := by
  have hrd : redirects calls s = redirects calls g := (redirects_of_rules hs).trans rfl
  have hdefault : s.defaultPolicy = g.defaultPolicy := congrArg (·.2.1) hs
  have hrun : wrap "ip redirect" (redirectHere calls ip) s = wrap "ip redirect"
      (moved (redirects calls g) ip >>= fun t => pure (t, g.getIPPolicy t)) s := by
    show wrap "ip redirect" (ipRedirect (redirects calls s) false ip) s = _
    rw [hrd, ipRedirect_quiet]
    rfl
  show (wrap "ip redirect" (redirectHere calls ip) >>= _) s = _
  rw [run_bind, run_bind, hrun, hdefault]
  split
  · next r s' h => 
    rcases r with ⟨host, _ | p⟩
    · rfl
    · rfl
  · rfl
  · rfl

theorem dohRedirect_reported (hs : s.rules = (dohStart g rule).rules) (ip : Bytes) :
    (reported (dohRedirect calls (some rule) ip) s).1.toOption =
      dialEnd g rule ⟨ip, (moved (redirects calls g) ip s).1.toOption⟩ := by
  rw [reported_value, dohRedirect_attach hs]
  unfold dialEnd
  rcases hm : moved (redirects calls g) ip s with ⟨r, s'⟩
  have hkept : (moved (redirects calls g) ip s).2.rules = s.rules := (moved_mild g ip).keeps s
  rw [hm] at hkept
  cases r with
  | panic =>
    rw [run_bind_panic (wrap_run (run_bind_panic hm))]
    rfl
  | err e =>
    rw [run_bind_err (wrap_run (run_bind_err hm))]
    rfl
  | ok t =>
    have hrun : (moved (redirects calls g) ip >>= fun t => pure (t, g.getIPPolicy t)) s =
        (.ok (t, g.getIPPolicy t), s') := run_bind_ok hm
    rw [run_bind_ok (wrap_ok hrun)]
    show (attach g rule (t, g.getIPPolicy t) s').1.toOption.map _ =
      some (t, attached g rule (g.getIPPolicy t))
    cases g.getIPPolicy t with
    | none => exact congrArg (fun q => some (t, q)) (dohPolicy_of_rules (hkept.trans hs))
    | some p => rfl

/-! ## the dialer, by the form of the field -/

section
variable (hip : isIP d = false) (hf : g.domainFind d = some rule)
include hip hf

theorem dohDials_eq : dohDials calls d g = reported (match (attached g rule none).host with
    | none => pure d
    | some [] => pure d
    | some (c :: cs) => dohByHost calls (some rule) (c :: cs)) (dohStart g rule) := by
  have hby : dohTarget calls d = dohByDomain calls d := by
    unfold dohTarget
    rw [hip]
    rfl
  have hstart : dohByDomain calls d g.bare = (match (attached g rule none).host with
    | none => pure d
    | some [] => pure d
    | some (c :: cs) => dohByHost calls (some rule) (c :: cs) : Proc (Globals κ τ) Bytes)
      (dohStart g rule) := by
    have hfind : g.bare.domainFind d = some rule := hf
    have hfind' : (dohStart g rule).domainFind d = some rule := hf
    have hset : setDoh (dohDomainRef (some rule) g.bare.defaultPolicy) g.bare =
        (.ok (), dohStart g rule) := rfl
    have hpolicy : (dohStart g rule).dohPolicy = attached g rule none := rfl
    unfold dohByDomain
    rw [run_bind_ok (run_get g.bare), hfind, run_bind_ok hset, run_bind_ok (run_get _), hpolicy]
    rcases (attached g rule none).host with _ | _ | ⟨c, cs⟩
    · rfl
    · rfl
    · show dohByHost calls ((dohStart g rule).domainFind d) (c :: cs) (dohStart g rule) =
        dohByHost calls (some rule) (c :: cs) (dohStart g rule)
      rw [hfind']
  show reported (dohTarget calls d) g.bare = _
  unfold reported
  rw [hby, run_bind, hstart]
  rfl

theorem dialed_unnamed (hh : (attached g rule none).host = none ∨ (attached g rule none).host = some []) :
    (dohDials calls d g).1.toOption = some (d, attached g rule none) := by
  rw [dohDials_eq hip hf]
  rcases hh with hh | hh
  · rw [hh]; rfl
  · rw [hh]; rfl

theorem dialed_named {c : UInt8} {cs : Bytes} (hh : (attached g rule none).host = some (c :: cs)) :
    (dohDials calls d g).1.toOption =
      (reported (dohByHost calls (some rule) (c :: cs)) (dohStart g rule)).1.toOption := by
  rw [dohDials_eq hip hf, hh]

end

theorem byHost_skipped {h : Bytes} (hd : dohHost h = (x, true)) :
    (reported (dohByHost calls (some rule) h) (dohStart g rule)).1.toOption =
      (seek calls true x g).1.toOption.map fun host => (host, attached g rule none) := by
  have hseek : Mild (seek calls true x) := seek_mild true x
  obtain ⟨h1, -, h3⟩ := hseek.of_bare (s := dohStart g rule) (g := g) rfl
  rw [reported_value, dohByHost_seek, hd, ← h1]
  rcases hx : seek calls true x (dohStart g rule) with ⟨r, s'⟩
  rw [hx] at h3
  cases r with
  | panic => rw [run_bind_panic hx]; rfl
  | err e => rw [run_bind_err hx]; rfl
  | ok host =>
    rw [run_bind_ok hx]
    exact congrArg (fun q => some (host, q)) (dohPolicy_of_rules h3)

theorem byHost_sought {h : Bytes} (hd : dohHost h = (x, false)) :
    (reported (dohByHost calls (some rule) h) (dohStart g rule)).1.toOption =
      (course calls g x).bind (dialEnd g rule) := by
  have hseek : Mild (seek calls false x) := seek_mild false x
  obtain ⟨h1, h2, h3⟩ := hseek.of_bare (s := dohStart g rule) (g := g) rfl
  have hrun : reported (dohByHost calls (some rule) h) =
      seek calls false x >>= fun ip => reported (dohRedirect calls (some rule) ip) := by
    unfold reported
    rw [dohByHost_seek, hd, seq_assoc]
    rfl
  unfold course
  rw [hrun, run_bind]
  rcases hx : seek calls false x (dohStart g rule) with ⟨r, s'⟩
  rcases hy : seek calls false x g with ⟨r', g'⟩
  rw [hx, hy] at h1 h2
  rw [hx] at h3
  obtain rfl : r = r' := h1
  cases r with
  | panic => rfl
  | err e => rfl
  | ok ip =>
    have hmoved : Mild (moved (redirects calls g) ip) := moved_mild g ip
    show (reported (dohRedirect calls (some rule) ip) s').1.toOption = dialEnd g rule _
    rw [dohRedirect_reported h3, (hmoved.of_bare h2).1]

theorem dialed_attached (hip : isIP d = false) (hf : g.domainFind d = some rule) {r : Bytes × Policy}
    (h : (dohDials calls d g).1.toOption = some r) : ∃ ip, r.2 = attached g rule ip := by
  rcases hh : (attached g rule none).host with _ | _ | ⟨c, cs⟩
  · rw [dialed_unnamed hip hf (.inl hh)] at h
    exact ⟨none, congrArg (·.2) (Option.some.inj h.symm)⟩
  · rw [dialed_unnamed hip hf (.inr hh)] at h
    exact ⟨none, congrArg (·.2) (Option.some.inj h.symm)⟩
  · rw [dialed_named hip hf hh] at h
    rcases hd : dohHost (c :: cs) with ⟨x, _ | _⟩
    · rw [byHost_sought hd] at h
      obtain ⟨c', -, hc⟩ := Option.bind_eq_some_iff.mp h
      obtain ⟨t, -, rfl⟩ := Option.map_eq_some_iff.mp hc
      exact ⟨_, rfl⟩
    · rw [byHost_skipped hd] at h
      obtain ⟨host, -, rfl⟩ := Option.map_eq_some_iff.mp h
      exact ⟨none, rfl⟩

/-! ## when both make the same of a rule -/

/-- The planner takes the course `c`, the dialer ends at `dial` and reads the rule `read` there. -/
structure Meets (g : Globals κ τ) (rule : Policy) (c : Option Course) (dial : Option Bytes)
    (read : Bytes → Option Policy) : Prop where
  host : c.bind Course.goal = dial
  policy : ∀ c' ip, c = some c' → dial = some ip →
    ¬ c'.Stopped g rule ∧ attached g rule (c'.rule g) = attached g rule (read ip)

/-- The rule does not block, and by the form of its `host` field:
nothing, or an address: the look-ups lead the planner back to it, and no rule of an address counts;
`^`: the server is a pool that gives the empty host;  `^` and more: nothing else is asked;
`self`, a pool or a name: the look-ups of both meet, and so do the rules of the two addresses. -/
def HostAlike (calls : Callees κ τ) (g : Globals κ τ) (rule : Policy) (d : Bytes) : Prop :=
  rule.mode ≠ .block ∧
  match (attached g rule none).host with
  | none => Meets g rule (course calls g d) (some d) fun _ => none
  | some h =>
    if h = [] then Meets g rule (course calls g d) (some d) fun _ => none
    else if h = [caret] then (dohPool d g).1 = .ok []
    else if startsWith caret h then True
    else if isIP h then Meets g rule (course calls g h) (some h) fun _ => none
    else Meets g rule (course calls g (if h = lit "self" then d else h))
      ((course calls g h).bind Course.target) g.getIPPolicy

theorem hostAlike_fixed {h : Bytes} (hb : rule.mode ≠ .block)
    (hh : (attached g rule none).host = some h) (hc : h ≠ [caret]) (hst : startsWith caret h = true) :
    HostAlike calls g rule d := by
  refine ⟨hb, ?_⟩
  rw [hh]
  show if _ then _ else _
  have hne : h ≠ [] := by
    intro h0
    rw [h0] at hst
    cases hst
  rw [if_neg hne, if_neg hc, if_pos hst]
  trivial

theorem attached_ne_empty (g : Globals κ τ) (rule : Policy) (ip : Option Policy) :
    attached g rule ip ≠ {} := by
  intro h
  exact merge_mode_ne_unknown _ (congrArg Policy.mode h)

theorem meets_iff {c : Option Course} {dial : Option Bytes} {read : Bytes → Option Policy} :
    (c.bind fun c => c.planEnd g rule) = dial.map (fun ip => (ip, attached g rule (read ip))) ↔
      Meets g rule c dial read := by
  cases c with
  | none =>
    constructor
    · intro h
      refine ⟨?_, fun c' ip hc => nomatch hc⟩
      exact (Option.map_eq_none_iff.mp h.symm).symm
    · rintro ⟨h, -⟩
      rw [← show none = dial from h]
      rfl
  | some c =>
    show c.planEnd g rule = _ ↔ _
    unfold Course.planEnd
    constructor
    · intro h
      cases hg : c.goal with
      | none =>
        rw [hg, Option.map_none] at h
        have hd : dial = none := Option.map_eq_none_iff.mp h.symm
        exact ⟨hg.trans hd.symm, fun c' ip _ hi => nomatch hd.symm.trans hi⟩
      | some ip =>
        rw [hg, Option.map_some] at h
        obtain ⟨ip', hd, he⟩ := Option.map_eq_some_iff.mp h.symm
        by_cases hst : c.Stopped g rule
        · -- the dialer never attaches the empty policy
          rw [if_pos hst] at he
          exact absurd (congrArg (·.2) he) (attached_ne_empty g rule _)
        · rw [if_neg hst] at he
          obtain ⟨rfl, hp⟩ := Prod.mk.inj he
          refine ⟨hg.trans hd.symm, fun c' ip hc hi => ?_⟩
          obtain rfl := Option.some.inj hc
          obtain rfl := Option.some.inj (hd.symm.trans hi)
          exact ⟨hst, hp.symm⟩
    · rintro ⟨hg, hp⟩
      have hg : c.goal = dial := hg
      rw [hg]
      cases hd : dial with
      | none => rfl
      | some ip =>
        obtain ⟨hst, hq⟩ := hp c ip rfl hd
        rw [Option.map_some, Option.map_some, if_neg hst, hq]

/-! ## the forms of the field -/

theorem startsWith_ip {h : Bytes} (hip : isIP h = true) : startsWith tagMark h = false := by
  cases h with
  | nil => rfl
  | cons c cs =>
    show (some c == some tagMark) = false
    by_contra hc
    rw [Bool.not_eq_false, beq_iff_eq] at hc
    obtain rfl := Option.some.inj hc
    rw [isIP_head (by decide) (by decide) (by decide) (by decide)] at hip
    cases hip

theorem seek_skip (x : Bytes) : seek calls true x g = dohPool x g := by
  show (dohPool x >>= fun host => pure host) g = _
  rw [run_bind]
  rcases dohPool x g with ⟨r, g'⟩
  cases r with
  | panic => rfl
  | err e => rfl
  | ok host => rfl

theorem dohPool_plain {x : Bytes} (hx : startsWith tagMark x = false) : dohPool x g = (.ok x, g) := by
  unfold dohPool
  rw [hx]
  rfl

theorem toOption_map_eq_some {α β : Type} {r : Res α} {f : α → β} {b : β} :
    r.toOption.map f = some b ↔ ∃ a, r = .ok a ∧ f a = b := by
  cases r <;> simp [Res.toOption]

theorem hostTarget_plain {c : UInt8} {cs : Bytes} (hst : startsWith caret (c :: cs) = false) :
    hostTarget (some (c :: cs)) d = (if c :: cs = lit "self" then d else c :: cs, false) := by
  have hcaret : c :: cs ≠ [caret] := by
    intro h
    rw [h] at hst
    cases hst
  unfold hostTarget
  dsimp only
  by_cases hself : c :: cs = lit "self"
  · rw [if_pos (.inr hself), if_pos hself]
  · rw [if_neg (fun h => h.elim (fun h => nomatch h) hself), if_neg hcaret, hst, if_neg hself]
    rfl

section
variable {std : Std} {rt : Env (Globals κ τ)}
variable (hs : SameAnswers calls rt) (hip : isIP d = false)
  (hr : routeDomain (g.env std rt) d = ⟨some rule, true, [rule, g.defaultPolicy]⟩)
  (hf : g.domainFind d = some rule) (hb : rule.mode ≠ .block)
include hs hip hr hf hb

theorem agree_unnamed (hh : (attached g rule none).host = none ∨ (attached g rule none).host = some []) :
    planned (genPolicyWithOptions (g.env std rt) d true g).1 = (dohDials calls d g).1.toOption ↔
      Meets g rule (course calls g d) (some d) fun _ => none := by
  have ht : hostTarget (attached g rule none).host d = (d, false) := by
    rcases hh with hh | hh
    · rw [hh]; rfl
    · rw [hh]; rfl
  rw [planned_sought hip hr hs hb ht, dialed_unnamed hip hf hh, ← meets_iff]
  rfl

section
variable {c : UInt8} {cs : Bytes} (hh : (attached g rule none).host = some (c :: cs))
include hh

theorem agree_caret (hc : c :: cs = [caret]) :
    planned (genPolicyWithOptions (g.env std rt) d true g).1 = (dohDials calls d g).1.toOption ↔
      (dohPool d g).1 = .ok [] := by
  have ht : hostTarget (attached g rule none).host d = (d, true) := by rw [hh, hc]; rfl
  have hd : dohHost (c :: cs) = ([], true) := by rw [hc]; rfl
  have hempty : dohPool [] g = (.ok [], g) := dohPool_plain rfl
  rw [planned_skipped hip hr hs hb ht, dialed_named hip hf hh, byHost_skipped hd, seek_skip, seek_skip,
    hempty]
  show _ = some ([], attached g rule none) ↔ _
  rw [toOption_map_eq_some]
  constructor
  · rintro ⟨a, ha, he⟩
    rw [ha, (Prod.mk.inj he).1]
  · exact fun h => ⟨[], h, rfl⟩

theorem agree_fixed (hc : c :: cs ≠ [caret]) (hst : startsWith caret (c :: cs) = true) :
    planned (genPolicyWithOptions (g.env std rt) d true g).1 = (dohDials calls d g).1.toOption := by
  have hne : ¬ (c :: cs = [] ∨ c :: cs = lit "self") := by
    rintro (h | h)
    · cases h
    · rw [h] at hst
      exact absurd hst (by decide)
  have ht : hostTarget (attached g rule none).host d = (cs, true) := by
    rw [hh]
    unfold hostTarget
    dsimp only
    rw [if_neg hne, if_neg hc, if_pos hst]
    rfl
  have hd : dohHost (c :: cs) = (cs, true) := by
    unfold dohHost
    rw [if_pos hst]
    rfl
  rw [planned_skipped hip hr hs hb ht, dialed_named hip hf hh, byHost_skipped hd]

theorem agree_address (hst : startsWith caret (c :: cs) = false) (ha : isIP (c :: cs) = true) :
    planned (genPolicyWithOptions (g.env std rt) d true g).1 = (dohDials calls d g).1.toOption ↔
      Meets g rule (course calls g (c :: cs)) (some (c :: cs)) fun _ => none := by
  have hself : c :: cs ≠ lit "self" := by
    intro h
    rw [h] at ha
    exact absurd ha (by decide +kernel)
  have ht : hostTarget (attached g rule none).host d = (c :: cs, false) := by
    rw [hh, hostTarget_plain hst, if_neg hself]
  have hd : dohHost (c :: cs) = (c :: cs, true) := by
    unfold dohHost
    rw [hst, if_neg Bool.false_ne_true, decide_eq_true ⟨hself, ha⟩]
  rw [planned_sought hip hr hs hb ht, dialed_named hip hf hh, byHost_skipped hd, seek_skip,
    dohPool_plain (startsWith_ip ha), ← meets_iff]
  rfl

theorem agree_name (hst : startsWith caret (c :: cs) = false) (ha : isIP (c :: cs) = false) :
    planned (genPolicyWithOptions (g.env std rt) d true g).1 = (dohDials calls d g).1.toOption ↔
      Meets g rule (course calls g (if c :: cs = lit "self" then d else c :: cs))
        ((course calls g (c :: cs)).bind Course.target) g.getIPPolicy := by
  have ht : hostTarget (attached g rule none).host d =
      (if c :: cs = lit "self" then d else c :: cs, false) := by
    rw [hh, hostTarget_plain hst]
  have hd : dohHost (c :: cs) = (c :: cs, false) := by
    unfold dohHost
    rw [hst, if_neg Bool.false_ne_true, decide_eq_false (by rw [ha]; exact fun h => nomatch h.2)]
  have hend : (course calls g (c :: cs)).bind (dialEnd g rule) =
      ((course calls g (c :: cs)).bind Course.target).map
        fun ip => (ip, attached g rule (g.getIPPolicy ip)) := by
    cases course calls g (c :: cs) with
    | none => rfl
    | some c' => rfl
  rw [planned_sought hip hr hs hb ht, dialed_named hip hf hh, byHost_sought hd, hend, meets_iff]

end
end

/-- **The dialer and the planner make the same of a rule exactly when it is `HostAlike`**: for every
configuration, every name with a rule and every form of its `host` field.  The dialer of
`genDialContext` is the one for the host and the policy of `dohDials`. -/
theorem doh_host_iff {std : Std} {rt : Env (Globals κ τ)} {addr port : Bytes}
    (hurl : calls.parseURL addr = .ok (d, port)) (hs : SameAnswers calls rt) (hip : isIP d = false)
    (hrule : (routeDomain (g.env std rt) d).domainPolicy = some rule) :
    genDialContext calls addr g =
      (dohDials calls d >>= fun r => pure (dohDialer r.1 port r.2)) g ∧
    (planned (genPolicyWithOptions (g.env std rt) d true g).1 = (dohDials calls d g).1.toOption ↔
      HostAlike calls g rule d) := by
  refine ⟨congrFun (genDialContext_dials hurl) g, ?_⟩
  obtain ⟨hf, hr⟩ := routeDomain_some hrule
  unfold HostAlike
  by_cases hb : rule.mode = .block
  · rw [planned_blocked hip hr hb]
    refine ⟨fun h => ?_, fun h => absurd hb h.1⟩
    obtain ⟨ip, hempty⟩ := dialed_attached hip hf h.symm
    exact absurd hempty.symm (attached_ne_empty g rule ip)
  · rw [and_iff_right hb]
    rcases hh : (attached g rule none).host with _ | _ | ⟨c, cs⟩
    · exact agree_unnamed hs hip hr hf hb (.inl hh)
    · exact agree_unnamed hs hip hr hf hb (.inr hh)
    · show _ ↔ if _ then _ else _
      rw [if_neg (List.cons_ne_nil c cs)]
      by_cases hc : c :: cs = [caret]
      · rw [if_pos hc]
        exact agree_caret hs hip hr hf hb hh hc
      rw [if_neg hc]
      by_cases hst : startsWith caret (c :: cs) = true
      · rw [if_pos hst]
        exact iff_of_true (agree_fixed hs hip hr hf hb hh hc hst) trivial
      rw [if_neg hst]
      rw [Bool.not_eq_true] at hst
      by_cases ha : isIP (c :: cs) = true
      · rw [if_pos ha]
        exact agree_address hs hip hr hf hb hh hst ha
      · rw [if_neg ha]
        exact agree_name hs hip hr hf hb hh hst (Bool.not_eq_true _ ▸ ha)

end

end
/-! ## a server with a rule -/

/-- routing with the pools of the process and the look-up that a load uses -/
def bootstrapEnv {κ τ : Type} (calls : Callees κ τ) : Env (Globals κ τ) where
  getIPPolicy := fun _ => none
  getFromIPPool := poolAddress
  resolveBootstrapHost := resolveBootstrapHost calls
  lower := id
  domainFind := fun _ => none
  isGFWDomain := fun _ => false
  defaultPolicy := {}
  lookupRecordedDNSIP := fun _ _ => pure none
  resolve := fun name _ => do
    let ip ← resolveBootstrapHost calls name
    pure (ip, false)
  lookupDomain := fun _ => pure []

theorem bootstrapEnv_same {κ τ : Type} (calls : Callees κ τ) :
    SameAnswers calls (bootstrapEnv calls) where
  pool := rfl
  bootstrap := rfl
  resolver m name hip := by
    show ((resolveBootstrapHost calls name >>= fun ip => pure (ip, false)) >>= fun r => pure r.1) = _
    rw [seq_assoc]
    funext s
    show (resolveBootstrapHost calls name >>= fun ip => pure ip) s = _
    rw [run_bind]
    rcases resolveBootstrapHost calls name s with ⟨r, s'⟩
    cases r <;> rfl

/-- every name has one address -/
def dohCallees : Callees Unit Unit :=
  { plainCallees with
    bootstrapLookupIP := fun _ => .ok [[192, 0, 2, 1]]
    parseURL := fun _ => .ok (lit "dns.example", []) }

/-- a rule with a `host` field for the server, and a rule that sends an address elsewhere -/
def dohDoc (host : String) : Json := .obj [(lit "dns_addr", .str (lit "https://dns.example/q")),
  (lit "domain_policies", .obj [(lit "dns.example", .obj [(lit "host", .str (lit host))])]),
  (lit "ip_policies", .obj [(lit "192.0.2.7", .obj [(lit "map_to", .str (lit "192.0.2.8"))])])]

def dohLoaded (host : String) : Globals Unit Unit := (loadConfig dohCallees (.ok (dohDoc host)) {}).2

def dohPlanned (host : String) : Option (Bytes × Policy) :=
  planned (genPolicyWithOptions ((dohLoaded host).env dohCallees.std (bootstrapEnv dohCallees))
    (lit "dns.example") true (dohLoaded host)).1

/-- what the dialer makes of it -/
def dohDialed (host : String) : Option (Bytes × Policy) :=
  (dohDials dohCallees (lit "dns.example") (dohLoaded host)).1.toOption

theorem doh_host_fixed : dohPlanned "^192.0.2.7" = dohDialed "^192.0.2.7" := by
  have hurl : dohCallees.parseURL (lit "https://dns.example/q") = .ok (lit "dns.example", []) := rfl
  have hname : isIP (lit "dns.example") = false := by decide +kernel
  obtain ⟨rule, hrule⟩ := Option.isSome_iff_exists.mp (show (routeDomain
    ((dohLoaded "^192.0.2.7").env dohCallees.std (bootstrapEnv dohCallees))
    (lit "dns.example")).domainPolicy.isSome = true by decide +kernel)
  have hfields : (routeDomain ((dohLoaded "^192.0.2.7").env dohCallees.std (bootstrapEnv dohCallees))
      (lit "dns.example")).domainPolicy.map (fun p => (p.mode, (attached (dohLoaded "^192.0.2.7") p none).host)) =
      some (.unknown, some (lit "^192.0.2.7")) := by decide +kernel
  rw [hrule] at hfields
  obtain ⟨hmode, hhost⟩ := Prod.mk.inj (Option.some.inj hfields)
  refine (doh_host_iff hurl (bootstrapEnv_same dohCallees) hname hrule).2.mpr ?_
  exact hostAlike_fixed (by rw [hmode]; decide) hhost (by decide +kernel) (by decide +kernel)

/-- the rule `^`: the server is dialed without a host; an address: it is dialed there, and planned where
the rule of the address leads -/
theorem doh_host_differs :
    (loadConfig dohCallees (.ok (dohDoc "^")) {}).1 = .ok ([], []) ∧
    (dohPlanned "^").map (·.1) = some (lit "dns.example") ∧ (dohDialed "^").map (·.1) = some [] ∧
    (loadConfig dohCallees (.ok (dohDoc "192.0.2.7")) {}).1 = .ok ([], []) ∧
    (dohPlanned "192.0.2.7").map (·.1) = some (lit "192.0.2.8") ∧
    (dohDialed "192.0.2.7").map (·.1) = some (lit "192.0.2.7") := by
  refine ⟨?_, ?_, ?_, ?_, ?_, ?_⟩ <;> decide +kernel

end Bill
