import BillVpn.Go.Run
import Mathlib.Algebra.BigOperators.Fin
import Mathlib.Data.Fintype.BigOperators

/-!
# Goroutines behind a semaphore

`n` goroutines are started at once.  Each takes a permit from a channel of capacity `permits`, works
in steps, gives the permit back, and sends what it found to a channel of capacity `n`; the starter
waits for all of them and then reads the channel.

* `CrewJob`                    what the goroutines do between the permit and its return;
* `Crew.step`              one step of one goroutine, in any order;
* `Crew.step_cases`        everything a step can do;
* `Crew.run_sound`         permits, values and the channel, along every schedule;
* `Crew.can_move`, `Crew.moves_le`   no schedule gets stuck, and none goes on for ever;
* `Crew.collected`         **when all are done, the channel holds the value of each, once**.
-/

set_option linter.unusedVariables false

namespace Go

/-- between the start of a goroutine and its end -/
inductive Stage (α ρ : Type) where
  | waiting
  | working (a : α)
  | worked (r : ρ)
  | released (r : ρ)
  | sent
deriving DecidableEq

/-- The work of each goroutine as a loop, with what the loop will give and a bound on its turns. -/
structure CrewJob (n : Nat) (α ρ : Type) where
  start : Fin n → α
  work : Fin n → α → α ⊕ ρ
  value : Fin n → α → ρ
  left : Fin n → α → Nat
  value_turn : ∀ {i a a'}, work i a = .inl a' → value i a' = value i a
  value_end : ∀ {i a r}, work i a = .inr r → value i a = r
  left_turn : ∀ {i a a'}, work i a = .inl a' → left i a' < left i a

structure Crew (n : Nat) (α ρ : Type) where
  stage : Fin n → Stage α ρ
  out : List (Fin n × ρ)

inductive CrewEvent (n : Nat) where
  | acquire (i : Fin n)
  | work (i : Fin n)
  | release (i : Fin n)
  | send (i : Fin n)
deriving DecidableEq

section
variable {n : Nat} {α ρ : Type}

def Stage.permit : Stage α ρ → Nat
  | .working _ => 1
  | .worked _ => 1
  | _ => 0

namespace Crew

def held (c : Crew n α ρ) : Nat := ∑ i, (c.stage i).permit

def put (c : Crew n α ρ) (i : Fin n) (x : Stage α ρ) : Crew n α ρ :=
  { c with stage := Function.update c.stage i x }

def begin : Crew n α ρ := ⟨fun _ => .waiting, []⟩

def Done (c : Crew n α ρ) : Prop := ∀ i, c.stage i = .sent

end Crew

variable (job : CrewJob n α ρ) (permits : Nat)

def CrewJob.final (i : Fin n) : ρ := job.value i (job.start i)

def CrewJob.turn (i : Fin n) (a : α) : Stage α ρ :=
  match job.work i a with
  | .inl a' => .working a'
  | .inr r => .worked r

namespace Crew

/-! ## the steps -/

def acquire (i : Fin n) (c : Crew n α ρ) : Crew n α ρ :=
  match c.stage i with
  | .waiting => if c.held < permits then c.put i (.working (job.start i)) else c
  | _ => c

def work (i : Fin n) (c : Crew n α ρ) : Crew n α ρ :=
  match c.stage i with
  | .working a => c.put i (job.turn i a)
  | _ => c

def release (i : Fin n) (c : Crew n α ρ) : Crew n α ρ :=
  match c.stage i with
  | .worked r => c.put i (.released r)
  | _ => c

def send (i : Fin n) (c : Crew n α ρ) : Crew n α ρ :=
  match c.stage i with
  | .released r => if c.out.length < n then { c.put i .sent with out := c.out ++ [(i, r)] } else c
  | _ => c

/-- A goroutine whose turn it is not stays where it is: at a full channel, or past its end. -/
def step : CrewEvent n → Crew n α ρ → Crew n α ρ
  | .acquire i => acquire job permits i
  | .work i => work job i
  | .release i => release i
  | .send i => send i

/-- what a step does if it does anything -/
inductive Moves (c : Crew n α ρ) : CrewEvent n → Crew n α ρ → Prop where
  | acquire {i} (h : c.stage i = .waiting) (hc : c.held < permits) :
      Moves c (.acquire i) (c.put i (.working (job.start i)))
  | turn {i a a'} (h : c.stage i = .working a) (hw : job.work i a = .inl a') :
      Moves c (.work i) (c.put i (.working a'))
  | finish {i a r} (h : c.stage i = .working a) (hw : job.work i a = .inr r) :
      Moves c (.work i) (c.put i (.worked r))
  | release {i r} (h : c.stage i = .worked r) : Moves c (.release i) (c.put i (.released r))
  | send {i r} (h : c.stage i = .released r) (hc : c.out.length < n) :
      Moves c (.send i) { c.put i .sent with out := c.out ++ [(i, r)] }

variable {job} {permits} {c : Crew n α ρ}

theorem step_cases (e : CrewEvent n) (c : Crew n α ρ) :
    step job permits e c = c ∨ Moves job permits c e (step job permits e c) := by
  cases e with
  | acquire i =>
    show acquire job permits i c = c ∨ Moves job permits c _ (acquire job permits i c)
    unfold acquire
    split
    · rename_i h
      split_ifs with hc
      · exact .inr (.acquire h hc)
      · exact .inl rfl
    · exact .inl rfl
  | work i =>
    show work job i c = c ∨ Moves job permits c _ (work job i c)
    unfold work
    split
    · rename_i a h
      unfold CrewJob.turn
      cases hw : job.work i a with
      | inl a' => exact .inr (.turn h hw)
      | inr r => exact .inr (.finish h hw)
    · exact .inl rfl
  | release i =>
    show release i c = c ∨ Moves job permits c _ (release i c)
    unfold release
    split
    · rename_i r h
      exact .inr (.release h)
    · exact .inl rfl
  | send i =>
    show send i c = c ∨ Moves job permits c _ (send i c)
    unfold send
    split
    · rename_i r h
      split_ifs with hc
      · exact .inr (.send h hc)
      · exact .inl rfl
    · exact .inl rfl

theorem step_of_moves {e : CrewEvent n} {c' : Crew n α ρ} (h : Moves job permits c e c') :
    step job permits e c = c' := by
  cases h with
  | acquire h hc =>
    show acquire job permits _ c = _
    unfold acquire
    rw [h]
    exact if_pos hc
  | turn h hw =>
    show work job _ c = _
    unfold work
    rw [h]
    dsimp only
    unfold CrewJob.turn
    rw [hw]
  | finish h hw =>
    show work job _ c = _
    unfold work
    rw [h]
    dsimp only
    unfold CrewJob.turn
    rw [hw]
  | release h =>
    show Crew.release _ c = _
    unfold Crew.release
    rw [h]
  | send h hc =>
    show Crew.send _ c = _
    unfold Crew.send
    rw [h]
    exact if_pos hc

/-! ## sums over the goroutines -/

theorem put_self (c : Crew n α ρ) (i : Fin n) (x : Stage α ρ) : (c.put i x).stage i = x :=
  Function.update_self ..

theorem put_ne (c : Crew n α ρ) {i j : Fin n} (x : Stage α ρ) (h : j ≠ i) :
    (c.put i x).stage j = c.stage j := Function.update_of_ne h ..

theorem sum_put (f : Fin n → Stage α ρ → Nat) (c : Crew n α ρ) (i : Fin n) (x : Stage α ρ) :
    ∑ j, f j ((c.put i x).stage j) + f i (c.stage i) = ∑ j, f j (c.stage j) + f i x := by
  have h := Finset.add_sum_erase Finset.univ (fun j => f j (c.stage j)) (Finset.mem_univ i)
  have h' := Finset.add_sum_erase Finset.univ (fun j => f j ((c.put i x).stage j)) (Finset.mem_univ i)
  have hrest : ∑ j ∈ Finset.univ.erase i, f j ((c.put i x).stage j) =
      ∑ j ∈ Finset.univ.erase i, f j (c.stage j) := by
    refine Finset.sum_congr rfl fun j hj => ?_
    rw [c.put_ne x (Finset.ne_of_mem_erase hj)]
  have hi : f i ((c.put i x).stage i) = f i x := congrArg (f i) (c.put_self i x)
  omega

theorem held_put (c : Crew n α ρ) (i : Fin n) (x : Stage α ρ) :
    (c.put i x).held + (c.stage i).permit = c.held + x.permit :=
  sum_put (fun _ => Stage.permit) c i x

/-! ## along every schedule -/

variable (job) in
/-- what a goroutine has, or has given away, is what its loop gives -/
def Fits (i : Fin n) : Stage α ρ → Prop
  | .working a => job.value i a = job.final i
  | .worked r => r = job.final i
  | .released r => r = job.final i
  | _ => True

variable (job permits) in
structure Sound (c : Crew n α ρ) : Prop where
  held : c.held ≤ permits
  fits : ∀ i, Fits job i (c.stage i)
  sent : ∀ i, c.stage i = .sent ↔ i ∈ c.out.map (·.1)
  once : (c.out.map (·.1)).Nodup
  out : ∀ x ∈ c.out, x.2 = job.final x.1

theorem held_begin : (begin : Crew n α ρ).held = 0 := Finset.sum_eq_zero fun i _ => rfl

theorem begin_sound : Sound job permits begin where
  held := by
    rw [held_begin]
    exact Nat.zero_le _
  fits i := trivial
  sent i := by simp [begin]
  once := List.nodup_nil
  out x h := by cases h

theorem Sound.fits_at (hc : Sound job permits c) {i : Fin n} {x : Stage α ρ} (h : c.stage i = x) :
    Fits job i x := by
  rw [← h]
  exact hc.fits i

theorem Sound.fits_put (hc : Sound job permits c) {i : Fin n} {x : Stage α ρ} (hx : Fits job i x)
    (j : Fin n) : Fits job j ((c.put i x).stage j) := by
  by_cases h : j = i
  · rw [h, put_self]
    exact hx
  · rw [c.put_ne x h]
    exact hc.fits j

theorem Sound.put (hc : Sound job permits c) {i : Fin n} {x : Stage α ρ}
    (hheld : (c.put i x).held ≤ permits) (hx : Fits job i x) (hnot : c.stage i ≠ .sent)
    (hsent : x ≠ .sent) : Sound job permits (c.put i x) where
  held := hheld
  fits := hc.fits_put hx
  sent j := by
    by_cases h : j = i
    · rw [h, put_self]
      exact ⟨fun hs => absurd hs hsent, fun hm => absurd ((hc.sent i).mpr hm) hnot⟩
    · rw [c.put_ne x h]
      exact hc.sent j
  once := hc.once
  out := hc.out

theorem Sound.room (hc : Sound job permits c) {i : Fin n} (h : c.stage i ≠ .sent) :
    c.out.length < n := by
  have hnot : i ∉ c.out.map (·.1) := fun hm => h ((hc.sent i).mpr hm)
  have hle := (List.nodup_cons.mpr ⟨hnot, hc.once⟩).length_le_card
  rw [List.length_cons, List.length_map, Fintype.card_fin] at hle
  omega

theorem moves_sound (hc : Sound job permits c) {e : CrewEvent n} {c' : Crew n α ρ}
    (h : Moves job permits c e c') : Sound job permits c' := by
  cases h with
  | @acquire i h hcap =>
    have hput := held_put c i (.working (job.start i))
    rw [h] at hput
    have hheld : (c.put i (.working (job.start i))).held = c.held + 1 := hput
    exact hc.put (by omega) rfl (by simp [h]) (by simp)
  | @turn i a a' h hw =>
    have hput := held_put c i (.working a')
    rw [h] at hput
    have hheld : (c.put i (.working a')).held = c.held := Nat.add_right_cancel hput
    have hfit : job.value i a = job.final i := hc.fits_at h
    exact hc.put (hheld.trans_le hc.held) ((job.value_turn hw).trans hfit) (by simp [h]) (by simp)
  | @finish i a r h hw =>
    have hput := held_put c i (.worked r)
    rw [h] at hput
    have hheld : (c.put i (.worked r)).held = c.held := Nat.add_right_cancel hput
    have hfit : job.value i a = job.final i := hc.fits_at h
    exact hc.put (hheld.trans_le hc.held) ((job.value_end hw).symm.trans hfit) (by simp [h]) (by simp)
  | @release i r h =>
    have hput := held_put c i (.released r)
    rw [h] at hput
    have hheld : (c.put i (.released r)).held + 1 = c.held := hput
    have hfit : r = job.final i := hc.fits_at h
    have hle := hc.held
    exact hc.put (by omega) hfit (by simp [h]) (by simp)
  | @send i r h hcap =>
    have hput := held_put c i .sent
    rw [h] at hput
    have hheld : (c.put i .sent).held = c.held := hput
    have hfit : r = job.final i := hc.fits_at h
    have hnot : i ∉ c.out.map (·.1) := fun hm => by
      have := (hc.sent i).mpr hm
      simp [h] at this
    refine ⟨hheld.trans_le hc.held, hc.fits_put trivial, fun j => ?_, ?_, fun x hx => ?_⟩
    · show (c.put i .sent).stage j = .sent ↔ j ∈ (c.out ++ [(i, r)]).map (·.1)
      rw [List.map_append, List.mem_append, List.map_singleton, List.mem_singleton]
      by_cases hj : j = i
      · rw [hj, put_self]
        exact ⟨fun _ => .inr rfl, fun _ => rfl⟩
      · rw [c.put_ne _ hj, hc.sent j]
        exact ⟨.inl, fun hm => hm.resolve_right hj⟩
    · show ((c.out ++ [(i, r)]).map (·.1)).Nodup
      rw [List.map_append, List.map_singleton, List.nodup_append]
      refine ⟨hc.once, List.nodup_singleton i, fun a ha b hb => ?_⟩
      rintro rfl
      have hab : a = i := List.mem_singleton.mp hb
      exact hnot (hab ▸ ha)
    · rcases List.mem_append.mp hx with hx | hx
      · exact hc.out x hx
      · rw [List.mem_singleton.mp hx]
        exact hfit

theorem step_sound (hc : Sound job permits c) (e : CrewEvent n) :
    Sound job permits (step job permits e c) := by
  rcases step_cases e c with h | h
  · rw [h]
    exact hc
  · exact moves_sound hc h

theorem run_sound (es : List (CrewEvent n)) :
    Sound job permits (runAll (step job permits) es begin) :=
  runAll_invariant (I := Sound job permits) (fun e c hc => step_sound hc e) es begin_sound

/-! ## no schedule gets stuck, none goes on for ever -/

variable (job) in
/-- a bound on the steps that a goroutine still has to make -/
def todo (i : Fin n) : Stage α ρ → Nat
  | .waiting => job.left i (job.start i) + 4
  | .working a => job.left i a + 3
  | .worked _ => 2
  | .released _ => 1
  | .sent => 0

variable (job) in
def rest (c : Crew n α ρ) : Nat := ∑ i, todo job i (c.stage i)

theorem rest_put (c : Crew n α ρ) {i : Fin n} {x y : Stage α ρ} (h : c.stage i = y)
    (hlt : todo job i x < todo job i y) : rest job (c.put i x) < rest job c := by
  have hput : rest job (c.put i x) + todo job i (c.stage i) = rest job c + todo job i x :=
    sum_put (todo job) c i x
  rw [h] at hput
  omega

theorem moves_rest {e : CrewEvent n} {c' : Crew n α ρ} (h : Moves job permits c e c') :
    rest job c' < rest job c := by
  cases h with
  | acquire h hcap => exact rest_put c h (Nat.lt_succ_self _)
  | turn h hw => exact rest_put c h (Nat.add_lt_add_right (job.left_turn hw) 3)
  | finish h hw => exact rest_put c h (Nat.le_add_left _ _)
  | release h => exact rest_put c h Nat.one_lt_two
  | send h hcap => exact rest_put c h Nat.one_pos

theorem Sound.started_moves (hc : Sound job permits c) {i : Fin n} (hw : c.stage i ≠ .waiting)
    (hs : c.stage i ≠ .sent) : ∃ e c', Moves job permits c e c' := by
  cases h : c.stage i with
  | waiting => exact absurd h hw
  | working a =>
    cases hw : job.work i a with
    | inl a' => exact ⟨_, _, .turn h hw⟩
    | inr r => exact ⟨_, _, .finish h hw⟩
  | worked r => exact ⟨_, _, .release h⟩
  | released r => exact ⟨_, _, .send h (hc.room hs)⟩
  | sent => exact absurd h hs

/-- whoever holds a permit can go on, and if nobody does there is one to take -/
theorem Sound.can_move (hc : Sound job permits c) (hp : 0 < permits) (hd : ¬ c.Done) :
    ∃ e c', Moves job permits c e c' := by
  obtain ⟨i, hi⟩ := not_forall.mp hd
  by_cases hw : c.stage i = .waiting
  · by_cases hheld : c.held = 0
    · exact ⟨_, _, .acquire hw (hheld ▸ hp)⟩
    · obtain ⟨j, -, hj⟩ := Finset.exists_ne_zero_of_sum_ne_zero hheld
      refine hc.started_moves (i := j) (fun h => ?_) fun h => ?_
      · exact hj (by rw [h]; rfl)
      · exact hj (by rw [h]; rfl)
  · exact hc.started_moves hw hi

/-- a schedule in which every event does something is as long as the work at most -/
theorem moves_le {es : List (CrewEvent n)} : ∀ {c : Crew n α ρ},
    Along (step job permits) (fun e c => step job permits e c ≠ c) es c →
    es.length + rest job (runAll (step job permits) es c) ≤ rest job c := by
  induction es with
  | nil => exact fun _ => (Nat.zero_add _).le
  | cons e es ih =>
    intro c h
    have hlt := moves_rest ((step_cases e c).resolve_left h.1)
    have hle := ih h.2
    rw [runAll_cons, List.length_cons]
    omega

/-! ## the channel at the end -/

theorem Sound.collected (hc : Sound job permits c) (hd : c.Done) :
    c.out.Perm (List.ofFn fun i => (i, job.final i)) := by
  have hout : c.out = (c.out.map (·.1)).map fun i => (i, job.final i) := by
    rw [List.map_map]
    refine (List.map_id c.out).symm.trans (List.map_congr_left fun x hx => ?_)
    exact Prod.ext rfl (hc.out x hx)
  have hperm : (c.out.map (·.1)).Perm (List.finRange n) := by
    refine (List.perm_ext_iff_of_nodup hc.once (List.nodup_finRange n)).mpr fun i => ?_
    exact ⟨fun _ => List.mem_finRange i, fun _ => (hc.sent i).mp (hd i)⟩
  rw [hout, List.ofFn_eq_map]
  exact hperm.map _

end Crew
end
end Go
