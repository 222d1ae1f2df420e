import BillVpn.Android.Subscriptions

/-!
# When no subscription is lost

A coroutine computes its new list from the one in memory, and puts it there after a suspension.  If
nobody else touches the list in between, and if a subscription is not deleted while it is refreshed,
every change survives.

* `Undisturbed`              the condition on a step;
* `SubsInv s T`              the invariant; `T` is the list that memory has, or will have once what
                             is being saved is there;
* `subscriptions_kept`       **along undisturbed steps nothing is lost or undone**;
* `subscriptions_lost`       what happens otherwise.
-/

set_option linter.unusedVariables false

namespace Bill
open Go

/-! ## the condition -/

def Job.isSaving : Job → Bool
  | .saving _ _ _ => true
  | _ => false

def Job.refreshes : Job → List Subscription
  | .refreshing _ sub => [sub]
  | .refreshingAll _ sub rest _ => sub :: rest
  | _ => []

/-- it has changed the list in memory only -/
def Job.isDirty : Job → Bool
  | .refreshingAll _ _ _ first => !first
  | _ => false

/-- it waits for its file to be written -/
def Job.isNaming : Job → Bool
  | .adding .write _ => true
  | _ => false

def NoJob (p : Job → Bool) (s : SubsState) : Prop := ∀ i job, s.jobs i = some job → p job = false

def BeingDeleted (s : SubsState) (id : Bytes) : Prop :=
  ∃ i w sub u, s.jobs i = some (.saving w (.delete sub) u) ∧ sub.id = id

/-- Nobody else is saving a list when one is computed or changed; no name is chosen while another
that was chosen has no file; no subscription is deleted while it is going to be refreshed, or the
other way round; and when all are refreshed, only the first download may fail. -/
def Undisturbed : SubsEvent → SubsState → Prop
  | .add _ _, _ => True
  | .refresh index, s => ∀ sub, s.subs[index]? = some sub → ¬ BeingDeleted s sub.id
  | .refreshAll, s => ∀ sub ∈ s.subs, ¬ BeingDeleted s sub.id
  | .delete index, s => ∀ sub, s.subs[index]? = some sub → NoJob Job.isSaving s ∧
      ∀ i job, s.jobs i = some job → ∀ x ∈ job.refreshes, x.id ≠ sub.id
  | .step i ok _, s => ∀ job, s.jobs i = some job →
      match job with
      | .adding .download _ => ok = true → NoJob Job.isNaming s
      | .adding .written _ | .refreshing .written _ | .refreshingAll .written _ _ _ =>
        NoJob Job.isSaving s
      | .refreshingAll .download _ _ false => ok = true
      | _ => True

/-! ## the invariant -/

/-- what tells a subscription apart -/
def Subscription.key (x : Subscription) : Bytes × Nat × Bytes := (x.id, x.tag, x.configName)

def keys (l : List Subscription) : List (Bytes × Nat × Bytes) := l.map Subscription.key

/-- the list of the subscriptions that were added and not deleted -/
structure ListOk (s : SubsState) (K : List (Bytes × Nat × Bytes)) : Prop where
  named : ∀ k ∈ K, k.1 = k.2.2 ∧ k.2.2 ∈ s.files
  names : (K.map (·.2.2)).Nodup
  tags : (K.map (·.2.1)).Nodup
  tagged : ∀ g, g ∈ K.map (·.2.1) ↔ g ∈ s.added ∧ g ∉ s.deleted.map (·.tag)

/-- what holds of one coroutine -/
def JobOk (s : SubsState) (T : List Subscription) : Job → Prop
  | .adding phase sub => sub.tag < s.nextTag ∧ sub.tag ∉ s.added ∧
      match phase with
      | .download => True
      | .write => sub.id = sub.configName ∧ sub.configName ∉ (keys T).map (·.2.2) ∧
          sub.configName ∉ s.files
      | .written => sub.id = sub.configName ∧ sub.configName ∉ (keys T).map (·.2.2) ∧
          sub.configName ∈ s.files
  | .refreshing _ sub => sub.key ∈ keys T
  | .refreshingAll _ sub rest _ => ∀ x ∈ sub :: rest, x.key ∈ keys T
  | .saving written _ updated => updated = T ∧ (written = true → s.saved = updated)

def Job.newName : Job → Option Bytes
  | .adding .write sub | .adding .written sub => some sub.configName
  | _ => none

def Job.newTag : Job → Option Nat
  | .adding _ sub => some sub.tag
  | _ => none

/-- two coroutines: they do not add the same, and do not both save -/
structure Compatible (a b : Job) : Prop where
  names : ∀ n, a.newName = some n → b.newName ≠ some n
  tags : ∀ g, a.newTag = some g → b.newTag ≠ some g
  saving : a.isSaving = true → b.isSaving = false

structure SubsInv (s : SubsState) (T : List Subscription) : Prop where
  list : ListOk s (keys T)
  memory : NoJob Job.isSaving s → s.subs = T
  shown : ∀ m ∈ s.subs, m.key ∈ keys T ∨ BeingDeleted s m.id
  saved : NoJob Job.isSaving s → NoJob Job.isDirty s → s.saved = T
  jobs : ∀ i job, s.jobs i = some job → JobOk s T job
  apart : ∀ i j a b, i ≠ j → s.jobs i = some a → s.jobs j = some b → Compatible a b
  freshJob : ∀ i, s.nextJob ≤ i → s.jobs i = none
  addedOld : ∀ g ∈ s.added, g < s.nextTag
  deletedAdded : ∀ d ∈ s.deleted, d.tag ∈ s.added
  deletedFiles : ∀ d ∈ s.deleted, d.configName ∈ s.files → d.configName ∈ (keys T).map (·.2.2) ∨
    ∃ i sub, s.jobs i = some (.adding .written sub) ∧ sub.configName = d.configName

/-! ## changes of one coroutine -/

section
variable {s : SubsState} {T : List Subscription} {i : Nat} {old job : Job} {q : Option Job}

theorem Compatible.symm {a b : Job} (h : Compatible a b) : Compatible b a where
  names n hb ha := h.names n ha hb
  tags g hb ha := h.tags g ha hb
  saving hb := by
    by_contra ha
    have ha : a.isSaving = true := by simpa using ha
    rw [h.saving ha] at hb
    cases hb

theorem Compatible.of_old {b : Job} (h : Compatible old b)
    (hname : ∀ n, job.newName = some n → old.newName = some n)
    (htag : ∀ g, job.newTag = some g → old.newTag = some g) (hsave : job.isSaving = false) :
    Compatible job b where
  names n hn := h.names n (hname n hn)
  tags g hg := h.tags g (htag g hg)
  saving hs := by
    rw [hsave] at hs
    cases hs

theorem goto_jobs {j : Nat} (h : (s.goto i q).jobs j = some job) :
    j = i ∧ q = some job ∨ j ≠ i ∧ s.jobs j = some job := update_eq_some h

theorem goto_self : (s.goto i q).jobs i = q := Function.update_self ..

theorem goto_other {j : Nat} (h : j ≠ i) : (s.goto i q).jobs j = s.jobs j :=
  Function.update_of_ne h ..

theorem launch_jobs {j : Nat} {b : Job} (h : (s.launch job).jobs j = some b) :
    j = s.nextJob ∧ job = b ∨ j ≠ s.nextJob ∧ s.jobs j = some b := by
  rcases update_eq_some h with ⟨hj, hb⟩ | h
  · exact .inl ⟨hj, Option.some.inj hb⟩
  · exact .inr h

theorem SubsInv.jobOld (h : SubsInv s T) (hi : s.jobs i = some job) : i < s.nextJob := by
  by_contra hlt
  rw [h.freshJob i (by omega)] at hi
  cases hi

theorem NoJob.of_goto {p : Job → Bool} (hi : s.jobs i = some old) (hold : p old = false)
    (h : NoJob p (s.goto i q)) : NoJob p s := by
  intro j b hj
  by_cases hij : j = i
  · rw [hij, hi] at hj
    cases hj
    exact hold
  · exact h j b ((goto_other hij).trans hj)

theorem BeingDeleted.goto {id : Bytes} (hi : s.jobs i = some old) (hold : old.isSaving = false)
    (h : BeingDeleted s id) : BeingDeleted (s.goto i q) id := by
  obtain ⟨j, w, sub, u, hj, hid⟩ := h
  refine ⟨j, w, sub, u, ?_, hid⟩
  rw [goto_other]
  · exact hj
  · rintro rfl
    rw [hi] at hj
    cases hj
    cases hold

theorem SubsInv.goto_apart (h : SubsInv s T)
    (hq : ∀ job, q = some job → ∀ j b, j ≠ i → s.jobs j = some b → Compatible job b) :
    ∀ j k a b, j ≠ k → (s.goto i q).jobs j = some a → (s.goto i q).jobs k = some b →
      Compatible a b := by
  intro j k a b hjk hj hk
  rcases goto_jobs hj with ⟨rfl, ha⟩ | ⟨hne, ha⟩
  · rcases goto_jobs hk with ⟨rfl, -⟩ | ⟨hne, hb⟩
    · exact absurd rfl hjk
    · exact hq a ha k b hne hb
  · rcases goto_jobs hk with ⟨rfl, hb⟩ | ⟨-, hb⟩
    · exact (hq b hb j a hne ha).symm
    · exact h.apart j k a b hjk ha hb

theorem SubsInv.goto_fresh (h : SubsInv s T) (hi : s.jobs i = some old) :
    ∀ j, s.nextJob ≤ j → (s.goto i q).jobs j = none := by
  intro j hj
  have hne : j ≠ i := by
    rintro rfl
    exact absurd (h.jobOld hi) (Nat.not_lt.mpr hj)
  exact (goto_other hne).trans (h.freshJob j hj)

theorem goto_owner {n : Bytes} (hi : s.jobs i = some old)
    (hwritten : ∀ sub, old ≠ .adding .written sub)
    (h : ∃ j sub, s.jobs j = some (.adding .written sub) ∧ sub.configName = n) :
    ∃ j sub, (s.goto i q).jobs j = some (.adding .written sub) ∧ sub.configName = n := by
  obtain ⟨j, sub, hj, hsub⟩ := h
  refine ⟨j, sub, ?_, hsub⟩
  rw [goto_other]
  · exact hj
  · rintro rfl
    rw [hi] at hj
    exact hwritten sub (Option.some.inj hj)

theorem SubsInv.goto (h : SubsInv s T) (hi : s.jobs i = some old) (hold : old.isSaving = false)
    (hwritten : ∀ sub, old ≠ .adding .written sub)
    (hq : ∀ job, q = some job → JobOk s T job ∧ job.isSaving = false ∧
      ∀ j b, j ≠ i → s.jobs j = some b → Compatible job b)
    (hdirty : old.isDirty = true → ∃ job, q = some job ∧ job.isDirty = true) :
    SubsInv (s.goto i q) T where
  list := ⟨h.list.named, h.list.names, h.list.tags, h.list.tagged⟩
  memory hno := h.memory (hno.of_goto hi hold)
  shown m hm := (h.shown m hm).imp_right (·.goto hi hold)
  saved hno hclean := by
    refine h.saved (hno.of_goto hi hold) (hclean.of_goto hi ?_)
    by_contra hd
    obtain ⟨job, rfl, hjob⟩ := hdirty (by simpa using hd)
    rw [hclean i job goto_self] at hjob
    cases hjob
  jobs j job hj := by
    rcases goto_jobs hj with ⟨-, hj⟩ | ⟨-, hj⟩
    · exact (hq job hj).1
    · exact h.jobs j job hj
  apart := h.goto_apart fun job hj => (hq job hj).2.2
  freshJob := h.goto_fresh hi
  addedOld := h.addedOld
  deletedAdded := h.deletedAdded
  deletedFiles d hd hf := (h.deletedFiles d hd hf).imp_right (goto_owner hi hwritten)

theorem SubsInv.launch_other (h : SubsInv s T) {j : Nat} {b : Job} (hj : s.jobs j = some b) :
    (s.launch job).jobs j = some b := by
  have hlt := h.jobOld hj
  exact (Function.update_of_ne (Nat.ne_of_lt hlt) ..).trans hj

theorem SubsInv.launch_fresh (h : SubsInv s T) (job : Job) :
    ∀ j, s.nextJob + 1 ≤ j → (s.launch job).jobs j = none := by
  intro j hj
  have hne : j ≠ s.nextJob := by omega
  exact (Function.update_of_ne hne ..).trans (h.freshJob j (by omega))

theorem SubsInv.launch_apart (h : SubsInv s T) (happ : ∀ j b, s.jobs j = some b → Compatible job b) :
    ∀ j k a b, j ≠ k → (s.launch job).jobs j = some a → (s.launch job).jobs k = some b →
      Compatible a b := by
  intro j k a b hjk hj hk
  rcases launch_jobs hj with ⟨rfl, rfl⟩ | ⟨hne, ha⟩
  · rcases launch_jobs hk with ⟨rfl, -⟩ | ⟨-, hb⟩
    · exact absurd rfl hjk
    · exact happ k b hb
  · rcases launch_jobs hk with ⟨rfl, rfl⟩ | ⟨-, hb⟩
    · exact (happ j a ha).symm
    · exact h.apart j k a b hjk ha hb

theorem SubsInv.launch (h : SubsInv s T) (hjob : JobOk s T job)
    (happ : ∀ j b, s.jobs j = some b → Compatible job b) : SubsInv (s.launch job) T where
  list := ⟨h.list.named, h.list.names, h.list.tags, h.list.tagged⟩
  memory hno := h.memory fun j b hj => hno j b (h.launch_other hj)
  shown m hm := by
    refine (h.shown m hm).imp_right ?_
    rintro ⟨j, w, sub, u, hj, hid⟩
    exact ⟨j, w, sub, u, h.launch_other hj, hid⟩
  saved hno hclean := h.saved (fun j b hj => hno j b (h.launch_other hj)) fun j b hj =>
    hclean j b (h.launch_other hj)
  jobs j b hj := by
    rcases launch_jobs hj with ⟨-, rfl⟩ | ⟨-, hj⟩
    · exact hjob
    · exact h.jobs j b hj
  apart := h.launch_apart happ
  freshJob := h.launch_fresh job
  addedOld := h.addedOld
  deletedAdded := h.deletedAdded
  deletedFiles d hd hf := by
    refine (h.deletedFiles d hd hf).imp_right ?_
    rintro ⟨j, sub, hj, hsub⟩
    exact ⟨j, sub, h.launch_other hj, hsub⟩

theorem Compatible.of_plain {a b : Job} (hname : a.newName = none) (htag : a.newTag = none)
    (hsave : a.isSaving = true → b.isSaving = false) : Compatible a b where
  names n hn := by
    rw [hname] at hn
    cases hn
  tags g hg := by
    rw [htag] at hg
    cases hg
  saving := hsave

theorem Compatible.of_idle {a : Job} (hname : a.newName = none) (htag : a.newTag = none)
    (hsave : a.isSaving = false) (b : Job) : Compatible a b :=
  .of_plain hname htag fun hs => by
    rw [hsave] at hs
    cases hs

/-! ## calls -/

section
variable {tx : Texts}

theorem SubsInv.nextTag (h : SubsInv s T) : SubsInv { s with nextTag := s.nextTag + 1 } T where
  list := ⟨h.list.named, h.list.names, h.list.tags, h.list.tagged⟩
  memory := h.memory
  shown := h.shown
  saved := h.saved
  jobs i job hi := by
    have hok := h.jobs i job hi
    cases job with
    | adding phase sub => exact ⟨Nat.lt_succ_of_lt hok.1, hok.2⟩
    | refreshing phase sub => exact hok
    | refreshingAll phase sub rest first => exact hok
    | saving w c u => exact hok
  apart := h.apart
  freshJob := h.freshJob
  addedOld g hg := Nat.lt_succ_of_lt (h.addedOld g hg)
  deletedAdded := h.deletedAdded
  deletedFiles := h.deletedFiles

theorem SubsInv.tagOld (h : SubsInv s T) (hi : s.jobs i = some job) {g : Nat}
    (hg : job.newTag = some g) : g < s.nextTag := by
  have hok := h.jobs i job hi
  cases job with
  | adding phase sub =>
    cases hg
    exact hok.1
  | refreshing phase sub | refreshingAll phase sub rest first | saving w c u => cases hg

theorem addSubscription_inv (h : SubsInv s T) (name url : Bytes) :
    SubsInv (addSubscription tx name url s) T := by
  unfold addSubscription
  dsimp only
  split_ifs with hempty hurl
  · exact h
  · exact h
  · refine h.nextTag.launch ⟨Nat.lt_succ_self _, ?_, trivial⟩ fun j b hj => ?_
    · intro hmem
      exact Nat.lt_irrefl _ (h.addedOld _ hmem)
    · refine ⟨fun n hn => (nomatch hn), fun g hg hb => ?_, fun hs => (nomatch hs)⟩
      cases hg
      exact Nat.lt_irrefl _ (h.tagOld hj hb)

theorem refreshSubscription_inv (h : SubsInv s T) {sub : Subscription} (hsub : sub ∈ s.subs)
    (hnot : ¬ BeingDeleted s sub.id) : SubsInv (refreshSubscription sub s) T :=
  h.launch ((h.shown sub hsub).resolve_right hnot) fun j b _ => .of_idle rfl rfl rfl b

theorem refreshAllSubscriptions_inv (h : SubsInv s T) (hnot : ∀ sub ∈ s.subs, ¬ BeingDeleted s sub.id) :
    SubsInv (refreshAllSubscriptions s) T := by
  unfold refreshAllSubscriptions
  cases hs : s.subs with
  | nil => exact h
  | cons sub rest =>
    refine h.launch (fun x hx => ?_) fun j b _ => .of_idle rfl rfl rfl b
    have hx : x ∈ s.subs := hs ▸ hx
    exact (h.shown x hx).resolve_right (hnot x hx)

theorem ListOk.key_eq {K : List (Bytes × Nat × Bytes)} (h : ListOk s K) {k l : Bytes × Nat × Bytes}
    (hk : k ∈ K) (hl : l ∈ K) (he : k.1 = l.1) : k = l := by
  refine List.inj_on_of_nodup_map h.names hk hl ?_
  rw [← (h.named k hk).1, ← (h.named l hl).1, he]

/-- what a deletion leaves of the list -/
def without (sub : Subscription) (T : List Subscription) : List Subscription :=
  T.filter (·.id ≠ sub.id)

theorem mem_keys_without {sub : Subscription} {k : Bytes × Nat × Bytes} :
    k ∈ keys (without sub T) ↔ k ∈ keys T ∧ k.1 ≠ sub.id := by
  unfold keys without
  simp only [List.mem_map, List.mem_filter]
  constructor
  · rintro ⟨x, ⟨hx, hne⟩, rfl⟩
    exact ⟨⟨x, hx, rfl⟩, by simpa [Subscription.key] using hne⟩
  · rintro ⟨⟨x, hx, rfl⟩, hne⟩
    exact ⟨x, ⟨hx, by simpa [Subscription.key] using hne⟩, rfl⟩

theorem names_without {sub : Subscription} {n : Bytes} (h : n ∉ (keys T).map (·.2.2)) :
    n ∉ (keys (without sub T)).map (·.2.2) := by
  intro hmem
  obtain ⟨k, hk, rfl⟩ := List.mem_map.mp hmem
  exact h (List.mem_map_of_mem (mem_keys_without.mp hk).1)

theorem ListOk.delete {sub : Subscription} (h : ListOk s (keys T)) (hkey : sub.key ∈ keys T) :
    ListOk (deleteSubscription sub s) (keys (without sub T)) := by
  refine ⟨fun k hk => ?_, ?_, ?_, fun g => ?_⟩
  · obtain ⟨hk, hne⟩ := mem_keys_without.mp hk
    obtain ⟨hid, hfile⟩ := h.named k hk
    refine ⟨hid, List.mem_filter.mpr ⟨hfile, ?_⟩⟩
    have hname : sub.id = sub.configName := (h.named _ hkey).1
    rw [← hid, ← hname]
    simpa using hne
  · exact h.names.sublist ((List.filter_sublist.map _).map _)
  · exact h.tags.sublist ((List.filter_sublist.map _).map _)
  · show _ ↔ g ∈ s.added ∧ g ∉ (s.deleted ++ [sub]).map (·.tag)
    rw [List.map_append, List.mem_append, not_or, ← and_assoc, ← h.tagged g]
    constructor
    · intro hg
      obtain ⟨k, hk, rfl⟩ := List.mem_map.mp hg
      obtain ⟨hk, hne⟩ := mem_keys_without.mp hk
      refine ⟨List.mem_map_of_mem hk, fun he => hne ?_⟩
      have htag : k.2.1 = sub.key.2.1 := List.mem_singleton.mp he
      rw [List.inj_on_of_nodup_map h.tags hk hkey htag]
      rfl
    · rintro ⟨hg, hne⟩
      obtain ⟨k, hk, rfl⟩ := List.mem_map.mp hg
      refine List.mem_map_of_mem (mem_keys_without.mpr ⟨hk, fun he => hne ?_⟩)
      rw [h.key_eq hk hkey he]
      exact List.mem_singleton_self _

theorem JobOk.delete {sub : Subscription} {b : Job} (hkey : sub.key ∈ keys T)
    (hsave : b.isSaving = false) (hrefresh : ∀ x ∈ b.refreshes, x.id ≠ sub.id) (hok : JobOk s T b) :
    JobOk (deleteSubscription sub s) (without sub T) b := by
  cases b with
  | adding phase x =>
    refine ⟨hok.1, hok.2.1, ?_⟩
    cases phase with
    | download => trivial
    | write =>
      obtain ⟨hid, hn, hf⟩ := hok.2.2
      exact ⟨hid, names_without hn, fun hmem => hf (List.mem_filter.mp hmem).1⟩
    | written =>
      obtain ⟨hid, hn, hf⟩ := hok.2.2
      refine ⟨hid, names_without hn, List.mem_filter.mpr ⟨hf, ?_⟩⟩
      have hne : x.configName ≠ sub.configName := fun he =>
        hn (he ▸ List.mem_map_of_mem (f := (·.2.2)) hkey)
      simpa using hne
  | refreshing phase x => exact mem_keys_without.mpr ⟨hok, hrefresh x (List.mem_singleton_self x)⟩
  | refreshingAll phase x rest first =>
    exact fun y hy => mem_keys_without.mpr ⟨hok y hy, hrefresh y hy⟩
  | saving w c u => cases hsave

theorem deleteSubscription_inv (h : SubsInv s T) {sub : Subscription} (hsub : sub ∈ s.subs)
    (hno : NoJob Job.isSaving s)
    (hrefresh : ∀ i job, s.jobs i = some job → ∀ x ∈ job.refreshes, x.id ≠ sub.id) :
    SubsInv (deleteSubscription sub s) (without sub T) := by
  have hmem := h.memory hno
  rw [hmem] at hsub
  have hkey : sub.key ∈ keys T := List.mem_map_of_mem hsub
  have hname : sub.id = sub.configName := (h.list.named _ hkey).1
  have hsaving : ∀ {p : Prop}, NoJob Job.isSaving (deleteSubscription sub s) → p := by
    intro p hn
    have hfalse := hn s.nextJob _ (Function.update_self ..)
    cases hfalse
  constructor
  case list => exact h.list.delete hkey
  case memory => exact hsaving
  case shown =>
    intro m hm
    have hm : m ∈ s.subs := hm
    rw [hmem] at hm
    by_cases hid : m.id = sub.id
    · exact .inr ⟨s.nextJob, false, sub, _, Function.update_self .., hid.symm⟩
    · exact .inl (mem_keys_without.mpr ⟨List.mem_map_of_mem hm, hid⟩)
  case saved => exact hsaving
  case jobs =>
    intro j b hj
    rcases launch_jobs hj with ⟨-, rfl⟩ | ⟨-, hj⟩
    · exact ⟨by rw [hmem]; rfl, fun hf => (nomatch hf)⟩
    · exact (h.jobs j b hj).delete hkey (hno j b hj) (hrefresh j b hj)
  case apart =>
    refine h.launch_apart (s := { s with files := _, deleted := _ }) fun j b hj => ?_
    exact ⟨fun n hn => (nomatch hn), fun g hg => (nomatch hg), fun _ => hno j b hj⟩
  case freshJob => exact h.launch_fresh _
  case addedOld => exact h.addedOld
  case deletedAdded =>
    intro d hd
    rcases List.mem_append.mp hd with hd | hd
    · exact h.deletedAdded d hd
    · rw [List.mem_singleton.mp hd]
      exact ((h.list.tagged sub.tag).mp (List.mem_map_of_mem (f := (·.2.1)) hkey)).1
  case deletedFiles =>
    intro d hd hf
    obtain ⟨hf, hne⟩ := List.mem_filter.mp hf
    have hne : d.configName ≠ sub.configName := by simpa using hne
    rcases List.mem_append.mp hd with hd | hd
    · rcases h.deletedFiles d hd hf with hT | ⟨j, x, hj, hx⟩
      · obtain ⟨k, hk, hkn⟩ := List.mem_map.mp hT
        refine .inl (List.mem_map.mpr ⟨k, mem_keys_without.mpr ⟨hk, fun he => hne ?_⟩, hkn⟩)
        rw [← hkn, ← hname, ← he, (h.list.named k hk).1]
      · exact .inr ⟨j, x, h.launch_other hj, hx⟩
    · exact absurd (congrArg (·.configName) (List.mem_singleton.mp hd)) hne

/-! ## a new list -/

theorem ListOk.perm {K L : List (Bytes × Nat × Bytes)} (h : ListOk s K) (hp : L.Perm K) :
    ListOk s L where
  named k hk := h.named k (hp.mem_iff.mp hk)
  names := (hp.map _).nodup_iff.mpr h.names
  tags := (hp.map _).nodup_iff.mpr h.tags
  tagged g := (hp.map _).mem_iff.trans (h.tagged g)

theorem JobOk.perm {T' : List Subscription} (hp : (keys T').Perm (keys T)) (hsave : job.isSaving = false)
    (hok : JobOk s T job) : JobOk s T' job := by
  have hname : ∀ n, n ∉ (keys T).map (·.2.2) → n ∉ (keys T').map (·.2.2) := fun n hn hmem =>
    hn ((hp.map _).mem_iff.mp hmem)
  cases job with
  | adding phase x =>
    refine ⟨hok.1, hok.2.1, ?_⟩
    cases phase with
    | download => trivial
    | write => exact ⟨hok.2.2.1, hname _ hok.2.2.2.1, hok.2.2.2.2⟩
    | written => exact ⟨hok.2.2.1, hname _ hok.2.2.2.1, hok.2.2.2.2⟩
  | refreshing phase x => exact hp.mem_iff.mpr hok
  | refreshingAll phase x rest first => exact fun y hy => hp.mem_iff.mpr (hok y hy)
  | saving w c u => cases hsave

theorem sorted_perm (l : List Subscription) : (keys (sorted tx l)).Perm (keys l) :=
  (List.mergeSort_perm l _).map _

theorem keys_touched (id : Bytes) (now : Int) (l : List Subscription) :
    keys (touched id now l) = keys l := by
  unfold keys touched
  rw [List.map_map]
  apply List.map_congr_left
  intro x _
  by_cases h : x.id = id <;> simp [h, Subscription.key]

theorem keys_replaced {sub : Subscription} (h : ListOk s (keys T)) (hsub : sub.key ∈ keys T) :
    keys (replaced sub T) = keys T := by
  unfold keys replaced
  rw [List.map_map]
  apply List.map_congr_left
  intro x hx
  by_cases hid : x.id = sub.id
  · have hkey : x.key = sub.key := h.key_eq (List.mem_map_of_mem hx) hsub hid
    simp [hid, hkey]
  · simp [hid]

theorem SubsInv.retarget {M T' : List Subscription} (h : SubsInv s T) (hi : s.jobs i = some old)
    (hno : NoJob Job.isSaving s) (hwritten : ∀ sub, old ≠ .adding .written sub)
    (hM : (keys M).Perm (keys T)) (hT : (keys T').Perm (keys T)) (hjob : JobOk s T' job)
    (hname : job.newName = none) (htag : job.newTag = none)
    (hmem : job.isSaving = false → M = T') (hlater : job.isSaving = true ∨ job.isDirty = true) :
    SubsInv ({ s with subs := M }.goto i (some job)) T' := by
  have hself : ({ s with subs := M }.goto i (some job)).jobs i = some job := goto_self
  constructor
  case list =>
    have hl := h.list.perm hT
    exact ⟨hl.named, hl.names, hl.tags, hl.tagged⟩
  case memory => exact fun hn => hmem (hn i job hself)
  case shown =>
    intro m hm
    exact .inl (hT.mem_iff.mpr (hM.mem_iff.mp (List.mem_map_of_mem hm)))
  case saved =>
    intro hn hc
    rcases hlater with hs | hd
    · rw [hn i job hself] at hs
      cases hs
    · rw [hc i job hself] at hd
      cases hd
  case jobs =>
    intro j b hj
    rcases goto_jobs hj with ⟨-, hb⟩ | ⟨-, hb⟩
    · cases hb
      exact hjob
    · exact (h.jobs j b hb).perm hT (hno j b hb)
  case apart =>
    exact h.goto_apart fun a ha j b _ hj => Option.some.inj ha ▸
      .of_plain hname htag fun _ => hno j b hj
  case freshJob => exact h.goto_fresh hi
  case addedOld => exact h.addedOld
  case deletedAdded => exact h.deletedAdded
  case deletedFiles =>
    intro d hd hf
    refine (h.deletedFiles d hd hf).imp ?_ (goto_owner hi hwritten)
    exact fun hk => (hT.map _).mem_iff.mpr hk

/-! ## steps of a coroutine -/

theorem writeFile_same {name : Bytes} (h : name ∈ s.files) : s.writeFile name = s := by
  unfold SubsState.writeFile
  rw [if_pos h]

theorem writeFile_new {name : Bytes} (h : name ∉ s.files) :
    s.writeFile name = { s with files := s.files ++ [name] } := by
  unfold SubsState.writeFile
  rw [if_neg h]

theorem SubsInv.name_fresh (h : SubsInv s T) (hno : NoJob Job.isNaming s) {n : Bytes}
    (hn : n ∉ s.files) {j : Nat} {b : Job} (hj : s.jobs j = some b) : b.newName ≠ some n := by
  have hok := h.jobs j b hj
  have hnot := hno j b hj
  cases b with
  | adding phase x =>
    cases phase with
    | download => exact fun he => (nomatch he)
    | write => cases hnot
    | written =>
      intro he
      cases he
      exact hn hok.2.2.2.2
  | refreshing phase x | refreshingAll phase x rest first | saving w c u =>
    exact fun he => (nomatch he)

theorem adding_named_inv {sub : Subscription} (h : SubsInv s T)
    (hi : s.jobs i = some (.adding .download sub)) (hno : NoJob Job.isNaming s) :
    SubsInv (s.goto i (some (.adding .write { sub with
      id := generateConfigName tx sub.name s.files
      configName := generateConfigName tx sub.name s.files }))) T := by
  have hok := h.jobs i _ hi
  have hfree := generateConfigName_notMem tx sub.name s.files
  refine h.goto hi rfl (fun x he => nomatch he) (fun job hj => ?_) fun hd => (nomatch hd)
  cases hj
  refine ⟨⟨hok.1, hok.2.1, rfl, fun hmem => ?_, hfree⟩, rfl, fun j b hne hj => ⟨?_, ?_, ?_⟩⟩
  · obtain ⟨k, hk, he⟩ := List.mem_map.mp hmem
    have hfile := (h.list.named k hk).2
    rw [he] at hfile
    exact hfree hfile
  · intro n hn hb
    cases hn
    exact h.name_fresh hno hfree hj hb
  · exact (h.apart i j _ b (Ne.symm hne) hi hj).tags
  · exact fun hs => (nomatch hs)

theorem adding_write_inv {sub : Subscription} (h : SubsInv s T)
    (hi : s.jobs i = some (.adding .write sub)) :
    SubsInv ((s.writeFile sub.configName).goto i (some (.adding .written sub))) T := by
  obtain ⟨htag, hadded, hid, hname, hfile⟩ := h.jobs i _ hi
  rw [writeFile_new hfile]
  have hold : ∀ n ∈ s.files, n ∈ s.files ++ [sub.configName] := fun n hn =>
    List.mem_append_left _ hn
  have hne : ∀ x, (Job.adding .write sub) ≠ .adding .written x := fun x he => nomatch he
  constructor
  case list =>
    exact ⟨fun k hk => ⟨(h.list.named k hk).1, hold _ (h.list.named k hk).2⟩, h.list.names,
      h.list.tags, h.list.tagged⟩
  case memory => exact fun hno => h.memory (NoJob.of_goto hi rfl hno)
  case shown => exact fun m hm => (h.shown m hm).imp_right fun hb => BeingDeleted.goto hi rfl hb
  case saved =>
    exact fun hno hclean => h.saved (NoJob.of_goto hi rfl hno) (NoJob.of_goto hi rfl hclean)
  case jobs =>
    intro j b hj
    rcases goto_jobs hj with ⟨-, hb⟩ | ⟨hji, hb⟩
    · cases hb
      exact ⟨htag, hadded, hid, hname, List.mem_append_right _ (List.mem_singleton_self _)⟩
    · have hok := h.jobs j b hb
      cases b with
      | adding phase x =>
        refine ⟨hok.1, hok.2.1, ?_⟩
        cases phase with
        | download => trivial
        | write =>
          refine ⟨hok.2.2.1, hok.2.2.2.1, fun hmem => ?_⟩
          rcases List.mem_append.mp hmem with hmem | hmem
          · exact hok.2.2.2.2 hmem
          · refine (h.apart i j _ _ (Ne.symm hji) hi hb).names sub.configName rfl ?_
            exact congrArg some (List.mem_singleton.mp hmem)
        | written => exact ⟨hok.2.2.1, hok.2.2.2.1, hold _ hok.2.2.2.2⟩
      | refreshing phase x => exact hok
      | refreshingAll phase x rest first => exact hok
      | saving w c u => exact hok
  case apart =>
    refine h.goto_apart fun a ha j b hji hj => ?_
    cases ha
    exact (h.apart i j _ b (Ne.symm hji) hi hj).of_old (fun n hn => hn) (fun g hg => hg) rfl
  case freshJob => exact h.goto_fresh hi
  case addedOld => exact h.addedOld
  case deletedAdded => exact h.deletedAdded
  case deletedFiles =>
    intro d hd hf
    rcases List.mem_append.mp hf with hf | hf
    · exact (h.deletedFiles d hd hf).imp_right (goto_owner hi hne)
    · exact .inr ⟨i, sub, goto_self, (List.mem_singleton.mp hf).symm⟩

theorem ListOk.add {sub : Subscription} (h : SubsInv s T) (hok : JobOk s T (.adding .written sub)) :
    ListOk { s with added := s.added ++ [sub.tag] } (keys T ++ [sub.key]) := by
  obtain ⟨htag, hadded, hid, hname, hfile⟩ := hok
  have htagT : sub.tag ∉ (keys T).map (·.2.1) := fun hmem => hadded ((h.list.tagged _).mp hmem).1
  constructor
  case named =>
    intro k hk
    rcases List.mem_append.mp hk with hk | hk
    · exact h.list.named k hk
    · rw [List.mem_singleton.mp hk]
      exact ⟨hid, hfile⟩
  case names =>
    rw [List.map_append]
    exact (List.perm_append_singleton _ _).nodup_iff.mpr (List.nodup_cons.mpr ⟨hname, h.list.names⟩)
  case tags =>
    rw [List.map_append]
    exact (List.perm_append_singleton _ _).nodup_iff.mpr (List.nodup_cons.mpr ⟨htagT, h.list.tags⟩)
  case tagged =>
    intro g
    rw [List.map_append, List.mem_append, List.mem_append, h.list.tagged g, or_and_right]
    refine or_congr_right ⟨fun hg => ⟨hg, ?_⟩, And.left⟩
    rw [List.mem_singleton.mp hg]
    intro hmem
    obtain ⟨d, hd, he⟩ := List.mem_map.mp hmem
    have hd := h.deletedAdded d hd
    rw [he] at hd
    exact hadded hd

theorem adding_written_inv {sub : Subscription} (h : SubsInv s T)
    (hi : s.jobs i = some (.adding .written sub)) (hno : NoJob Job.isSaving s) {now : Int} :
    SubsInv ({ s with added := s.added ++ [sub.tag] }.goto i
      (some (.saving false .add (sorted tx (s.subs ++ [{ sub with updatedAt := now }])))))
      (sorted tx (T ++ [{ sub with updatedAt := now }])) := by
  have hmem := h.memory hno
  have hok := h.jobs i _ hi
  have hperm : (keys (sorted tx (T ++ [{ sub with updatedAt := now }]))).Perm (keys T ++ [sub.key]) :=
    (sorted_perm _).trans (by unfold keys; rw [List.map_append]; rfl)
  have hleft : ∀ k ∈ keys T, k ∈ keys (sorted tx (T ++ [{ sub with updatedAt := now }])) :=
    fun k hk => hperm.mem_iff.mpr (List.mem_append_left _ hk)
  have hnames : ∀ n, n ∈ (keys (sorted tx (T ++ [{ sub with updatedAt := now }]))).map (·.2.2) ↔
      n ∈ (keys T).map (·.2.2) ∨ n = sub.configName := by
    intro n
    rw [(hperm.map _).mem_iff, List.map_append, List.mem_append]
    exact or_congr_right List.mem_singleton
  have hself : ∀ {p : Prop}, NoJob Job.isSaving ({ s with added := s.added ++ [sub.tag] }.goto i
      (some (.saving false .add (sorted tx (s.subs ++ [{ sub with updatedAt := now }]))))) → p := by
    intro p hn
    have hfalse := hn i _ goto_self
    cases hfalse
  constructor
  case list =>
    have hl := (ListOk.add h hok).perm hperm
    exact ⟨hl.named, hl.names, hl.tags, hl.tagged⟩
  case memory => exact hself
  case shown =>
    intro m hm
    have hm : m ∈ s.subs := hm
    rw [hmem] at hm
    exact .inl (hleft _ (List.mem_map_of_mem hm))
  case saved => exact hself
  case jobs =>
    intro j b hj
    rcases goto_jobs hj with ⟨-, hb⟩ | ⟨hji, hb⟩
    · cases hb
      exact ⟨by rw [hmem], fun hf => (nomatch hf)⟩
    · have hokb := h.jobs j b hb
      have hcomp := h.apart i j _ b (Ne.symm hji) hi hb
      cases b with
      | adding phase x =>
        refine ⟨hokb.1, fun hg => ?_, ?_⟩
        · rcases List.mem_append.mp hg with hg | hg
          · exact hokb.2.1 hg
          · exact hcomp.tags sub.tag rfl (congrArg some (List.mem_singleton.mp hg))
        · cases phase with
          | download => trivial
          | write | written =>
            refine ⟨hokb.2.2.1, fun hn => ?_, hokb.2.2.2.2⟩
            rcases (hnames _).mp hn with hn | hn
            · exact hokb.2.2.2.1 hn
            · exact hcomp.names sub.configName rfl (congrArg some hn)
      | refreshing phase x => exact hleft _ hokb
      | refreshingAll phase x rest first => exact fun y hy => hleft _ (hokb y hy)
      | saving w c u => cases hno j _ hb
  case apart =>
    refine h.goto_apart fun a ha j b _ hj => ?_
    cases ha
    exact .of_plain rfl rfl fun _ => hno j b hj
  case freshJob => exact h.goto_fresh hi
  case addedOld =>
    intro g hg
    rcases List.mem_append.mp hg with hg | hg
    · exact h.addedOld g hg
    · rw [List.mem_singleton.mp hg]
      exact hok.1
  case deletedAdded => exact fun d hd => List.mem_append_left _ (h.deletedAdded d hd)
  case deletedFiles =>
    intro d hd hf
    rcases h.deletedFiles d hd hf with hk | ⟨j, x, hj, hx⟩
    · exact .inl ((hnames _).mpr (.inl hk))
    · by_cases hji : j = i
      · rw [hji, hi] at hj
        cases hj
        exact .inl ((hnames _).mpr (.inr hx.symm))
      · exact .inr ⟨j, x, (goto_other hji).trans hj, hx⟩

theorem saving_saved_inv {c : Change} {u : List Subscription} (h : SubsInv s T)
    (hi : s.jobs i = some (.saving false c u)) :
    SubsInv ({ s with saved := u }.goto i (some (.saving true c u))) T := by
  have hok := h.jobs i _ hi
  have hself : ∀ {p : Prop}, NoJob Job.isSaving ({ s with saved := u }.goto i
      (some (.saving true c u))) → p := by
    intro p hn
    have hfalse := hn i _ goto_self
    cases hfalse
  constructor
  case list => exact ⟨h.list.named, h.list.names, h.list.tags, h.list.tagged⟩
  case memory => exact hself
  case shown =>
    intro m hm
    refine (h.shown m hm).imp_right ?_
    rintro ⟨j, w, sub, v, hj, hid⟩
    by_cases hji : j = i
    · rw [hji, hi] at hj
      cases hj
      exact ⟨i, true, sub, u, goto_self, hid⟩
    · exact ⟨j, w, sub, v, (goto_other hji).trans hj, hid⟩
  case saved => exact hself
  case jobs =>
    intro j b hj
    rcases goto_jobs hj with ⟨-, hb⟩ | ⟨hji, hb⟩
    · cases hb
      exact ⟨hok.1, fun _ => rfl⟩
    · have hokb := h.jobs j b hb
      cases b with
      | adding phase x => exact hokb
      | refreshing phase x => exact hokb
      | refreshingAll phase x rest first => exact hokb
      | saving w c v =>
        have hfalse := (h.apart i j _ _ (Ne.symm hji) hi hb).saving rfl
        cases hfalse
  case apart =>
    refine h.goto_apart fun a ha j b hji hj => ?_
    cases ha
    exact .of_plain rfl rfl fun _ => (h.apart i j _ b (Ne.symm hji) hi hj).saving rfl
  case freshJob => exact h.goto_fresh hi
  case addedOld => exact h.addedOld
  case deletedAdded => exact h.deletedAdded
  case deletedFiles =>
    exact fun d hd hf => (h.deletedFiles d hd hf).imp_right (goto_owner hi fun x he => nomatch he)

theorem saving_shown_inv {c : Change} {u : List Subscription} (h : SubsInv s T)
    (hi : s.jobs i = some (.saving true c u)) : SubsInv ({ s with subs := u }.goto i none) T := by
  obtain ⟨rfl, hsaved⟩ := h.jobs i _ hi
  constructor
  case list => exact ⟨h.list.named, h.list.names, h.list.tags, h.list.tagged⟩
  case memory => exact fun _ => rfl
  case shown => exact fun m hm => .inl (List.mem_map_of_mem hm)
  case saved => exact fun _ _ => hsaved rfl
  case jobs =>
    intro j b hj
    rcases goto_jobs hj with ⟨-, hb⟩ | ⟨-, hb⟩
    · cases hb
    · have hokb := h.jobs j b hb
      cases b with
      | adding phase x => exact hokb
      | refreshing phase x => exact hokb
      | refreshingAll phase x rest first => exact hokb
      | saving w c v => exact hokb
  case apart => exact h.goto_apart fun a ha => nomatch ha
  case freshJob => exact h.goto_fresh hi
  case addedOld => exact h.addedOld
  case deletedAdded => exact h.deletedAdded
  case deletedFiles =>
    exact fun d hd hf => (h.deletedFiles d hd hf).imp_right (goto_owner hi fun x he => nomatch he)

/-! ## whole runs -/

theorem SubsInv.goto_refresh (h : SubsInv s T) (hi : s.jobs i = some old) (hold : old.isSaving = false)
    (hadd : ∀ phase sub, old ≠ .adding phase sub) (hjob : JobOk s T job)
    (hname : job.newName = none) (htag : job.newTag = none) (hsave : job.isSaving = false)
    (hdirty : job.isDirty = old.isDirty) : SubsInv (s.goto i (some job)) T := by
  refine h.goto hi hold (hadd .written) (fun b hb => ?_) fun hd => ⟨job, rfl, hdirty.trans hd⟩
  cases hb
  exact ⟨hjob, hsave, fun j c _ _ => .of_idle hname htag hsave c⟩

theorem SubsInv.goto_none (h : SubsInv s T) (hi : s.jobs i = some old) (hold : old.isSaving = false)
    (hwritten : ∀ sub, old ≠ .adding .written sub) (hdirty : old.isDirty = false) :
    SubsInv (s.goto i none) T := by
  refine h.goto hi hold hwritten (fun b hb => nomatch hb) fun hd => ?_
  rw [hdirty] at hd
  cases hd

theorem SubsInv.hasFile (h : SubsInv s T) {sub : Subscription} (hsub : sub.key ∈ keys T) :
    sub.configName ∈ s.files := (h.list.named _ hsub).2

theorem jobStep_inv {ok : Bool} {now : Int} (h : SubsInv s T) (hu : Undisturbed (.step i ok now) s) :
    ∃ T', SubsInv (jobStep tx i ok now s) T' := by
  unfold jobStep
  cases hi : s.jobs i with
  | none => exact ⟨T, h⟩
  | some job =>
    have hok := h.jobs i job hi
    have hu := hu job hi
    cases job with
    | adding phase sub =>
      cases phase with
      | download =>
        cases ok with
        | false => exact ⟨T, h.goto_none hi rfl (fun x he => nomatch he) rfl⟩
        | true => exact ⟨T, adding_named_inv h hi (hu rfl)⟩
      | write => exact ⟨T, adding_write_inv h hi⟩
      | written => exact ⟨_, adding_written_inv h hi hu⟩
    | refreshing phase sub =>
      have hne : ∀ p x, Job.refreshing phase sub ≠ .adding p x := fun p x he => nomatch he
      cases phase with
      | download =>
        cases ok with
        | false => exact ⟨T, h.goto_none hi rfl (hne .written) rfl⟩
        | true => exact ⟨T, h.goto_refresh hi rfl hne hok rfl rfl rfl rfl⟩
      | write =>
        dsimp only
        rw [writeFile_same (h.hasFile hok)]
        exact ⟨T, h.goto_refresh hi rfl hne hok rfl rfl rfl rfl⟩
      | written =>
        have hkey : ({ sub with updatedAt := now } : Subscription).key ∈ keys T := hok
        have hperm : (keys (sorted tx (replaced { sub with updatedAt := now } s.subs))).Perm
            (keys T) := by
          rw [h.memory hu, ← keys_replaced h.list hkey]
          exact sorted_perm _
        exact ⟨_, h.retarget (M := s.subs) hi hu (hne .written) (by rw [h.memory hu]) hperm
          ⟨rfl, fun hf => nomatch hf⟩ rfl rfl (fun hf => nomatch hf) (.inl rfl)⟩
    | refreshingAll phase sub rest first =>
      have hne : ∀ p x, Job.refreshingAll phase sub rest first ≠ .adding p x :=
        fun p x he => nomatch he
      cases phase with
      | download =>
        cases ok with
        | false =>
          cases first with
          | false => cases hu
          | true => exact ⟨T, h.goto_none hi rfl (hne .written) rfl⟩
        | true => exact ⟨T, h.goto_refresh hi rfl hne hok rfl rfl rfl rfl⟩
      | write =>
        dsimp only
        rw [writeFile_same (h.hasFile (hok sub (List.mem_cons_self ..)))]
        exact ⟨T, h.goto_refresh hi rfl hne hok rfl rfl rfl rfl⟩
      | written =>
        have hM : (keys (touched sub.id now s.subs)).Perm (keys T) := by
          rw [keys_touched, h.memory hu]
        cases rest with
        | nil =>
          exact ⟨_, h.retarget hi hu (hne .written) hM ((sorted_perm _).trans hM)
            ⟨rfl, fun hf => nomatch hf⟩ rfl rfl (fun hf => nomatch hf) (.inl rfl)⟩
        | cons next rest =>
          refine ⟨_, h.retarget hi hu (hne .written) hM hM (fun x hx => ?_) rfl rfl (fun _ => rfl)
            (.inr rfl)⟩
          exact hM.mem_iff.mpr (hok x (List.mem_cons_of_mem _ hx))
    | saving w c u =>
      cases w with
      | false => exact ⟨T, saving_saved_inv h hi⟩
      | true => exact ⟨T, saving_shown_inv h hi⟩

theorem subsStep_inv (e : SubsEvent) (s : SubsState) (hu : Undisturbed e s)
    (h : ∃ T, SubsInv s T) : ∃ T, SubsInv (subsStep tx e s) T := by
  obtain ⟨T, h⟩ := h
  cases e with
  | add name url => exact ⟨T, addSubscription_inv h name url⟩
  | refresh index =>
    simp only [subsStep]
    cases hs : s.subs[index]? with
    | none => exact ⟨T, h⟩
    | some sub => exact ⟨T, refreshSubscription_inv h (List.mem_of_getElem? hs) (hu sub hs)⟩
  | refreshAll => exact ⟨T, refreshAllSubscriptions_inv h hu⟩
  | delete index =>
    simp only [subsStep]
    cases hs : s.subs[index]? with
    | none => exact ⟨T, h⟩
    | some sub =>
      obtain ⟨hno, hrefresh⟩ := hu sub hs
      exact ⟨_, deleteSubscription_inv h (List.mem_of_getElem? hs) hno hrefresh⟩
  | step i ok now => exact jobStep_inv h hu

/-- before the first call: what was saved is in memory -/
structure SubsStart (s : SubsState) : Prop where
  idle : ∀ i, s.jobs i = none
  same : s.saved = s.subs
  named : ∀ x ∈ s.subs, x.id = x.configName ∧ x.configName ∈ s.files
  names : (s.subs.map (·.configName)).Nodup
  tags : (s.subs.map (·.tag)).Nodup
  old : ∀ x ∈ s.subs, x.tag < s.nextTag
  added : s.added = s.subs.map (·.tag)
  deleted : s.deleted = []

/-- No update is lost or undone.  The name of a subscription that was deleted may be chosen again:
its file is then that of the new one. -/
structure Settled (s : SubsState) : Prop where
  same : s.subs = s.saved
  once : ∀ g ∈ s.added, g ∉ s.deleted.map (·.tag) → (s.subs.map (·.tag)).count g = 1
  names : (s.subs.map (·.configName)).Nodup
  gone : ∀ d ∈ s.deleted, d.tag ∉ s.subs.map (·.tag)
  files : ∀ d ∈ s.deleted, d.configName ∈ s.files → d.configName ∈ s.subs.map (·.configName)

theorem map_name_keys (l : List Subscription) : (keys l).map (·.2.2) = l.map (·.configName) := by
  unfold keys
  rw [List.map_map]
  rfl

theorem map_tag_keys (l : List Subscription) : (keys l).map (·.2.1) = l.map (·.tag) := by
  unfold keys
  rw [List.map_map]
  rfl

theorem SubsStart.inv (h : SubsStart s) : SubsInv s s.subs := by
  have hnone : ∀ {i job} {p : Prop}, s.jobs i = some job → p := by
    intro i job p hi
    rw [h.idle i] at hi
    cases hi
  refine ⟨⟨?_, ?_, ?_, ?_⟩, fun _ => rfl, fun m hm => .inl (List.mem_map_of_mem hm),
    fun _ _ => h.same, fun i job hi => hnone hi, fun i j a b _ hi => hnone hi,
    fun i _ => h.idle i, ?_, ?_, ?_⟩
  · intro k hk
    obtain ⟨x, hx, rfl⟩ := List.mem_map.mp hk
    exact h.named x hx
  · rw [map_name_keys]
    exact h.names
  · rw [map_tag_keys]
    exact h.tags
  · intro g
    rw [map_tag_keys, h.added, h.deleted]
    exact ⟨fun hg => ⟨hg, List.not_mem_nil⟩, And.left⟩
  · intro g hg
    rw [h.added] at hg
    obtain ⟨x, hx, rfl⟩ := List.mem_map.mp hg
    exact h.old x hx
  · intro d hd
    rw [h.deleted] at hd
    cases hd
  · intro d hd
    rw [h.deleted] at hd
    cases hd

theorem SubsInv.settled (h : SubsInv s T) (hidle : ∀ i, s.jobs i = none) : Settled s := by
  have hno : ∀ p, NoJob p s := by
    intro p i job hi
    rw [hidle i] at hi
    cases hi
  obtain rfl := h.memory (hno _)
  have htags := h.list.tags
  have hnames := h.list.names
  rw [map_tag_keys] at htags
  rw [map_name_keys] at hnames
  have htagged : ∀ g, g ∈ s.subs.map (·.tag) ↔ g ∈ s.added ∧ g ∉ s.deleted.map (·.tag) := by
    intro g
    rw [← map_tag_keys]
    exact h.list.tagged g
  constructor
  case same => exact (h.saved (hno _) (hno _)).symm
  case once =>
    intro g hg hd
    exact List.count_eq_one_of_mem htags ((htagged g).mpr ⟨hg, hd⟩)
  case names => exact hnames
  case gone => exact fun d hd hg => ((htagged d.tag).mp hg).2 (List.mem_map_of_mem hd)
  case files =>
    intro d hd hf
    rcases h.deletedFiles d hd hf with hk | ⟨i, sub, hi, -⟩
    · rw [map_name_keys] at hk
      exact hk
    · rw [hidle i] at hi
      cases hi

end

/-- **along undisturbed steps no update of the subscriptions is lost or undone** -/
theorem subscriptions_kept (tx : Texts) (s : SubsState) (es : List SubsEvent) (hstart : SubsStart s)
    (hes : Along (subsStep tx) Undisturbed es s)
    (hdone : ∀ i, (runAll (subsStep tx) es s).jobs i = none) :
    Settled (runAll (subsStep tx) es s) := by
  obtain ⟨T, h⟩ := hes.invariant (fun e s hu h => subsStep_inv e s hu h) ⟨s.subs, hstart.inv⟩
  exact h.settled hdone

end

/-! ## two runs -/

def plainTexts : Texts := ⟨id, id, fun a b => a == b, fun _ _ => true⟩

def twoSubscriptions : SubsState where
  subs := [⟨0, lit "a", lit "a", lit "u", lit "a", 0⟩, ⟨1, lit "b", lit "b", lit "v", lit "b", 0⟩]
  saved := [⟨0, lit "a", lit "a", lit "u", lit "a", 0⟩, ⟨1, lit "b", lit "b", lit "v", lit "b", 0⟩]
  files := [lit "a", lit "b"]
  nextTag := 2
  added := [0, 1]

theorem twoSubscriptions_start : SubsStart twoSubscriptions where
  idle i := rfl
  same := rfl
  named := by decide
  names := by decide
  tags := by decide
  old := by decide
  added := rfl
  deleted := rfl

/-- the first is deleted, then the other is refreshed -/
def oneAfterTheOther : List SubsEvent :=
  [.delete 0, .step 0 true 0, .step 0 true 0, .refresh 0, .step 1 true 0, .step 1 true 0,
    .step 1 true 7, .step 1 true 0, .step 1 true 0]

theorem oneAfterTheOther_undisturbed :
    Along (subsStep plainTexts) Undisturbed oneAfterTheOther twoSubscriptions := by
  refine ⟨?_, ?_, ?_, ?_, ?_, ?_, ?_, ?_, ?_, trivial⟩
  · exact fun sub _ => ⟨fun j b hj => (nomatch hj), fun j b hj => (nomatch hj)⟩
  · rintro job hj
    cases hj
    trivial
  · rintro job hj
    cases hj
    trivial
  · rintro sub - ⟨j, w, x, u, hj, -⟩
    rcases j with _ | j
    · cases hj
    · cases hj
  · rintro job hj
    cases hj
    trivial
  · rintro job hj
    cases hj
    trivial
  · rintro job hj
    cases hj
    intro j b hj
    rcases j with _ | _ | j
    · cases hj
    · cases hj
      rfl
    · cases hj
  · rintro job hj
    cases hj
    trivial
  · rintro job hj
    cases hj
    trivial

theorem oneAfterTheOther_done (i : Nat) :
    (runAll (subsStep plainTexts) oneAfterTheOther twoSubscriptions).jobs i = none := by
  rcases i with _ | _ | i <;> rfl

theorem subscriptions_kept_one :
    Settled (runAll (subsStep plainTexts) oneAfterTheOther twoSubscriptions) :=
  subscriptions_kept plainTexts twoSubscriptions oneAfterTheOther twoSubscriptions_start
    oneAfterTheOther_undisturbed oneAfterTheOther_done

/-- both are deleted at once: each list has the other one, and the first deletion is undone -/
def bothDeleted : SubsState :=
  runAll (subsStep plainTexts) [.delete 0, .delete 1, .step 0 true 0, .step 1 true 0, .step 0 true 0,
    .step 1 true 0] twoSubscriptions

theorem subscriptions_lost : bothDeleted.jobs 0 = none ∧ bothDeleted.jobs 1 = none ∧
    bothDeleted.nextJob = 2 ∧ bothDeleted.deleted.map (·.tag) = [0, 1] ∧
    bothDeleted.subs.map (·.tag) = [0] ∧ bothDeleted.saved.map (·.tag) = [0] ∧
    ¬ Settled bothDeleted := by
  refine ⟨rfl, rfl, rfl, rfl, by decide, by decide, fun h => ?_⟩
  exact h.gone ⟨0, lit "a", lit "a", lit "u", lit "a", 0⟩ (by decide) (by decide)

end Bill
