import BillVpn.Go.NetipText
import BillVpn.Go.Run
import Mathlib.Logic.Function.Basic

/-!
# Subscriptions and their coroutines

`ConfigViewModel` keeps the list of subscriptions in memory and in the preferences, and a file for
each of them.  Adding, refreshing and deleting are coroutines of the main thread: they run up to a
suspension (`downloadConfig`, `saveConfig`, `saveSubscriptions`), the suspended call does its work
elsewhere, and they run on.

* `generateConfigName`     a name that no file has;
* `Job`                    where a coroutine stands;
* `SubsState`              the two lists, the files, the coroutines;
* `subsStep`               calls of the four functions, and steps of their coroutines.

`tag` tells subscriptions apart that get the same name one after the other; the code does not see
it.  What is shown while a call is going on, and the list of files on the screen, is left out.
-/

set_option linter.unusedVariables false

namespace Bill
open Go

/-- functions of the Kotlin library on texts -/
structure Texts where
  trim : Bytes → Bytes
  lowercase : Bytes → Bytes
  equalsIgnoreCase : Bytes → Bytes → Bool
  le : Bytes → Bytes → Bool

structure Subscription where
  tag : Nat
  id : Bytes
  name : Bytes
  url : Bytes
  configName : Bytes
  updatedAt : Int := 0
deriving DecidableEq, Repr

/-! ## names of files -/

def underscore : UInt8 := 95

/-- `[a-z0-9_-]` -/
def isNameByte (c : UInt8) : Bool := (97 ≤ c && c ≤ 122) || (48 ≤ c && c ≤ 57) || c == underscore || c == 45

/-- every run of other characters becomes one underscore -/
def replaceOthers (inRun : Bool) : Bytes → Bytes
  | [] => []
  | c :: s =>
    if isNameByte c then c :: replaceOthers false s
    else if inRun then replaceOthers true s
    else underscore :: replaceOthers true s

/-- `.trim('_')` -/
def trimUnderscores (s : Bytes) : Bytes :=
  ((s.dropWhile (· == underscore)).reverse.dropWhile (· == underscore)).reverse

def numbered (base : Bytes) (index : Nat) : Bytes := base ++ lit "_" ++ itoa index

/-- the loop over the numbers ends before it has tried more names than there are files -/
def unusedName (base : Bytes) (existing : List Bytes) : Bytes :=
  if base ∉ existing then base
  else (((List.range (existing.length + 1)).map fun i => numbered base (i + 2)).find?
    fun name => name ∉ existing).getD base

section
variable (tx : Texts)

def generateConfigName (displayName : Bytes) (existing : List Bytes) : Bytes :=
  let base := trimUnderscores (replaceOthers false (tx.lowercase (tx.trim displayName)))
  unusedName (if base = [] then lit "subscription" else base) existing

/-- newest first, then by name -/
def Subscription.before (a b : Subscription) : Bool :=
  b.updatedAt < a.updatedAt ||
    (a.updatedAt == b.updatedAt && tx.le (tx.lowercase a.name) (tx.lowercase b.name))

def sorted (l : List Subscription) : List Subscription := l.mergeSort (Subscription.before tx)

/-! ## coroutines -/

/-- before the end of the download, before the file is written, before the coroutine goes on -/
inductive Phase where
  | download | write | written
deriving DecidableEq, Repr

/-- what a list that is being saved is for -/
inductive Change where
  | add | refresh
  | delete (sub : Subscription)
deriving DecidableEq, Repr

inductive Job where
  | adding (phase : Phase) (sub : Subscription)
  | refreshing (phase : Phase) (sub : Subscription)
  /-- with the subscriptions still to come, and whether it is the first -/
  | refreshingAll (phase : Phase) (sub : Subscription) (rest : List Subscription) (first : Bool)
  /-- `saveSubscriptions` and the assignment that follows -/
  | saving (written : Bool) (change : Change) (updated : List Subscription)
deriving DecidableEq, Repr

structure SubsState where
  subs : List Subscription := []
  saved : List Subscription := []
  files : List Bytes := []
  jobs : Nat → Option Job := fun _ => none
  nextJob : Nat := 0
  nextTag : Nat := 0
  /-- the subscriptions that were put on the list -/
  added : List Nat := []
  deleted : List Subscription := []

def SubsState.launch (s : SubsState) (job : Job) : SubsState :=
  { s with jobs := Function.update s.jobs s.nextJob (some job), nextJob := s.nextJob + 1 }

def SubsState.goto (s : SubsState) (i : Nat) (job : Option Job) : SubsState :=
  { s with jobs := Function.update s.jobs i job }

def SubsState.writeFile (s : SubsState) (name : Bytes) : SubsState :=
  { s with files := if name ∈ s.files then s.files else s.files ++ [name] }

/-! ## calls -/

def addSubscription (name url : Bytes) (s : SubsState) : SubsState :=
  let name := tx.trim name
  let url := tx.trim url
  if name = [] ∨ url = [] then s
  else if s.subs.any fun it => tx.equalsIgnoreCase it.url url then s
  else { s with nextTag := s.nextTag + 1 }.launch (.adding .download ⟨s.nextTag, [], name, url, [], 0⟩)

def refreshSubscription (sub : Subscription) (s : SubsState) : SubsState :=
  s.launch (.refreshing .download sub)

def refreshAllSubscriptions (s : SubsState) : SubsState :=
  match s.subs with
  | [] => s
  | sub :: rest => s.launch (.refreshingAll .download sub rest true)

/-- up to the suspension in `saveSubscriptions` -/
def deleteSubscription (sub : Subscription) (s : SubsState) : SubsState :=
  { s with files := s.files.filter (· ≠ sub.configName), deleted := s.deleted ++ [sub] }.launch
    (.saving false (.delete sub) (s.subs.filter (·.id ≠ sub.id)))

/-! ## steps -/

/-- a subscription that was refreshed takes the place of the one with its id -/
def replaced (sub : Subscription) (l : List Subscription) : List Subscription :=
  l.map fun it => if it.id = sub.id then sub else it

def touched (id : Bytes) (now : Int) (l : List Subscription) : List Subscription :=
  l.map fun it => if it.id = id then { it with updatedAt := now } else it

/-- `ok` is whether the download succeeds -/
def jobStep (i : Nat) (ok : Bool) (now : Int) (s : SubsState) : SubsState :=
  match s.jobs i with
  | none => s
  | some (.adding .download sub) =>
    if ok then
      let configName := generateConfigName tx sub.name s.files
      s.goto i (some (.adding .write { sub with id := configName, configName := configName }))
    else s.goto i none
  | some (.adding .write sub) => (s.writeFile sub.configName).goto i (some (.adding .written sub))
  | some (.adding .written sub) =>
    { s with added := s.added ++ [sub.tag] }.goto i
      (some (.saving false .add (sorted tx (s.subs ++ [{ sub with updatedAt := now }]))))
  | some (.refreshing .download sub) =>
    if ok then s.goto i (some (.refreshing .write sub)) else s.goto i none
  | some (.refreshing .write sub) =>
    (s.writeFile sub.configName).goto i (some (.refreshing .written sub))
  | some (.refreshing .written sub) =>
    s.goto i (some (.saving false .refresh
      (sorted tx (replaced { sub with updatedAt := now } s.subs))))
  | some (.refreshingAll .download sub rest first) =>
    if ok then s.goto i (some (.refreshingAll .write sub rest first)) else s.goto i none
  | some (.refreshingAll .write sub rest first) =>
    (s.writeFile sub.configName).goto i (some (.refreshingAll .written sub rest first))
  | some (.refreshingAll .written sub rest first) =>
    let s := { s with subs := touched sub.id now s.subs }
    match rest with
    | [] => s.goto i (some (.saving false .refresh (sorted tx s.subs)))
    | next :: rest => s.goto i (some (.refreshingAll .download next rest false))
  | some (.saving false change updated) =>
    { s with saved := updated }.goto i (some (.saving true change updated))
  | some (.saving true change updated) => { s with subs := updated }.goto i none

/-- the subscription of a call is one of the list on the screen -/
inductive SubsEvent where
  | add (name url : Bytes)
  | refresh (index : Nat)
  | refreshAll
  | delete (index : Nat)
  | step (i : Nat) (ok : Bool) (now : Int)
deriving DecidableEq, Repr

def subsStep : SubsEvent → SubsState → SubsState
  | .add name url, s => addSubscription tx name url s
  | .refresh index, s =>
    match s.subs[index]? with
    | some sub => refreshSubscription sub s
    | none => s
  | .refreshAll, s => refreshAllSubscriptions s
  | .delete index, s =>
    match s.subs[index]? with
    | some sub => deleteSubscription sub s
    | none => s
  | .step i ok now, s => jobStep tx i ok now s

end

/-! ## the name is new -/

theorem numbered_injective (base : Bytes) : Function.Injective (numbered base) := by
  intro i j h
  have hi : itoa i = itoa j := List.append_cancel_left h
  have hv := congrArg (digitsVal 10) hi
  unfold itoa at hv
  rwa [digitsVal_formatUint (by norm_num) (by norm_num),
    digitsVal_formatUint (by norm_num) (by norm_num)] at hv

theorem unusedName_notMem (base : Bytes) (existing : List Bytes) :
    unusedName base existing ∉ existing := by
  unfold unusedName
  by_cases h : base ∉ existing
  · rw [if_pos h]
    exact h
  · rw [if_neg h]
    -- more numbers than files: one of the names is free
    obtain ⟨name, hname, hfree⟩ : ∃ name ∈ (List.range (existing.length + 1)).map
        (fun i => numbered base (i + 2)), name ∉ existing := by
      by_contra hall
      push Not at hall
      have hnd : ((List.range (existing.length + 1)).map fun i => numbered base (i + 2)).Nodup :=
        List.nodup_range.map fun i j hij => Nat.add_right_cancel (numbered_injective base hij)
      have hlen := (hnd.subperm hall).length_le
      rw [List.length_map, List.length_range] at hlen
      omega
    cases hf : ((List.range (existing.length + 1)).map fun i => numbered base (i + 2)).find?
        (fun name => decide (name ∉ existing)) with
    | none => exact absurd (List.find?_eq_none.mp hf name hname) (by simpa using hfree)
    | some found => simpa using List.find?_some hf

theorem generateConfigName_notMem (tx : Texts) (displayName : Bytes) (existing : List Bytes) :
    generateConfigName tx displayName existing ∉ existing :=
  unusedName_notMem _ existing

end Bill
