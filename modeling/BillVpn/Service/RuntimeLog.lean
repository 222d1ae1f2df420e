import Mathlib.Data.List.DropRight
import BillVpn.Go.Run

/-!
# From the log of the core to the log on the screen

Goroutines push messages into a ring of 500 (`logEntries`).  The log pump of the service, and every
shutdown, takes all of them at once, cuts the text into lines, and hands the lines to
`VpnRuntimeState`, which keeps the last 1000 with counters and shows a snapshot.  Nothing but the
two locks orders these steps.

* `pushLog`, `getLogs`           the ring;
* `publishLines`                 `publishPendingLogs`: the lines of what was taken;
* `parseLogEntry`, `appendLogs`  the log on the screen;
* `logStep`                      the writers, the publishers and the user, in any order;
* `Tidy`                         counters, numbers and snapshot of the log on the screen;
* `log_pipeline`                 **the screen shows the last lines that were appended, each one a line
                                 that was pushed, once and in order if the publishers take turns**.
-/

set_option linter.unusedVariables false

namespace Bill
open Go

/-- a string of the app -/
abbrev Text := List Char

structure Chars where
  /-- `Char.isWhitespace` -/
  isWhitespace : Char → Bool
  /-- `\d` and `\s` of its regular expressions -/
  isDigit : Char → Bool
  isSpace : Char → Bool
  /-- `Char.equals(_, ignoreCase = true)` -/
  sameLetter : Char → Char → Bool

/-! ## the ring of the core -/

def maxLogs : Nat := 500

/-- `pushLog` -/
def pushLog (msg : Text) (logEntries : List Text) : List Text :=
  if maxLogs < (logEntries ++ [msg]).length then (logEntries ++ [msg]).drop 1 else logEntries ++ [msg]

/-- `GetLogs`, which also empties the ring -/
def getLogs (logEntries : List Text) : Text := logEntries.flatten

/-! ## lines -/

/-- `lineSequence`, with the current line in `line` -/
def splitLines (line : Text) : Text → List Text
  | [] => [line]
  | '\r' :: '\n' :: s => line :: splitLines [] s
  | '\r' :: s => line :: splitLines [] s
  | '\n' :: s => line :: splitLines [] s
  | c :: s => splitLines (line ++ [c]) s

def lineSequence (s : Text) : List Text := splitLines [] s

section
variable (K : Chars)

def trimEnd (s : Text) : Text := s.rdropWhile K.isWhitespace

def trimStart (s : Text) : Text := s.dropWhile K.isWhitespace

def trimText (s : Text) : Text := trimEnd K (trimStart K s)

def isBlank (s : Text) : Bool := s.all K.isWhitespace

/-- the lines of `publishPendingLogs` -/
def publishLines (newLogs : Text) : List Text :=
  ((lineSequence newLogs).map (trimEnd K)).filter fun s => !isBlank K s

/-! ## the log on the screen -/

inductive RuntimeLogLevel where
  | info | error | debug | other
deriving DecidableEq, Repr

structure RuntimeLogEntry where
  id : Nat
  raw : Text
  timestamp : Option Text
  tag : Option Text
  level : RuntimeLogLevel
  message : Text
deriving DecidableEq, Repr

structure RuntimeLogSnapshot where
  entries : List RuntimeLogEntry := []
  totalCount : Nat := 0
  infoCount : Int := 0
  errorCount : Int := 0
  debugCount : Int := 0
deriving DecidableEq, Repr

def maxLogEntries : Nat := 1000

/-- the log of `VpnRuntimeState` -/
structure RuntimeLog where
  isLogCaptureEnabled : Bool := false
  logBuffer : List RuntimeLogEntry := []
  nextLogId : Nat := 0
  infoCount : Int := 0
  errorCount : Int := 0
  debugCount : Int := 0
  logSnapshot : RuntimeLogSnapshot := {}

/-- a text against a pattern in which `d` stands for a digit -/
def matchesStamp : Text → Text → Bool
  | [], _ => true
  | _ :: _, [] => false
  | p :: ps, c :: s => (if p = 'd' then K.isDigit c else c == p) && matchesStamp ps s

def stampPattern : Text := "dddd/dd/dd dd:dd:dd".toList

/-- what `TIMESTAMP_REGEX` finds -/
def timestampMatch (s : Text) : Option Text :=
  let rest := s.drop stampPattern.length
  if matchesStamp K stampPattern s && !(rest.takeWhile K.isSpace).isEmpty then
    some (s.take stampPattern.length ++ rest.takeWhile K.isSpace)
  else none

/-- what `TAG_REGEX` finds -/
def tagMatch : Text → Option Text
  | '[' :: s =>
    let name := s.takeWhile (· != ']')
    if name ≠ [] ∧ name.length < s.length then some ('[' :: name ++ [']']) else none
  | _ => none

def startsIgnoringCase : Text → Text → Bool
  | [], _ => true
  | _ :: _, [] => false
  | p :: ps, c :: s => K.sameLetter c p && startsIgnoringCase ps s

/-- `contains(pattern, ignoreCase = true)` -/
def containsIgnoringCase (pattern : Text) : Text → Bool
  | [] => pattern.isEmpty
  | c :: s => startsIgnoringCase K pattern (c :: s) || containsIgnoringCase pattern s

/-- `contains(pattern)` -/
def containsPlain (pattern : Text) : Text → Bool
  | [] => pattern.isEmpty
  | c :: s => pattern.isPrefixOf (c :: s) || containsPlain pattern s

def detectLogLevel (message : Text) : RuntimeLogLevel :=
  if containsIgnoringCase K "ERROR".toList message || containsIgnoringCase K "failed".toList message then
    .error
  else if containsIgnoringCase K "DEBUG".toList message ||
      containsIgnoringCase K "closed".toList message then .debug
  else if containsIgnoringCase K "INFO".toList message ||
      containsIgnoringCase K "started".toList message || containsPlain "CONNECT".toList message then .info
  else .other

def parseLogEntry (id : Nat) (raw : Text) : RuntimeLogEntry :=
  let trimmedRaw := trimText K raw
  let stamp := timestampMatch K trimmedRaw
  let withoutTimestamp :=
    match stamp with
    | some m => trimText K (trimmedRaw.drop m.length)
    | none => trimmedRaw
  let tag := tagMatch withoutTimestamp
  let message :=
    match tag with
    | some m => trimText K (withoutTimestamp.drop m.length)
    | none => withoutTimestamp
  { id := id, raw := raw, timestamp := stamp.map (trimText K), tag := tag,
    level := detectLogLevel K message, message := message }

namespace RuntimeLog

/-- `incrementCount` with `n = 1` and `decrementCount` with `n = -1` -/
def addCount (level : RuntimeLogLevel) (n : Int) (r : RuntimeLog) : RuntimeLog :=
  match level with
  | .info => { r with infoCount := r.infoCount + n }
  | .error => { r with errorCount := r.errorCount + n }
  | .debug => { r with debugCount := r.debugCount + n }
  | .other => r

def removeFirst (r : RuntimeLog) : RuntimeLog :=
  match r.logBuffer with
  | [] => r
  | removed :: rest => { r with logBuffer := rest }.addCount removed.level (-1)

/-- `while (logBuffer.size > MAX_LOG_ENTRIES)`: that often -/
def evict : Nat → RuntimeLog → RuntimeLog
  | 0, r => r
  | n + 1, r => evict n r.removeFirst

def appendLine (r : RuntimeLog) (raw : Text) : RuntimeLog :=
  let entry := parseLogEntry K r.nextLogId raw
  let r := { r with logBuffer := r.logBuffer ++ [entry], nextLogId := r.nextLogId + 1 }.addCount
    entry.level 1
  r.evict (r.logBuffer.length - maxLogEntries)

/-- the snapshot that `emitLogSnapshotLocked` makes -/
def shot (r : RuntimeLog) : RuntimeLogSnapshot where
  entries := r.logBuffer
  totalCount := r.logBuffer.length
  infoCount := r.infoCount
  errorCount := r.errorCount
  debugCount := r.debugCount

def emit (r : RuntimeLog) : RuntimeLog := { r with logSnapshot := r.shot }

/-- the synchronized part of `appendLogs` -/
def appendLogs (lines : List Text) (r : RuntimeLog) : RuntimeLog := (lines.foldl (appendLine K) r).emit

def clearLogs (r : RuntimeLog) : RuntimeLog :=
  { isLogCaptureEnabled := r.isLogCaptureEnabled }

end RuntimeLog

/-! ## everybody together -/

/-- a call of `publishPendingLogs` that has taken the messages -/
inductive Publish where
  /-- before `appendLogs` looks at the switch -/
  | taken (lines : List Text)
  /-- before the lock -/
  | passed (lines : List Text)

def Publish.lines : Publish → List Text
  | .taken l => l
  | .passed l => l

/-- what is in the hands of a publisher, if it has come so far -/
def linesOf : Option Publish → List Text
  | none => []
  | some p => p.lines

structure LogState where
  logEntries : List Text := []
  publishing : Nat → Option Publish := fun _ => none
  screen : RuntimeLog := {}

inductive LogEvent where
  /-- a goroutine logs -/
  | push (msg : Text)
  /-- `StartBill` empties the ring -/
  | startBill
  /-- the calls of `publishPendingLogs` are numbered -/
  | take (i : Nat)
  | check (i : Nat)
  | append (i : Nat)
  /-- the user, or the start of the service -/
  | clearLogs
  | setLogCaptureEnabled (enabled : Bool)
deriving DecidableEq, Repr

namespace LogState

/-- what a publisher has after `Mobile.getLogs()` -/
def got (newLogs : Text) : Option Publish :=
  if isBlank K newLogs then none else some (.taken (publishLines K newLogs))

def take (i : Nat) (s : LogState) : LogState :=
  match s.publishing i with
  | some _ => s
  | none =>
    { s with
      logEntries := []
      publishing := Function.update s.publishing i (got K (getLogs s.logEntries)) }

/-- `if (!_isLogCaptureEnabled.value || lines.isEmpty()) return` -/
def check (i : Nat) (s : LogState) : LogState :=
  match s.publishing i with
  | some (.taken lines) =>
    { s with
      publishing := Function.update s.publishing i
        (if !s.screen.isLogCaptureEnabled || lines.isEmpty then none else some (.passed lines)) }
  | _ => s

def append (i : Nat) (s : LogState) : LogState :=
  match s.publishing i with
  | some (.passed lines) =>
    { s with
      publishing := Function.update s.publishing i none
      screen := s.screen.appendLogs K lines }
  | _ => s

end LogState

def logStep (e : LogEvent) (s : LogState) : LogState :=
  match e with
  | .push msg => { s with logEntries := pushLog msg s.logEntries }
  | .startBill => { s with logEntries := [] }
  | .take i => s.take K i
  | .check i => s.check i
  | .append i => s.append K i
  | .clearLogs => { s with screen := s.screen.clearLogs }
  | .setLogCaptureEnabled enabled =>
    { s with screen := { s.screen with isLogCaptureEnabled := enabled } }

end

/-- what is pushed, taken and appended at an event -/
def LogEvent.pushed : LogEvent → LogState → List Text
  | .push msg, _ => [msg]
  | _, _ => []

def LogEvent.appended (e : LogEvent) (s : LogState) : List Text :=
  match e with
  | .append i =>
    match s.publishing i with
    | some (.passed lines) => lines
    | _ => []
  | _ => []

/-! ## the lines of several messages -/

section
variable {K : Chars} {line s : Text}

theorem splitLines_nl : splitLines line ('\n' :: s) = line :: splitLines [] s := by
  rw [splitLines]

theorem splitLines_cr_nl : splitLines line ('\r' :: '\n' :: s) = line :: splitLines [] s := by
  rw [splitLines]

theorem splitLines_cr (h : s.head? ≠ some '\n') :
    splitLines line ('\r' :: s) = line :: splitLines [] s := by
  rw [splitLines]
  rintro s' rfl
  exact h rfl

theorem splitLines_other {c : Char} (hr : c ≠ '\r') (hn : c ≠ '\n') :
    splitLines line (c :: s) = splitLines (line ++ [c]) s := by
  rw [splitLines]
  · rintro s' rfl
    exact absurd rfl hr
  · exact hr
  · exact hn

theorem splitLines_append : ∀ (b line : Text), ∃ X, ∀ u,
    splitLines line (b ++ '\n' :: u) = X ++ splitLines [] u := by
  intro b
  induction b using List.twoStepInduction with
  | nil => exact fun line => ⟨[line], fun u => splitLines_nl⟩
  | singleton c =>
    intro line
    by_cases hn : c = '\n'
    · subst hn
      exact ⟨[line, []], fun u => by rw [List.singleton_append, splitLines_nl, splitLines_nl]; rfl⟩
    · by_cases hr : c = '\r'
      · subst hr
        exact ⟨[line], fun u => splitLines_cr_nl⟩
      · refine ⟨[line ++ [c]], fun u => ?_⟩
        rw [List.singleton_append, splitLines_other hr hn, splitLines_nl]
        rfl
  | cons_cons c d b ih2 ih1 =>
    intro line
    by_cases hn : c = '\n'
    · obtain ⟨X, hX⟩ := ih1 d []
      refine ⟨line :: X, fun u => ?_⟩
      rw [hn, List.cons_append, splitLines_nl, hX]
      rfl
    · by_cases hr : c = '\r'
      · by_cases hd : d = '\n'
        · obtain ⟨X, hX⟩ := ih2 []
          refine ⟨line :: X, fun u => ?_⟩
          rw [hr, hd, List.cons_append, List.cons_append, splitLines_cr_nl, hX]
          rfl
        · obtain ⟨X, hX⟩ := ih1 d []
          refine ⟨line :: X, fun u => ?_⟩
          rw [hr, List.cons_append, splitLines_cr, hX]
          · rfl
          · intro hh
            exact hd (Option.some.inj hh)
      · obtain ⟨X, hX⟩ := ih1 d (line ++ [c])
        refine ⟨X, fun u => ?_⟩
        rw [List.cons_append, splitLines_other hr hn, hX]

/-- the message ends with a line break, as the loggers write it -/
def Terminated (msg : Text) : Prop := ∃ b, msg = b ++ ['\n']

theorem publishLines_append {msg : Text} (h : Terminated msg) (u : Text) :
    publishLines K (msg ++ u) = publishLines K msg ++ publishLines K u := by
  obtain ⟨b, rfl⟩ := h
  obtain ⟨X, hX⟩ := splitLines_append b []
  have hmsg : lineSequence (b ++ ['\n']) = X ++ [[]] := hX []
  have hall : lineSequence (b ++ ['\n'] ++ u) = X ++ lineSequence u := by
    rw [List.append_assoc]
    exact hX u
  unfold publishLines
  rw [hmsg, hall]
  simp [trimEnd, isBlank]

theorem publishLines_flatten {msgs : List Text} (h : ∀ m ∈ msgs, Terminated m) :
    publishLines K msgs.flatten = msgs.flatMap (publishLines K) := by
  induction msgs with
  | nil => simp [publishLines, lineSequence, splitLines, trimEnd, isBlank]
  | cons m msgs ih =>
    rw [List.flatten_cons, publishLines_append (h m List.mem_cons_self), List.flatMap_cons,
      ih fun x hx => h x (List.mem_cons_of_mem _ hx)]

theorem mem_splitLines (line s : Text) {l : Text} (hl : l ∈ splitLines line s) {c : Char} (hc : c ∈ l) :
    c ∈ line ∨ c ∈ s := by
  fun_induction splitLines line s with
  | case1 line =>
    rw [List.mem_singleton.mp hl] at hc
    exact .inl hc
  | case2 line s ih | case3 line s _ ih | case4 line s ih =>
    rcases List.mem_cons.mp hl with rfl | hl
    · exact .inl hc
    · rcases ih hl with h | h
      · cases h
      · exact .inr (by simp [h])
  | case5 line d s _ _ _ ih =>
    rcases ih hl with h | h
    · rcases List.mem_append.mp h with h | h
      · exact .inl h
      · rw [List.mem_singleton.mp h]
        exact .inr List.mem_cons_self
    · exact .inr (List.mem_cons_of_mem _ h)

theorem publishLines_blank {s : Text} (h : isBlank K s = true) : publishLines K s = [] := by
  unfold publishLines
  rw [List.filter_eq_nil_iff]
  intro l hl
  obtain ⟨l', hl', rfl⟩ := List.mem_map.mp hl
  have hblank : isBlank K (trimEnd K l') = true := by
    refine List.all_eq_true.mpr fun c hc => ?_
    have hc' : c ∈ l' := (List.rdropWhile_prefix (p := K.isWhitespace) (l := l')).subset hc
    rcases mem_splitLines [] s hl' hc' with h' | h'
    · cases h'
    · exact List.all_eq_true.mp h c h'
  rw [hblank]
  decide

end

/-! ## the log on the screen, in every state -/

def RuntimeLog.counter (r : RuntimeLog) : RuntimeLogLevel → Int
  | .info => r.infoCount
  | .error => r.errorCount
  | .debug => r.debugCount
  | .other => 0

def Counted (r : RuntimeLog) : Prop := ∀ level ≠ .other,
  r.counter level = (r.logBuffer.countP fun e => e.level = level : Nat)

/-- the log on the screen, when `shown` was appended since it was cleared -/
structure Tidy (r : RuntimeLog) (shown : List Text) : Prop where
  raws : r.logBuffer.map RuntimeLogEntry.raw = shown.rtake maxLogEntries
  next : r.nextLogId = shown.length
  ids : r.logBuffer.map RuntimeLogEntry.id
    = List.range' (r.nextLogId - r.logBuffer.length) r.logBuffer.length
  counted : Counted r

section
variable {K : Chars} {r : RuntimeLog} {shown : List Text}

theorem Tidy.length (h : Tidy r shown) : r.logBuffer.length = min shown.length maxLogEntries := by
  have hlen := congrArg List.length h.raws
  rw [List.length_map, List.rtake, List.length_drop] at hlen
  omega

theorem addCount_buffer (l : RuntimeLogLevel) (n : Int) :
    (r.addCount l n).logBuffer = r.logBuffer ∧ (r.addCount l n).nextLogId = r.nextLogId := by
  cases l <;> exact ⟨rfl, rfl⟩

theorem addCount_counter {level : RuntimeLogLevel} (hl : level ≠ .other) (l : RuntimeLogLevel) (n : Int) :
    (r.addCount l n).counter level = r.counter level + if l = level then n else 0 := by
  cases l <;> cases level <;> simp_all [RuntimeLog.addCount, RuntimeLog.counter]

theorem removeFirst_buffer (r : RuntimeLog) : r.removeFirst.logBuffer = r.logBuffer.drop 1 ∧
    r.removeFirst.nextLogId = r.nextLogId := by
  unfold RuntimeLog.removeFirst
  cases hb : r.logBuffer with
  | nil => exact ⟨by rw [hb]; rfl, rfl⟩
  | cons e rest => exact addCount_buffer ..

theorem Counted.removeFirst (h : Counted r) : Counted r.removeFirst := by
  intro level hl
  unfold RuntimeLog.removeFirst
  cases hb : r.logBuffer with
  | nil =>
    dsimp only
    exact h level hl
  | cons e rest =>
    dsimp only
    have hr := h level hl
    rw [hb, List.countP_cons] at hr
    rw [addCount_counter hl, (addCount_buffer ..).1]
    show r.counter level + _ = _
    rw [hr]
    by_cases he : e.level = level <;> simp [he]

theorem evict_buffer (n : Nat) (r : RuntimeLog) : (r.evict n).logBuffer = r.logBuffer.drop n ∧
    (r.evict n).nextLogId = r.nextLogId := by
  induction n generalizing r with
  | zero => exact ⟨rfl, rfl⟩
  | succ n ih =>
    show (r.removeFirst.evict n).logBuffer = _ ∧ (r.removeFirst.evict n).nextLogId = _
    rw [(ih _).1, (ih _).2, (removeFirst_buffer r).1, (removeFirst_buffer r).2, List.drop_drop,
      Nat.add_comm]
    exact ⟨rfl, rfl⟩

theorem Counted.evict (h : Counted r) (n : Nat) : Counted (r.evict n) := by
  induction n generalizing r with
  | zero => exact h
  | succ n ih => exact ih h.removeFirst

/-- the state between `addLast` and the loop that removes -/
def RuntimeLog.added (K : Chars) (raw : Text) (r : RuntimeLog) : RuntimeLog :=
  { r with
    logBuffer := r.logBuffer ++ [parseLogEntry K r.nextLogId raw]
    nextLogId := r.nextLogId + 1 }.addCount (parseLogEntry K r.nextLogId raw).level 1

theorem added_buffer (raw : Text) :
    (r.added K raw).logBuffer = r.logBuffer ++ [parseLogEntry K r.nextLogId raw] ∧
      (r.added K raw).nextLogId = r.nextLogId + 1 := addCount_buffer ..

theorem Counted.added (h : Counted r) (raw : Text) : Counted (r.added K raw) := by
  intro level hl
  rw [(added_buffer raw).1, List.countP_append, List.countP_singleton]
  unfold RuntimeLog.added
  rw [addCount_counter hl]
  show r.counter level + _ = _
  rw [h level hl]
  by_cases he : (parseLogEntry K r.nextLogId raw).level = level <;> simp [he]

theorem appendLine_eq (raw : Text) : r.appendLine K raw
    = (r.added K raw).evict ((r.added K raw).logBuffer.length - maxLogEntries) := rfl

theorem rtake_append_singleton {α : Type} (l : List α) (x : α) (n : Nat) :
    (l.rtake n ++ [x]).drop ((l.rtake n).length + 1 - n) = (l ++ [x]).rtake n := by
  unfold List.rtake
  rw [List.length_drop, List.length_append, List.length_singleton,
    ← List.drop_append_of_le_length (Nat.sub_le _ _), List.drop_drop]
  congr 1
  omega

theorem Tidy.appendLine (h : Tidy r shown) (raw : Text) :
    Tidy (r.appendLine K raw) (shown ++ [raw]) := by
  obtain ⟨hbuf, hnext⟩ := added_buffer (K := K) (r := r) raw
  have hlen := h.length
  have hle : r.logBuffer.length ≤ r.nextLogId := by
    rw [h.next]
    omega
  rw [appendLine_eq]
  refine ⟨?_, ?_, ?_, (h.counted.added raw).evict _⟩
  · have hone : [parseLogEntry K r.nextLogId raw].map RuntimeLogEntry.raw = [raw] := rfl
    have hraws : r.logBuffer.length = (shown.rtake maxLogEntries).length := by
      rw [← h.raws, List.length_map]
    rw [(evict_buffer ..).1, hbuf, List.map_drop, List.map_append, h.raws, hone, List.length_append,
      List.length_singleton, hraws]
    exact rtake_append_singleton shown raw maxLogEntries
  · rw [(evict_buffer ..).2, hnext, h.next, List.length_append]
    rfl
  · rw [(evict_buffer ..).1, (evict_buffer ..).2, hbuf, hnext, List.map_drop, List.map_append, h.ids,
      List.length_drop, List.length_append, List.length_singleton]
    have hone : [parseLogEntry K r.nextLogId raw].map RuntimeLogEntry.id
        = List.range' (r.nextLogId - r.logBuffer.length + r.logBuffer.length) 1 := by
      rw [Nat.sub_add_cancel hle]
      rfl
    rw [hone, List.range'_append_1, List.drop_range']
    generalize maxLogEntries = n
    have hfirst : r.nextLogId - r.logBuffer.length + (r.logBuffer.length + 1 - n)
        = r.nextLogId + 1 - (r.logBuffer.length + 1 - (r.logBuffer.length + 1 - n)) := by omega
    rw [Nat.mul_one, hfirst]

theorem Tidy.appendLines (h : Tidy r shown) (lines : List Text) :
    Tidy (lines.foldl (RuntimeLog.appendLine K) r) (shown ++ lines) := by
  induction lines generalizing r shown with
  | nil =>
    rw [List.append_nil]
    exact h
  | cons raw lines ih =>
    rw [List.append_cons, List.foldl_cons]
    have hline : Tidy (r.appendLine K raw) (shown ++ [raw]) := h.appendLine raw
    exact ih hline

theorem Tidy.initial (enabled : Bool) : Tidy { isLogCaptureEnabled := enabled } [] := by
  refine ⟨rfl, rfl, rfl, ?_⟩
  intro level hl
  cases level <;> rfl

theorem Tidy.congr {r' : RuntimeLog} (h : Tidy r shown) (hb : r'.logBuffer = r.logBuffer)
    (hn : r'.nextLogId = r.nextLogId) (hc : r'.counter = r.counter) : Tidy r' shown where
  raws := by rw [hb]; exact h.raws
  next := by rw [hn]; exact h.next
  ids := by rw [hb, hn]; exact h.ids
  counted := by
    unfold Counted
    rw [hb, hc]
    exact h.counted

end

/-! ## runs -/

/-- what was appended since the log was cleared -/
def LogEvent.shows (e : LogEvent) (s : LogState) (shown : List Text) : List Text :=
  match e with
  | .clearLogs => []
  | e => shown ++ e.appended s

/-- the screen and its snapshot, and the bound of the ring -/
structure LogOk (shown : List Text) (s : LogState) : Prop where
  tidy : Tidy s.screen shown
  snapshot : s.screen.logSnapshot = s.screen.shot
  ring : s.logEntries.length ≤ maxLogs

section
variable {K : Chars} {s : LogState} {shown : List Text}

theorem pushLog_length {msg : Text} {l : List Text} (h : l.length ≤ maxLogs) :
    (pushLog msg l).length ≤ maxLogs := by
  unfold pushLog
  rw [List.length_append, List.length_singleton]
  split
  · rw [List.length_drop, List.length_append, List.length_singleton]
    omega
  · rw [List.length_append, List.length_singleton]
    omega

theorem LogOk.of_tidy {t : LogState} (h : Tidy t.screen shown)
    (hshot : t.screen.logSnapshot = t.screen.shot) (hring : t.logEntries.length ≤ maxLogs) :
    LogOk (shown ++ []) t := by
  rw [List.append_nil]
  exact ⟨h, hshot, hring⟩

theorem logStep_ok (e : LogEvent) (shown : List Text) (s : LogState) (h : LogOk shown s) :
    LogOk (e.shows s shown) (logStep K e s) := by
  obtain ⟨htidy, hshot, hring⟩ := h
  cases e with
  | push msg => exact .of_tidy htidy hshot (pushLog_length hring)
  | startBill => exact .of_tidy htidy hshot (Nat.zero_le _)
  | take i =>
    show LogOk (shown ++ []) (s.take K i)
    unfold LogState.take
    cases s.publishing i with
    | some p => exact .of_tidy htidy hshot hring
    | none => exact .of_tidy htidy hshot (Nat.zero_le _)
  | check i =>
    show LogOk (shown ++ []) (s.check i)
    unfold LogState.check
    split <;> exact .of_tidy htidy hshot hring
  | append i =>
    show LogOk (shown ++ LogEvent.appended (.append i) s) (s.append K i)
    unfold LogState.append LogEvent.appended
    dsimp only
    split
    · exact ⟨htidy.appendLines _ |>.congr rfl rfl rfl, rfl, hring⟩
    · exact .of_tidy htidy hshot hring
  | clearLogs => exact ⟨Tidy.initial _, rfl, hring⟩
  | setLogCaptureEnabled enabled => exact .of_tidy (htidy.congr rfl rfl rfl) hshot hring

/-! ## from the ring to the screen -/

/-- the publishers take turns, and the messages end with a line break -/
def TakesTurns (e : LogEvent) (s : LogState) : Prop :=
  match e with
  | .take _ => ∀ j, s.publishing j = none
  | .push msg => Terminated msg
  | _ => True

/-- nothing is pushed out of the ring, cleared, or published with the switch off -/
def Gentle (e : LogEvent) (s : LogState) : Prop :=
  match e with
  | .push _ => s.logEntries.length < maxLogs
  | .startBill => False
  | .check _ => s.screen.isLogCaptureEnabled = true
  | _ => True

/-- the lines in the hands of the one publisher, if there is one -/
inductive InHand (s : LogState) : List Text → Prop where
  | nobody (h : ∀ j, s.publishing j = none) : InHand s []
  | one (i : Nat) (p : Publish) (h : s.publishing i = some p)
      (hrest : ∀ j, j ≠ i → s.publishing j = none) : InHand s p.lines

/-- the lines on their way: in hand, and in the ring -/
structure Unshown (K : Chars) (s : LogState) (q : List Text) : Prop where
  terminated : ∀ m ∈ s.logEntries, Terminated m
  lines : ∃ hand, InHand s hand ∧ q = hand ++ s.logEntries.flatMap (publishLines K)

def LogEvent.pushedLines (K : Chars) (e : LogEvent) (s : LogState) : List Text :=
  (e.pushed s).flatMap (publishLines K)

theorem InHand.congr {t : LogState} {hand : List Text} (h : InHand s hand)
    (he : t.publishing = s.publishing) : InHand t hand := by
  cases h with
  | nobody h => exact .nobody (he ▸ h)
  | one i p h hrest => exact .one i p (he ▸ h) (he ▸ hrest)

theorem InHand.of_some {hand : List Text} (h : InHand s hand) {i : Nat} {p : Publish}
    (hi : s.publishing i = some p) : hand = p.lines ∧ ∀ j, j ≠ i → s.publishing j = none := by
  cases h with
  | nobody h => cases (h i).symm.trans hi
  | one j p' hj hrest =>
    by_cases hij : i = j
    · subst hij
      cases hj.symm.trans hi
      exact ⟨rfl, hrest⟩
    · cases (hrest i hij).symm.trans hi

theorem unshown_update {t : LogState} {i : Nat} {o : Option Publish}
    (hrest : ∀ j, j ≠ i → s.publishing j = none)
    (ht : t.publishing = Function.update s.publishing i o) (hterm : ∀ m ∈ t.logEntries, Terminated m) :
    Unshown K t (linesOf o ++ t.logEntries.flatMap (publishLines K)) := by
  have hself : t.publishing i = o := by
    rw [ht]
    exact Function.update_self ..
  have hother : ∀ j, j ≠ i → t.publishing j = none := by
    intro j hj
    rw [ht, Function.update_of_ne hj]
    exact hrest j hj
  refine ⟨hterm, _, ?_, rfl⟩
  cases o with
  | none =>
    refine .nobody fun j => ?_
    by_cases hj : j = i
    · rw [hj]
      exact hself
    · exact hother j hj
  | some p => exact .one i p hself hother

theorem pushLog_sublist (msg : Text) (l : List Text) : List.Sublist (pushLog msg l) (l ++ [msg]) := by
  unfold pushLog
  split
  · exact List.drop_sublist ..
  · exact List.Sublist.refl _

theorem got_lines (newLogs : Text) : linesOf (LogState.got K newLogs) = publishLines K newLogs := by
  unfold LogState.got
  split
  · rename_i hb
    exact (publishLines_blank hb).symm
  · rfl

/-- What is appended and what waits after a step is what waited and what was pushed: in order, with
gaps at most, and without gaps if the step is gentle. -/
def Flows (K : Chars) (e : LogEvent) (s : LogState) (q : List Text) : Prop :=
  ∃ q', Unshown K (logStep K e s) q' ∧
    List.Sublist (e.appended s ++ q') (q ++ e.pushedLines K s) ∧
    (Gentle e s → e.appended s ++ q' = q ++ e.pushedLines K s)

theorem Flows.of_eq {e : LogEvent} {q : List Text} (q' : List Text) (h : Unshown K (logStep K e s) q')
    (heq : e.appended s ++ q' = q ++ e.pushedLines K s) : Flows K e s q :=
  ⟨q', h, heq ▸ List.Sublist.refl _, fun _ => heq⟩

theorem flows_push {msg : Text} {q : List Text} (ht : Terminated msg) (h : Unshown K s q) :
    Flows K (.push msg) s q := by
  obtain ⟨hterm, hand, hhand, rfl⟩ := h
  have hsub := pushLog_sublist msg s.logEntries
  have hlines : (s.logEntries ++ [msg]).flatMap (publishLines K)
      = s.logEntries.flatMap (publishLines K) ++ LogEvent.pushedLines K (.push msg) s := by
    rw [List.flatMap_append]
    rfl
  refine ⟨_, ⟨?_, hand, hhand.congr rfl, rfl⟩, ?_, fun hg => ?_⟩
  · intro m hm
    rcases List.mem_append.mp (hsub.subset hm) with hm | hm
    · exact hterm m hm
    · rw [List.mem_singleton.mp hm]
      exact ht
  · rw [List.append_assoc, ← hlines]
    exact (hsub.flatMap _).append_left _
  · have hring : pushLog msg s.logEntries = s.logEntries ++ [msg] := by
      unfold pushLog
      rw [if_neg]
      rw [List.length_append, List.length_singleton]
      exact Nat.not_lt.mpr hg
    rw [List.append_assoc, ← hlines, ← hring]
    rfl

theorem flows_startBill {q : List Text} (h : Unshown K s q) : Flows K .startBill s q := by
  obtain ⟨-, hand, hhand, rfl⟩ := h
  refine ⟨hand, ⟨fun m hm => (List.not_mem_nil hm).elim, hand, hhand.congr rfl,
    (List.append_nil hand).symm⟩, ?_, fun hg => hg.elim⟩
  rw [List.append_assoc]
  exact List.sublist_append_left ..

theorem flows_take {i : Nat} {q : List Text} (ht : ∀ j, s.publishing j = none) (h : Unshown K s q) :
    Flows K (.take i) s q := by
  obtain ⟨hterm, hand, hhand, rfl⟩ := h
  have hzero : hand = [] := by
    cases hhand with
    | nobody => rfl
    | one j p hj => cases (ht j).symm.trans hj
  have hlines : linesOf (LogState.got K (getLogs s.logEntries))
      = s.logEntries.flatMap (publishLines K) := by
    rw [got_lines]
    exact publishLines_flatten hterm
  refine Flows.of_eq (s.logEntries.flatMap (publishLines K)) ?_ ?_
  · show Unshown K (s.take K i) _
    unfold LogState.take
    rw [ht i, ← hlines, ← List.append_nil (linesOf _)]
    exact unshown_update (fun j _ => ht j) rfl fun m hm => (List.not_mem_nil hm).elim
  · rw [hzero]
    exact (List.append_nil _).symm

theorem Flows.same {e : LogEvent} {q : List Text} (h : Unshown K s q) (hs : logStep K e s = s)
    (ha : e.appended s = []) (hp : e.pushedLines K s = []) : Flows K e s q := by
  refine Flows.of_eq q (hs.symm ▸ h) ?_
  rw [ha, hp, List.append_nil]
  rfl

theorem check_elsewhere {i : Nat} (h : ∀ lines, s.publishing i ≠ some (.taken lines)) :
    s.check i = s := by
  unfold LogState.check
  split
  · rename_i lines hi
    exact absurd hi (h lines)
  · rfl

theorem flows_check {i : Nat} {q : List Text} (h : Unshown K s q) : Flows K (.check i) s q := by
  by_cases hi : ∃ lines, s.publishing i = some (.taken lines)
  · obtain ⟨lines, hi⟩ := hi
    obtain ⟨hterm, hand, hhand, rfl⟩ := h
    obtain ⟨rfl, hrest⟩ := hhand.of_some hi
    have hnone : LogEvent.pushedLines K (.check i) s = [] := rfl
    refine ⟨linesOf (if !s.screen.isLogCaptureEnabled || hand.isEmpty then none
      else some (.passed hand)) ++ s.logEntries.flatMap (publishLines K), ?_, ?_, fun hg => ?_⟩
    · show Unshown K (s.check i) _
      unfold LogState.check
      rw [hi]
      exact unshown_update hrest rfl hterm
    · rw [hnone, List.append_nil]
      show List.Sublist (linesOf _ ++ _) (hand ++ _)
      refine List.Sublist.append_right ?_ _
      split
      · exact List.nil_sublist _
      · exact List.Sublist.refl _
    · have hon : s.screen.isLogCaptureEnabled = true := hg
      rw [hnone, List.append_nil, hon]
      cases hand <;> rfl
  · exact Flows.same h (check_elsewhere (not_exists.mp hi)) rfl rfl

theorem append_elsewhere {i : Nat} (h : ∀ lines, s.publishing i ≠ some (.passed lines)) :
    s.append K i = s ∧ LogEvent.appended (.append i) s = [] := by
  unfold LogState.append LogEvent.appended
  dsimp only
  split
  · rename_i lines hi
    exact absurd hi (h lines)
  · exact ⟨rfl, rfl⟩

theorem flows_append {i : Nat} {q : List Text} (h : Unshown K s q) : Flows K (.append i) s q := by
  by_cases hi : ∃ lines, s.publishing i = some (.passed lines)
  · obtain ⟨lines, hi⟩ := hi
    obtain ⟨hterm, hand, hhand, rfl⟩ := h
    obtain ⟨rfl, hrest⟩ := hhand.of_some hi
    refine Flows.of_eq (linesOf none ++ s.logEntries.flatMap (publishLines K)) ?_ ?_
    · show Unshown K (s.append K i) _
      unfold LogState.append
      rw [hi]
      exact unshown_update hrest rfl hterm
    · unfold LogEvent.appended
      dsimp only
      rw [hi]
      exact (List.append_nil _).symm
  · have hsame := append_elsewhere (K := K) (not_exists.mp hi)
    exact Flows.same h hsame.1 hsame.2 rfl

theorem logStep_flows (e : LogEvent) (s : LogState) (q : List Text) (ht : TakesTurns e s)
    (h : Unshown K s q) : Flows K e s q := by
  cases e with
  | push msg => exact flows_push ht h
  | startBill => exact flows_startBill h
  | take i => exact flows_take ht h
  | check i => exact flows_check h
  | append i => exact flows_append h
  | clearLogs | setLogCaptureEnabled =>
    obtain ⟨hterm, hand, hhand, rfl⟩ := h
    exact Flows.of_eq _ ⟨hterm, hand, hhand.congr rfl, rfl⟩ (List.append_nil _).symm

theorem collect_pushedLines (es : List LogEvent) (s : LogState) :
    collect (logStep K) (LogEvent.pushedLines K) es s
      = (collect (logStep K) LogEvent.pushed es s).flatMap (publishLines K) := by
  induction es generalizing s with
  | nil => rfl
  | cons e es ih =>
    show e.pushedLines K s ++ collect _ _ es (logStep K e s)
      = (e.pushed s ++ collect _ _ es (logStep K e s)).flatMap (publishLines K)
    rw [List.flatMap_append, ih]
    rfl

theorem unshown_initial : Unshown K {} [] :=
  ⟨fun m hm => (List.not_mem_nil hm).elim, [], .nobody fun _ => rfl, rfl⟩

theorem publish_done {i : Nat} (hs : ∀ j, s.publishing j = none) :
    (((s.take K i).check i).append K i).logEntries = [] ∧
      ∀ j, (((s.take K i).check i).append K i).publishing j = none := by
  have hclear : ∀ f : Nat → Option Publish, (∀ j, j ≠ i → f j = none) →
      ∀ j, Function.update f i none j = none := by
    intro f hf j
    by_cases hj : j = i
    · rw [hj, Function.update_self]
    · rw [Function.update_of_ne hj, hf j hj]
  have hrest : ∀ o j, j ≠ i → Function.update s.publishing i o j = none := by
    intro o j hj
    rw [Function.update_of_ne hj, hs j]
  unfold LogState.take LogState.check
  rw [hs i]
  dsimp only
  rw [Function.update_self]
  unfold LogState.got
  split_ifs
  · unfold LogState.append
    dsimp only
    rw [Function.update_self]
    exact ⟨rfl, hclear _ fun j _ => hs j⟩
  · unfold LogState.append
    dsimp only
    rw [Function.update_self]
    split_ifs
    · exact ⟨rfl, hclear _ (hrest _)⟩
    · exact ⟨rfl, hclear _ fun j hj => (Function.update_of_ne hj ..).trans (hrest _ j hj)⟩

/-- a publisher that has finished leaves no line in hand or in the ring -/
theorem published_none {i : Nat} (hs : ∀ j, s.publishing j = none) {q : List Text}
    (h : Unshown K (runAll (logStep K) [.take i, .check i, .append i] s) q) : q = [] := by
  obtain ⟨hring, hnone⟩ := publish_done (K := K) (i := i) hs
  obtain ⟨-, hand, hhand, rfl⟩ := h
  cases hhand with
  | nobody _ =>
    show (((s.take K i).check i).append K i).logEntries.flatMap _ = []
    rw [hring]
    rfl
  | one j p hj _ => cases (hnone j).symm.trans hj

/-- publishers that take turns -/
theorem appended_sublist {es : List LogEvent} (h : Along (logStep K) TakesTurns es {}) :
    List.Sublist (collect (logStep K) LogEvent.appended es {})
      ((collect (logStep K) LogEvent.pushed es {}).flatMap (publishLines K)) := by
  obtain ⟨q, -, hq⟩ := Along.flow (R := List.Sublist) List.Sublist.refl List.Sublist.trans
    (fun c h => h.append_left c) (fun c h => h.append_right c)
    (fun e s q ht hq => (logStep_flows e s q ht hq).imp fun q' h => ⟨h.1, h.2.1⟩) h unshown_initial
  rw [← collect_pushedLines]
  exact (List.sublist_append_left ..).trans hq

/-- and nothing is lost -/
theorem appended_all {es : List LogEvent}
    (h : Along (logStep K) (fun e s => TakesTurns e s ∧ Gentle e s) es {}) :
    ∃ q, Unshown K (runAll (logStep K) es {}) q ∧ collect (logStep K) LogEvent.appended es {} ++ q
      = (collect (logStep K) LogEvent.pushed es {}).flatMap (publishLines K) := by
  obtain ⟨q, hw, hq⟩ := Along.flow (R := Eq) (fun _ => rfl) Eq.trans
    (fun c h => congrArg (c ++ ·) h) (fun c h => congrArg (· ++ c) h)
    (fun e s q ht hq => (logStep_flows e s q ht.1 hq).imp fun q' h => ⟨h.1, h.2.2 ht.2⟩) h
    unshown_initial
  rw [← collect_pushedLines]
  exact ⟨q, hw, hq⟩

end

/-- **The log on the screen**, in every order of the steps of the core, the publishers and the user:
it shows the last lines appended since it was cleared, numbered and counted, and its snapshot is up
to date; with publishers that take turns these are lines that were pushed, in order and not twice;
and if the ring does not run over, all of them. -/
theorem log_pipeline (K : Chars) (es : List LogEvent) :
    LogOk (history (logStep K) LogEvent.shows es {} []) (runAll (logStep K) es {}) ∧
    (Along (logStep K) TakesTurns es {} →
      List.Sublist (collect (logStep K) LogEvent.appended es {})
        ((collect (logStep K) LogEvent.pushed es {}).flatMap (publishLines K))) ∧
    (Along (logStep K) (fun e s => TakesTurns e s ∧ Gentle e s) es {} →
      ∃ q, Unshown K (runAll (logStep K) es {}) q ∧ collect (logStep K) LogEvent.appended es {} ++ q
        = (collect (logStep K) LogEvent.pushed es {}).flatMap (publishLines K)) :=
  ⟨history_invariant logStep_ok es ⟨Tidy.initial false, rfl, Nat.zero_le _⟩, appended_sublist,
    appended_all⟩

/-- the characters of ASCII -/
def plainChars : Chars where
  isWhitespace := Char.isWhitespace
  isDigit := Char.isDigit
  isSpace := Char.isWhitespace
  sameLetter c d := c.toLower == d.toLower

/-- a line that is pushed, taken and shown -/
def oneLine : List LogEvent :=
  [.setLogCaptureEnabled true, .push "INFO up\n".toList, .take 0, .check 0, .append 0]

theorem log_pipeline_line :
    LogOk ["INFO up".toList] (runAll (logStep plainChars) oneLine {}) ∧
      ∃ q, Unshown plainChars (runAll (logStep plainChars) oneLine {}) q ∧
        ["INFO up".toList] ++ q = ["INFO up".toList] := by
  obtain ⟨hok, -, hall⟩ := log_pipeline plainChars oneLine
  have hshown : history (logStep plainChars) LogEvent.shows oneLine {} [] = ["INFO up".toList] := by
    decide +kernel
  have happended : collect (logStep plainChars) LogEvent.appended oneLine {} = ["INFO up".toList] := by
    decide +kernel
  have hpushed : (collect (logStep plainChars) LogEvent.pushed oneLine {}).flatMap
      (publishLines plainChars) = ["INFO up".toList] := by decide +kernel
  rw [hshown] at hok
  rw [happended, hpushed] at hall
  exact ⟨hok, hall ⟨⟨trivial, trivial⟩, ⟨⟨"INFO up".toList, by decide⟩, show 0 < maxLogs by decide⟩,
    ⟨fun j => rfl, trivial⟩, ⟨trivial, rfl⟩, ⟨trivial, trivial⟩, trivial⟩⟩

end Bill
