import Mathlib.Data.List.TakeWhile
import RecordFlow.Proofs.Ledger.Counting
import RecordFlow.Proofs.Progress.Texts

/-!
# Calls — what the calls of a tracker call for

A tracker is started, stopped, told results and totals, and asked for final blocks, in any order and
at any moments.  Which texts that calls for is told by the calls alone: by the first start, by the
first stop behind it, by the results recorded and by the last total set.  A call writes these texts
one by one, and panics over the first that cannot be made because the time that is left is no
duration.

* `Tracker.sampleOf` is what a tracker shows at a moment, told by the calls before,
* `Tracker.due` are the blocks that one call calls for, told by the calls before,
* `Tracker.told` are the texts that come of blocks, and `Block.shows` says what they show,
* `Tracker.fst_perform` and `Tracker.perform_panics_iff` say all that one call does.
-/

namespace RecordFlow

/-! ## Blocks -/

/-- What a call can call for: a snapshot of the progress, or a final block. -/
inductive Block where
  | progress (sample : Sample)
  | closing (sample : Sample)
deriving DecidableEq, Repr

namespace Block

def sample : Block → Sample
  | .progress sample | .closing sample => sample

/-- The sample of a snapshot. -/
def progress? : Block → Option Sample
  | .progress sample => some sample
  | .closing _ => none

/-- How a block shows stats. -/
def render (options : TrackerOptions) : Block → Stats → String
  | .progress _ => options.snapshot
  | .closing _ => Stats.closing

/-- The text of a block, if its stats can be derived. -/
def text? (options : TrackerOptions) (b : Block) : Option String :=
  (Stats.derive? b.sample).map (b.render options)

/-- The counters that the text of a block shows, behind their labels. -/
def labels (options : TrackerOptions) : Block → List (String × Nat)
  | .progress sample =>
    if options.verbose then Stats.verboseLabels sample else Stats.compactLabels sample
  | .closing sample => Stats.closingLabels sample

variable {options : TrackerOptions} {b : Block}

theorem text?_eq_none_iff : b.text? options = none ↔ Stats.derive? b.sample = none := by
  rw [text?, Option.map_eq_none_iff]

/-- A text shows the counters of the sample that its stats were derived from. -/
theorem shows {text : String} (h : b.text? options = some text) :
    ∀ l ∈ b.labels options, Shows l.1 l.2 text := by
  rcases Option.map_eq_some_iff.1 h with ⟨stats, hstats, rfl⟩
  have hsample : stats.toSample = b.sample := by
    rcases Option.map_eq_some_iff.1 hstats with ⟨eta, _, rfl⟩
    rfl
  cases b with
  | closing sample =>
    rw [labels, ← show stats.toSample = sample from hsample]
    exact stats.closing_shows
  | progress sample =>
    rw [labels, ← show stats.toSample = sample from hsample]
    cases hverbose : options.verbose with
    | true => simpa [render, TrackerOptions.snapshot, hverbose] using stats.verbose_shows
    | false =>
      simpa [render, TrackerOptions.snapshot, hverbose] using stats.compact_shows options.terminal

end Block

namespace Tracker

/-- A call of a tracker; `later` is what the clock says after the stop. -/
inductive Call where
  | start
  | stop
  | record (status : Status)
  | setTotal (total : Nat)
  | printFinal
  | stopAndPrintFinal (later : Duration)
deriving DecidableEq, Repr

namespace Call

def isStart : Call → Bool
  | .start => true
  | _ => false

/-- Whether a call stops the reports. -/
def stops : Call → Bool
  | .stop | .stopAndPrintFinal _ => true
  | _ => false

/-- When a call that is made at a moment asks for a final block, if it does. -/
def closes? (now : Duration) : Call → Option Duration
  | .printFinal => some now
  | .stopAndPrintFinal later => some later
  | _ => none

def status? : Call → Option Status
  | .record status => some status
  | _ => none

def total? : Call → Option Nat
  | .setTotal total => some total
  | _ => none

end Call

/-- Calls with the moments they are made at. -/
abbrev Calls := List (Duration × Call)

/-- Why a call does not return with what was asked for. -/
inductive Failure where
  | refused (error : FlowError)
  | panicked (text : String)

def perform (t : Tracker) (now : Duration) : Call → Tracker × Except Failure Unit
  | .start => (t.start now).map id (Except.mapError .refused)
  | .stop => (t.callStop now).map id (Except.mapError .panicked)
  | .record status => (t.record status, .ok ())
  | .setTotal total => (t.setTotal total, .ok ())
  | .printFinal => (t.callPrintFinal now).map id (Except.mapError .panicked)
  | .stopAndPrintFinal later =>
    (t.callStopAndPrintFinal now later).map id (Except.mapError .panicked)

/-- Makes calls, one after another, whatever becomes of each. -/
def performAll (t : Tracker) (calls : Calls) : Tracker :=
  calls.foldl (fun t c => (t.perform c.1 c.2).1) t

theorem performAll_append_singleton (t : Tracker) (calls : Calls) (now : Duration) (call : Call) :
    t.performAll (calls ++ [(now, call)]) = ((t.performAll calls).perform now call).1 := by
  rw [performAll, List.foldl_append]
  rfl

/-! ## What calls tell -/

/-- Whether a call of some is a start. -/
def isStarted (calls : Calls) : Bool := calls.any (·.2.isStart)

/-- The calls from the first start on. -/
def sinceStart (calls : Calls) : Calls := calls.dropWhile fun c => !c.2.isStart

/-- Whether a tracker has been started and not been stopped since. -/
def awaitsStop (calls : Calls) : Bool :=
  isStarted calls && (sinceStart calls).all fun c => !c.2.stops

/-- The statuses recorded, in turn. -/
def statuses (calls : Calls) : List Status := calls.filterMap (·.2.status?)

/-- When the clock was set: at the first start, and before that when the tracker was made. -/
def clockOf (created : Duration) (calls : Calls) : Duration :=
  ((calls.find? (·.2.isStart)).map (·.1)).getD created

/-- The total that was set last. -/
def totalOf (options : TrackerOptions) (calls : Calls) : Nat :=
  (calls.filterMap (·.2.total?)).getLast?.getD options.total

/-- What a tracker shows at a moment after some calls. -/
def sampleOf (options : TrackerOptions) (created : Duration) (calls : Calls) (now : Duration) :
    Sample :=
  ⟨Counts.zero.addAll (statuses calls), totalOf options calls,
    .between (clockOf created calls) now⟩

/-- The blocks that a call calls for after some others: a snapshot where it is the first to stop the
reports, and a final block where it asks for one. -/
def due (options : TrackerOptions) (created : Duration) (before : Calls) (now : Duration)
    (call : Call) : List Block :=
  (if call.stops && awaitsStop before then [.progress (sampleOf options created before now)]
    else []) ++
  (call.closes? now).toList.map fun time => .closing (sampleOf options created before time)

/-- The blocks that calls call for in turn, after some others. -/
def allDue (options : TrackerOptions) (created : Duration) (before : Calls) : Calls → List Block
  | [] => []
  | (now, call) :: rest =>
    due options created before now call ++ allDue options created (before ++ [(now, call)]) rest

theorem allDue_append (options : TrackerOptions) (created : Duration) (before calls rest : Calls) :
    allDue options created before (calls ++ rest) =
      allDue options created before calls ++ allDue options created (before ++ calls) rest := by
  induction calls generalizing before with
  | nil => simp [allDue]
  | cons c calls ih => simp [allDue, ih]

/-- The texts that come of blocks, up to the first block that has none. -/
def told (options : TrackerOptions) : List Block → List String
  | [] => []
  | b :: rest =>
    match b.text? options with
    | some text => text :: told options rest
    | none => []

/-- What comes of the blocks that calls call for in turn, after some others: a call that breaks off
keeps none of the later calls from being made. -/
def allTold (options : TrackerOptions) (created : Duration) (before : Calls) : Calls → List String
  | [] => []
  | (now, call) :: rest =>
    told options (due options created before now call) ++
      allTold options created (before ++ [(now, call)]) rest

theorem allTold_append (options : TrackerOptions) (created : Duration)
    (before calls rest : Calls) :
    allTold options created before (calls ++ rest) =
      allTold options created before calls ++ allTold options created (before ++ calls) rest := by
  induction calls generalizing before with
  | nil => simp [allTold]
  | cons c calls ih => simp [allTold, ih]

/-- Blocks that all have a text are told one by one. -/
theorem told_of_isSome {options : TrackerOptions} {blocks : List Block}
    (h : ∀ b ∈ blocks, (b.text? options).isSome = true) :
    (told options blocks).map some = blocks.map (Block.text? options) := by
  induction blocks with
  | nil => rfl
  | cons b rest ih =>
    rcases Option.isSome_iff_exists.1 (h b List.mem_cons_self) with ⟨text, htext⟩
    have hrest := ih fun b hb => h b (List.mem_cons_of_mem _ hb)
    simp only [told, htext, List.map_cons, hrest]

theorem allTold_of_isSome {options : TrackerOptions} {created : Duration} {before calls : Calls}
    (h : ∀ b ∈ allDue options created before calls, (b.text? options).isSome = true) :
    (allTold options created before calls).map some =
      (allDue options created before calls).map (Block.text? options) := by
  induction calls generalizing before with
  | nil => rfl
  | cons c rest ih =>
    have hfirst := told_of_isSome fun b hb => h b (List.mem_append_left _ hb)
    have hrest := ih fun b hb => h b (List.mem_append_right _ hb)
    rw [allTold, allDue, List.map_append, List.map_append, hfirst, hrest]

section OneMore

variable {options : TrackerOptions} {created : Duration} (calls : Calls) (now : Duration)
  (call : Call)

theorem isStarted_iff {calls : Calls} :
    isStarted calls = true ↔ ∃ c ∈ calls, c.2 = .start := by
  have hstart : ∀ call : Call, call.isStart = true ↔ call = .start := by
    intro call
    cases call <;> simp [Call.isStart]
  simp only [isStarted, List.any_eq_true, hstart]

theorem isStarted_append_singleton :
    isStarted (calls ++ [(now, call)]) = (isStarted calls || call.isStart) := by
  simp [isStarted]

theorem isEmpty_sinceStart : (sinceStart calls).isEmpty = !isStarted calls := by
  rw [Bool.eq_iff_iff]
  simp [sinceStart, isStarted, List.dropWhile_eq_nil_iff]

theorem sinceStart_append_singleton :
    sinceStart (calls ++ [(now, call)]) =
      if isStarted calls || call.isStart then sinceStart calls ++ [(now, call)] else [] := by
  have hempty := isEmpty_sinceStart calls
  rw [sinceStart] at hempty
  rw [sinceStart, List.dropWhile_append, hempty, sinceStart]
  cases h : isStarted calls with
  | true => simp
  | false =>
    rw [h, Bool.not_false, List.isEmpty_iff] at hempty
    cases hcall : call.isStart <;> simp [hcall, hempty]

/-- A stop ends the wait for it, and only the first start begins it. -/
theorem awaitsStop_append_singleton :
    awaitsStop (calls ++ [(now, call)]) =
      (awaitsStop calls && !call.stops || !isStarted calls && call.isStart) := by
  have hempty := isEmpty_sinceStart calls
  rw [awaitsStop, awaitsStop, isStarted_append_singleton, sinceStart_append_singleton]
  cases h : isStarted calls with
  | true => simp
  | false =>
    rw [h, Bool.not_false, List.isEmpty_iff] at hempty
    cases call <;> simp [Call.isStart, Call.stops, hempty]

theorem statuses_append_singleton :
    statuses (calls ++ [(now, call)]) = statuses calls ++ call.status?.toList := by
  cases h : call.status? <;> simp [statuses, h]

theorem totalOf_append_singleton :
    totalOf options (calls ++ [(now, call)]) = call.total?.getD (totalOf options calls) := by
  cases h : call.total? <;> simp [totalOf, h]

theorem clockOf_append_singleton :
    clockOf created (calls ++ [(now, call)]) =
      if !isStarted calls && call.isStart then now else clockOf created calls := by
  rw [clockOf, clockOf, List.find?_append]
  cases h : calls.find? (·.2.isStart) with
  | some c =>
    have hstarted : isStarted calls = true :=
      List.any_eq_true.2 ⟨c, List.mem_of_find?_eq_some h, by simpa using List.find?_some h⟩
    simp [hstarted]
  | none =>
    have hidle : isStarted calls = false := by
      rw [isStarted, List.any_eq_false]
      exact List.find?_eq_none.1 h
    cases hcall : call.isStart <;> simp [hidle, hcall]

end OneMore

/-! ## One call -/

-- from here on the call is known, and what it is follows by computation
attribute [simp] Call.isStart Call.stops Call.closes? Call.status? Call.total?

/-- Writes the texts of blocks, up to the first block that has none, over which it panics. -/
def tell (t : Tracker) : List Block → Tracker × Except String Unit
  | [] => (t, .ok ())
  | b :: rest =>
    match b.text? t.options with
    | some text => tell { t with written := t.written ++ [text] } rest
    | none => (t, .error Stats.panicText)

section Tell

variable {t : Tracker} {now : Duration} {call : Call}

theorem fst_tell (t : Tracker) (blocks : List Block) :
    (t.tell blocks).1 = { t with written := t.written ++ told t.options blocks } := by
  induction blocks generalizing t with
  | nil => simp [tell, told]
  | cons b rest ih =>
    cases htext : b.text? t.options with
    | none => simp [tell, told, htext]
    | some text => simp [tell, told, htext, ih]

theorem tell_panics_iff {blocks : List Block} {text : String} :
    (t.tell blocks).2 = .error text ↔
      text = Stats.panicText ∧ ∃ b ∈ blocks, b.text? t.options = none := by
  induction blocks generalizing t with
  | nil => simp [tell]
  | cons b rest ih =>
    cases htext : b.text? t.options with
    | none => simp [tell, htext, eq_comm]
    | some shown => simp [tell, htext, ih]

/-- A tracker that has been stopped. -/
def stopped (t : Tracker) : Tracker := { t with reporting := false }

theorem print_eq_tell (t : Tracker) (now : Duration) (b : Block) (hb : b.sample = t.sample now) :
    t.print now (b.render t.options) = t.tell [b] := by
  unfold print tell Block.text?
  rw [hb]
  cases Stats.derive? (t.sample now) <;> rfl

theorem callStop_eq_tell (t : Tracker) (now : Duration) :
    t.callStop now =
      t.stopped.tell (if t.reporting then [.progress (t.sample now)] else []) := by
  unfold callStop
  cases hreporting : t.reporting with
  | true => exact t.stopped.print_eq_tell now (.progress (t.sample now)) rfl
  | false =>
    have hsame : t.stopped = t := by rw [stopped, ← hreporting]
    rw [hsame]
    rfl

theorem callPrintFinal_eq_tell (t : Tracker) (now : Duration) :
    t.callPrintFinal now =
      t.tell (if t.options.reports then [.closing (t.sample now)] else []) := by
  unfold callPrintFinal
  cases t.options.reports with
  | true => exact t.print_eq_tell now (.closing (t.sample now)) rfl
  | false => rfl

theorem callStopAndPrintFinal_eq_tell (t : Tracker) (now later : Duration) :
    t.callStopAndPrintFinal now later =
      t.stopped.tell ((if t.reporting then [.progress (t.sample now)] else []) ++
        if t.options.reports then [.closing (t.sample later)] else []) := by
  unfold callStopAndPrintFinal
  rw [callStop_eq_tell]
  cases t.reporting with
  | false => exact t.stopped.callPrintFinal_eq_tell later
  | true =>
    -- the final block is told only if the snapshot has been
    cases htext : Block.text? t.stopped.options (.progress (t.sample now)) with
    | none => simp [tell, htext]
    | some text =>
      simp only [tell, htext, if_true, List.cons_append, List.nil_append]
      exact callPrintFinal_eq_tell _ later

/-- The blocks that a call calls for, as the tracker has it; without a sink there are none. -/
def pending (t : Tracker) (now : Duration) (call : Call) : List Block :=
  (if call.stops && t.reporting then [.progress (t.sample now)] else []) ++
  if t.options.reports then
    (call.closes? now).toList.map fun time => .closing (t.sample time)
  else []

/-- A call tells its blocks, and stops the reports whether or not it breaks off over them. -/
theorem fst_perform (t : Tracker) (now : Duration) (call : Call) :
    (t.perform now call).1 =
      { t with
        counts := t.counts.addAll call.status?.toList
        total := call.total?.getD t.total
        since := if !t.started && call.isStart then now else t.since
        started := t.started || call.isStart
        reporting :=
          if !t.started && call.isStart then t.options.reports else t.reporting && !call.stops
        written := t.written ++ told t.options (t.pending now call) } := by
  rcases t with ⟨options, counts, total, since, started, reporting, written⟩
  cases call with
  | start => cases started <;> simp [perform, start, pending, told]
  | record status => simp [perform, record, pending, told]
  | setTotal total => simp [perform, setTotal, pending, told]
  | stop => simp [perform, callStop_eq_tell, fst_tell, stopped, pending]
  | printFinal =>
    cases hreports : options.reports <;>
      simp [perform, callPrintFinal_eq_tell, fst_tell, pending, hreports]
  | stopAndPrintFinal later =>
    cases hreports : options.reports <;>
      simp [perform, callStopAndPrintFinal_eq_tell, fst_tell, stopped, pending, hreports]

/-- A call breaks off if and only if one of its blocks has no text. -/
theorem perform_panics_iff {text : String} :
    (t.perform now call).2 = .error (.panicked text) ↔
      text = Stats.panicText ∧ ∃ b ∈ t.pending now call, b.text? t.options = none := by
  have hpanics : ∀ answer : Except String Unit,
      answer.mapError Failure.panicked = .error (.panicked text) ↔ answer = .error text := by
    intro answer
    cases answer <;> simp [Except.mapError]
  cases call with
  | start =>
    cases hstarted : t.started <;> simp [perform, start, pending, hstarted, Except.mapError]
  | record | setTotal => simp [perform, pending]
  | stop =>
    simp only [perform, Prod.map_snd, hpanics, callStop_eq_tell, tell_panics_iff]
    simp [pending, stopped]
  | printFinal =>
    simp only [perform, Prod.map_snd, hpanics, callPrintFinal_eq_tell, tell_panics_iff]
    simp [pending]
  | stopAndPrintFinal later =>
    simp only [perform, Prod.map_snd, hpanics, callStopAndPrintFinal_eq_tell, tell_panics_iff]
    simp [pending, stopped]

end Tell

end Tracker
end RecordFlow
