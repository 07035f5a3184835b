import RecordFlow.Proofs.Ledger.Events

/-!
# Counting — what the counters of a ledger come to

Counters that go through results in turn hold how many results have each status.  The summary and
the tracker for all go through every result; the tracker of a source goes through those that carry
its name.
-/

namespace RecordFlow

namespace Counts

/-- Counts statuses in turn. -/
def addAll (c : Counts) (statuses : List Status) : Counts := statuses.foldl Counts.add c

@[simp]
theorem addAll_nil (c : Counts) : c.addAll [] = c := rfl

@[simp]
theorem addAll_cons (c : Counts) (status : Status) (rest : List Status) :
    c.addAll (status :: rest) = (c.add status).addAll rest := rfl

/-- The order does not matter, only how often each status comes. -/
theorem addAll_eq (c : Counts) (statuses : List Status) :
    c.addAll statuses =
      ⟨c.processed + statuses.length, c.success + statuses.count .success,
        c.failed + statuses.count .failed, c.skipped + statuses.count .skipped⟩ := by
  induction statuses generalizing c with
  | nil => rfl
  | cons status rest ih =>
    rw [addAll_cons, ih]
    cases status <;> simp [add, Nat.add_assoc, Nat.add_comm 1]

/-- The counts of some successes and some failures. -/
def ofRows (passed rejected : Nat) : Counts := ⟨passed + rejected, passed, rejected, 0⟩

/-- Successes and failures are counted as such, whatever their order. -/
theorem addAll_zero_of_perm {statuses : List Status} {passed rejected : Nat}
    (h : statuses.Perm
      (List.replicate passed .success ++ List.replicate rejected .failed)) :
    zero.addAll statuses = ofRows passed rejected := by
  -- only the numbers of each status matter, and a permutation keeps them
  rw [addAll_eq, h.length_eq, h.count_eq, h.count_eq, h.count_eq]
  simp [zero, ofRows, List.count_replicate]

end Counts

/-- What an event adds to counters that go by the records that `picks` picks. -/
def Event.status? (picks : Record → Bool) (e : Event) : Option Status :=
  (e.counted?.filter fun r => picks r.record).map Result.status

theorem statuses_counted (picks : Record → Bool) (events : List Event) :
    ((events.filterMap Event.counted?).filter fun r => picks r.record).map Result.status =
      events.filterMap (Event.status? picks) := by
  rw [List.filter_filterMap, List.map_filterMap]
  rfl

/-! ## Summary -/

theorem Summary.counts_addAll (s : Summary) (results : List Result) :
    (s.addAll results).counts = s.counts.addAll (results.map Result.status) := by
  induction results generalizing s with
  | nil => rfl
  | cons r rest ih => exact ih (s.add r.status)

/-! ## Board -/

namespace Board

/-- The counts of the source of a name. -/
def counts? (b : Board) (name : String) : Option Counts := (b.source? name).map Tracker.counts

theorem counts?_record (b : Board) (source : String) (status : Status) (name : String) :
    (b.record source status).counts? name =
      (b.counts? name).map fun c => if name = source then c.add status else c := by
  -- no name changes, so that the search finds the same place
  unfold counts? source? record
  rw [List.find?_map]
  have hsame : ((fun s : String × Tracker => s.1 == name) ∘ fun s : String × Tracker =>
      (s.1, if s.1 = source then s.2.record status else s.2)) = fun s => s.1 == name := rfl
  rw [hsame]
  cases hfound : b.sources.find? fun s => s.1 == name with
  | none => rfl
  | some s =>
    have hname : s.1 = name := by simpa using List.find?_some hfound
    by_cases hs : name = source <;> simp [hname, hs, Tracker.record]

/-- The tracker of a source counts the results that carry its name. -/
theorem counts?_recordAll (b : Board) (results : List Result) (name : String) :
    (b.recordAll results).counts? name =
      (b.counts? name).map fun c =>
        c.addAll ((results.filter fun r => r.record.source = name).map Result.status) := by
  induction results generalizing b with
  | nil => simp [recordAll]
  | cons r rest ih =>
    have hnext : b.recordAll (r :: rest) =
        (b.record r.record.source r.status).recordAll rest := rfl
    rw [hnext, ih, counts?_record, Option.map_map]
    by_cases hname : r.record.source = name
    · simp [hname, Function.comp_def]
    · simp [hname, Ne.symm hname, Function.comp_def]

theorem counts_overall_recordAll (b : Board) (results : List Result) :
    (b.recordAll results).overall.counts =
      b.overall.counts.addAll (results.map Result.status) := by
  induction results generalizing b with
  | nil => rfl
  | cons r rest ih => exact ih (b.record r.record.source r.status)

/-- Results change no total. -/
theorem total_overall_recordAll (b : Board) (results : List Result) :
    (b.recordAll results).overall.total = b.overall.total := by
  induction results generalizing b with
  | nil => rfl
  | cons r rest ih => exact ih (b.record r.record.source r.status)

/-! ### The start of a run -/

/-- Only a name that is not yet on the board gets a tracker, and it starts from zero. -/
theorem counts?_addSource (b : Board) (source : String) (expected : Nat) (now : Duration)
    (name : String) :
    (b.addSource source expected now).counts? name =
      (b.counts? name).or (if name = source then some .zero else none) := by
  unfold addSource
  cases hsource : b.source? source with
  | some t =>
    have hcounts : b.counts? source = some t.counts := by simp [counts?, hsource]
    by_cases hname : name = source
    · simp [hname, hcounts]
    · simp [hname]
  | none =>
    -- the search goes on to the new place when no earlier one has the name
    have hlast : ([(source, Tracker.ofOptions (.silent expected) now)].find? fun s =>
        s.1 == name) =
          if name = source then some (source, .ofOptions (.silent expected) now) else none := by
      by_cases hname : name = source
      · simp [hname]
      · simp [hname, Ne.symm hname]
    simp only [Option.isSome_none, Bool.false_eq_true, if_false, counts?, source?,
      List.find?_append, hlast]
    cases b.sources.find? fun s => s.1 == name with
    | some s => rfl
    | none => by_cases hname : name = source <;> simp [hname, Tracker.ofOptions]

theorem counts?_foldl_addSource (names : List String) (b : Board) (now : Duration) (name : String) :
    (names.foldl (fun b name => b.addSource name 0 now) b).counts? name =
      (b.counts? name).or (if name ∈ names then some .zero else none) := by
  induction names generalizing b with
  | nil => simp
  | cons first rest ih =>
    rw [List.foldl_cons, ih, counts?_addSource, Option.or_assoc]
    by_cases hfirst : name = first
    · simp [hfirst]
    · simp [hfirst]

/-- To put sources on a board leaves the tracker for all alone. -/
theorem overall_foldl_addSource (names : List String) (b : Board) (now : Duration) :
    (names.foldl (fun b name => b.addSource name 0 now) b).overall = b.overall := by
  induction names generalizing b with
  | nil => rfl
  | cons name rest ih =>
    rw [List.foldl_cons, ih]
    unfold addSource
    split <;> rfl

theorem counts_start (t : Tracker) (now : Duration) : (t.start now).1.counts = t.counts := by
  unfold Tracker.start
  split <;> rfl

theorem find?_startSources (now : Duration) (sources : List (String × Tracker)) (name : String) :
    ((startSources now sources).1.find? fun s => s.1 == name).map (fun s => s.2.counts) =
      (sources.find? fun s => s.1 == name).map fun s => s.2.counts := by
  induction sources with
  | nil => rfl
  | cons s rest ih =>
    rcases s with ⟨first, t⟩
    have hstarted := counts_start t now
    -- the start ends at the first tracker that is running, but no count changes on the way
    unfold startSources
    rcases hstart : t.start now with ⟨t', outcome⟩
    have hcounts : t'.counts = t.counts := by rwa [hstart] at hstarted
    cases outcome with
    | error e => by_cases hname : first = name <;> simp [hname, hcounts]
    | ok _ => by_cases hname : first = name <;> simp [hname, hcounts, ih]

theorem counts?_start (b : Board) (now : Duration) (name : String) :
    (b.start now).1.counts? name = b.counts? name := by
  have hsources := find?_startSources now b.sources name
  unfold start counts? source?
  rcases hstart : startSources now b.sources with ⟨sources, outcome⟩
  rw [hstart] at hsources
  cases outcome <;> simpa [Option.map_map, Function.comp_def] using hsources

theorem counts_overall_start (b : Board) (now : Duration) :
    (b.start now).1.overall.counts = b.overall.counts := by
  unfold start
  rcases startSources now b.sources with ⟨sources, outcome⟩
  cases outcome with
  | error e => rfl
  | ok _ => exact counts_start b.overall now

theorem total_start (t : Tracker) (now : Duration) : (t.start now).1.total = t.total := by
  unfold Tracker.start
  split <;> rfl

theorem total_overall_start (b : Board) (now : Duration) :
    (b.start now).1.overall.total = b.overall.total := by
  unfold start
  rcases startSources now b.sources with ⟨sources, outcome⟩
  cases outcome with
  | error e => rfl
  | ok _ => exact total_start b.overall now

/-! ### The end of a run -/

theorem counts_print (t : Tracker) (now : Duration) (text : Stats → String) :
    (t.print now text).1.counts = t.counts := by
  unfold Tracker.print
  split <;> rfl

theorem counts_callStop (t : Tracker) (now : Duration) :
    (t.callStop now).1.counts = t.counts := by
  unfold Tracker.callStop
  split
  · exact counts_print _ _ _
  · rfl

theorem counts_callPrintFinal (t : Tracker) (now : Duration) :
    (t.callPrintFinal now).1.counts = t.counts := by
  unfold Tracker.callPrintFinal
  split
  · exact counts_print _ _ _
  · rfl

/-- Whether or not a call breaks off, it counts nothing. -/
theorem counts_stopAndPrintFinal (t : Tracker) (now : Duration) :
    (t.stopAndPrintFinal now).counts = t.counts := by
  have hstop := counts_callStop t now
  unfold Tracker.stopAndPrintFinal Tracker.callStopAndPrintFinal
  generalize t.callStop now = called at hstop ⊢
  rcases called with ⟨stopped, _ | _⟩
  · exact hstop
  · exact (counts_callPrintFinal stopped now).trans hstop

end Board

theorem Summary.counts_finalize (s : Summary) (now : Instant) :
    (s.finalize now).counts = s.counts := by
  unfold finalize
  cases s.endTime <;> rfl

end RecordFlow
