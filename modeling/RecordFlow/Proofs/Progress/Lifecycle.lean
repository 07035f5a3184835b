import RecordFlow.Proofs.Progress.Calls
import RecordFlow.Proofs.Progress.Remaining

/-!
# Lifecycle — what a tracker writes over all of its calls

The state of a tracker is told by the calls made (`Tracker.after_eq`).  The sink receives what they
call for in their order, among it one snapshot at the first stop behind the first start, as long as
no call breaks off (`Tracker.Follows`).  A call breaks off only over a block that shows records as
left whose time is beyond the greatest duration, or within a day of it.
-/

namespace RecordFlow

/-! ## Blocks without a text -/

/-- A block has no text only while records are left whose time is no duration. -/
theorem Block.text?_fails_iff {options : TrackerOptions} {b : Block} :
    b.text? options = none ↔
      Stats.IsUnderWay b.sample ∧ Duration.ofSeconds? (Stats.secondsLeft b.sample) = none :=
  text?_eq_none_iff.trans (Stats.derive?_eq_none_iff b.sample)

namespace Tracker

/-- The last call of a run breaks off only while records are left. -/
theorem isUnderWay_of_panics {t : Tracker} {now later : Duration} {text : String}
    (h : (t.callStopAndPrintFinal now later).2 = .error text) :
    0 < t.counts.processed ∧ t.counts.processed < t.total := by
  rw [callStopAndPrintFinal_eq_tell, tell_panics_iff] at h
  rcases h.2 with ⟨b, hb, htext⟩
  have hway : Stats.IsUnderWay b.sample := (Block.text?_fails_iff.1 htext).1
  -- both blocks show the counters and the total of the tracker
  rcases List.mem_append.1 hb with hb | hb
  · cases hreporting : t.reporting <;> simp only [hreporting] at hb
    · cases hb
    · rw [List.mem_singleton.1 hb] at hway
      exact hway
  · cases hreports : t.options.reports <;> simp only [hreports] at hb
    · cases hb
    · rw [List.mem_singleton.1 hb] at hway
      exact hway

/-! ## The state after all calls -/

variable {options : TrackerOptions} {created : Duration}

def after (options : TrackerOptions) (created : Duration) (calls : Calls) : Tracker :=
  (ofOptions options created).performAll calls

/-- The state of a tracker is told by the calls made. -/
theorem after_eq (options : TrackerOptions) (created : Duration) (calls : Calls) :
    after options created calls =
      { options
        counts := Counts.zero.addAll (statuses calls)
        total := totalOf options calls
        since := clockOf created calls
        started := isStarted calls
        reporting := options.reports && awaitsStop calls
        written := if options.reports then allTold options created [] calls else [] } := by
  unfold after
  induction calls using List.reverseRecOn with
  | nil => simp [performAll, ofOptions, statuses, totalOf, clockOf, isStarted, awaitsStop, allTold]
  | append_singleton calls c ih =>
    rcases c with ⟨now, call⟩
    rw [performAll_append_singleton, fst_perform, ih, statuses_append_singleton,
      totalOf_append_singleton, clockOf_append_singleton, isStarted_append_singleton,
      awaitsStop_append_singleton, allTold_append, List.nil_append, allTold, allTold,
      List.append_nil]
    have hcounts : (Counts.zero.addAll (statuses calls)).addAll call.status?.toList =
        Counts.zero.addAll (statuses calls ++ call.status?.toList) := by
      simp [Counts.addAll]
    have hreporting : ∀ starts stops : Bool,
        (if starts then options.reports else (options.reports && awaitsStop calls) && !stops) =
          (options.reports && (awaitsStop calls && !stops || starts)) := by
      intro starts stops
      cases starts <;> simp [Bool.and_assoc]
    -- what the tracker has to tell is what the calls call for
    rw [hcounts, hreporting]
    cases hreports : options.reports <;>
      simp [pending, due, sample, sampleOf, hreports, told]

/-! ## The snapshot -/

/-- Whether the first stop behind the first start is made at a moment, after some of the calls. -/
def IsFirstStop (calls before : Calls) (now : Duration) : Prop :=
  ∃ call rest, calls = before ++ (now, call) :: rest ∧
    call.stops = true ∧ awaitsStop before = true

/-- The samples of the snapshots that calls call for. -/
def snapshots (options : TrackerOptions) (created : Duration) (calls : Calls) : List Sample :=
  (allDue options created [] calls).filterMap Block.progress?

theorem snapshots_append_singleton (calls : Calls) (now : Duration) (call : Call) :
    snapshots options created (calls ++ [(now, call)]) =
      snapshots options created calls ++
        if call.stops && awaitsStop calls then [sampleOf options created calls now] else [] := by
  rw [snapshots, allDue_append, List.filterMap_append, List.nil_append, allDue, allDue,
    List.append_nil, due, List.filterMap_append, snapshots]
  cases call.closes? now <;> cases (call.stops && awaitsStop calls) <;> simp [Block.progress?]

theorem isStarted_of_awaitsStop {calls : Calls} (h : awaitsStop calls = true) :
    isStarted calls = true := by
  rw [awaitsStop, Bool.and_eq_true] at h
  exact h.1

/-- There is one snapshot once the tracker has been started and stopped. -/
theorem length_snapshots (calls : Calls) :
    (snapshots options created calls).length =
      if isStarted calls && !awaitsStop calls then 1 else 0 := by
  induction calls using List.reverseRecOn with
  | nil => rfl
  | append_singleton calls c ih =>
    rcases c with ⟨now, call⟩
    rw [snapshots_append_singleton, List.length_append, ih, isStarted_append_singleton,
      awaitsStop_append_singleton]
    cases hawaits : awaitsStop calls with
    | true =>
      have hstarted := isStarted_of_awaitsStop hawaits
      cases call <;> simp [hstarted]
    | false => cases isStarted calls <;> cases call <;> simp

/-- A block is called for by one of the calls, with the calls before it. -/
theorem mem_allDue_iff {before calls : Calls} {b : Block} :
    b ∈ allDue options created before calls ↔
      ∃ front now call rest, calls = front ++ (now, call) :: rest ∧
        b ∈ due options created (before ++ front) now call := by
  constructor
  · intro h
    induction calls generalizing before with
    | nil => cases h
    | cons c calls ih =>
      rcases List.mem_append.1 h with hfirst | hlater
      · exact ⟨[], c.1, c.2, calls, rfl, by simpa using hfirst⟩
      · rcases ih hlater with ⟨front, now, call, rest, rfl, hb⟩
        exact ⟨c :: front, now, call, rest, rfl, by simpa using hb⟩
  · rintro ⟨front, now, call, rest, rfl, hb⟩
    rw [allDue_append, allDue]
    exact List.mem_append_right _ (List.mem_append_left _ hb)

/-- A snapshot shows the moment of the first stop. -/
theorem mem_snapshots_iff {calls : Calls} {shown : Sample} :
    shown ∈ snapshots options created calls ↔
      ∃ before now, IsFirstStop calls before now ∧
        shown = sampleOf options created before now := by
  have hprogress : shown ∈ snapshots options created calls ↔
      .progress shown ∈ allDue options created [] calls := by
    rw [snapshots, List.mem_filterMap]
    constructor
    · rintro ⟨b, hb, hshown⟩
      cases b <;> simp_all [Block.progress?]
    · exact fun h => ⟨_, h, rfl⟩
  have hdue : ∀ before now call, .progress shown ∈ due options created before now call ↔
      (call.stops = true ∧ awaitsStop before = true) ∧
        shown = sampleOf options created before now := by
    intro before now call
    rw [due, ← Bool.and_eq_true]
    cases call.closes? now <;> cases call.stops && awaitsStop before <;> simp
  rw [hprogress, mem_allDue_iff]
  simp only [List.nil_append, hdue]
  constructor
  · rintro ⟨before, now, call, rest, hcalls, ⟨hstops, hawaits⟩, hshown⟩
    exact ⟨before, now, ⟨call, rest, hcalls, hstops, hawaits⟩, hshown⟩
  · rintro ⟨before, now, ⟨call, rest, hcalls, hstops, hawaits⟩, hshown⟩
    exact ⟨before, now, call, rest, hcalls, ⟨hstops, hawaits⟩, hshown⟩

theorem snapshots_of_isFirstStop {calls before : Calls} {now : Duration}
    (h : IsFirstStop calls before now) :
    snapshots options created calls = [sampleOf options created before now] := by
  have hmem : sampleOf options created before now ∈ snapshots options created calls :=
    mem_snapshots_iff.2 ⟨before, now, h, rfl⟩
  have hone : (snapshots options created calls).length ≤ 1 := by
    rw [length_snapshots]
    split <;> omega
  match hsnapshots : snapshots options created calls with
  | [] => simp [hsnapshots] at hmem
  | [shown] =>
    rw [hsnapshots, List.mem_singleton] at hmem
    rw [hmem]
  | _ :: _ :: _ => simp [hsnapshots] at hone

theorem snapshots_eq_nil {calls : Calls} (h : ∀ before now, ¬ IsFirstStop calls before now) :
    snapshots options created calls = [] := by
  rw [List.eq_nil_iff_forall_not_mem]
  intro shown hshown
  rcases mem_snapshots_iff.1 hshown with ⟨before, now, hstop, _⟩
  exact h before now hstop

/-! ## The counters -/

/-- The counts of each status add up to all. -/
theorem statuses_addAll (c : Counts) (statuses : List Status) :
    (c.addAll statuses).success + (c.addAll statuses).failed + (c.addAll statuses).skipped =
      c.success + c.failed + c.skipped + statuses.length := by
  induction statuses generalizing c with
  | nil => rfl
  | cons status rest ih => rw [Counts.addAll_cons, ih, Counts.statuses_add, List.length_cons]; omega

/-! ## All of it -/

/-- What a tracker answers, writes and counts after some calls. -/
structure Follows (options : TrackerOptions) (created : Duration) (calls : Calls) : Prop where
  /-- The first start succeeds. -/
  starts : (∀ c ∈ calls, c.2 ≠ .start) → ∀ now,
    ((after options created calls).perform now .start).2 = .ok ()
  /-- Every other one fails and changes nothing, also behind a stop. -/
  startsOnce : (∃ c ∈ calls, c.2 = .start) → ∀ now,
    (after options created calls).perform now .start =
      (after options created calls, .error (.refused .alreadyStarted))
  /-- Without a sink nothing is written, and no call breaks off. -/
  silent : options.reports = false → (after options created calls).written = [] ∧
    ∀ now call text, ((after options created calls).perform now call).2 ≠ .error (.panicked text)
  /-- With a sink every call writes the texts of the blocks that it calls for, up to the first block
  that has none. -/
  writes : options.reports = true → ∀ now call,
    ((after options created calls).perform now call).1.written =
      (after options created calls).written ++
        told options (due options created calls now call)
  /-- It breaks off just if there is such a block. -/
  panics : options.reports = true → ∀ now call text,
    ((after options created calls).perform now call).2 = .error (.panicked text) ↔
      text = Stats.panicText ∧
        ∃ b ∈ due options created calls now call, b.text? options = none
  /-- If no call breaks off, the sink has received every block that was called for, in the order of
  the calls. -/
  written : options.reports = true →
    (∀ b ∈ allDue options created [] calls, (b.text? options).isSome = true) →
      (after options created calls).written.map some =
        (allDue options created [] calls).map (Block.text? options)
  /-- One snapshot is called for, with what the first stop behind the first start finds. -/
  snapshot : ∀ before now, IsFirstStop calls before now →
    (allDue options created [] calls).filterMap Block.progress? =
      [sampleOf options created before now]
  noSnapshot : (∀ before now, ¬ IsFirstStop calls before now) →
    (allDue options created [] calls).filterMap Block.progress? = []
  /-- The counts are those of the statuses recorded. -/
  counts : (after options created calls).counts =
    ⟨(statuses calls).length, (statuses calls).count .success, (statuses calls).count .failed,
      (statuses calls).count .skipped⟩
  adds : (after options created calls).counts.success +
      (after options created calls).counts.failed + (after options created calls).counts.skipped =
    (after options created calls).counts.processed

theorem pending_after (calls : Calls) (now : Duration) (call : Call) :
    (after options created calls).pending now call =
      if options.reports then due options created calls now call else [] := by
  rw [after_eq]
  cases hreports : options.reports <;> simp [pending, due, sample, sampleOf, hreports]

theorem options_after (calls : Calls) : (after options created calls).options = options := by
  rw [after_eq]

theorem follows_after (options : TrackerOptions) (created : Duration) (calls : Calls) :
    Follows options created calls where
  starts hnone now := by
    have hidle : ¬ isStarted calls = true := by
      rw [isStarted_iff]
      rintro ⟨c, hc, hstart⟩
      exact hnone c hc hstart
    rw [after_eq, perform, start, if_neg hidle]
    rfl
  startsOnce hsome now := by
    rw [after_eq, perform, start, if_pos (isStarted_iff.2 hsome)]
    rfl
  silent hsilent := by
    refine ⟨by simp [after_eq, hsilent], fun now call text hpanics => ?_⟩
    rcases (perform_panics_iff.1 hpanics).2 with ⟨b, hb, _⟩
    simp [pending_after, hsilent] at hb
  writes hreports now call := by
    rw [fst_perform, pending_after, options_after, if_pos hreports]
  panics hreports now call text := by
    rw [perform_panics_iff, pending_after, options_after, if_pos hreports]
  written hreports hsome := by
    rw [after_eq]
    exact (congrArg (List.map some) (if_pos hreports)).trans (allTold_of_isSome hsome)
  snapshot _ _ := snapshots_of_isFirstStop
  noSnapshot := snapshots_eq_nil
  counts := by
    rw [after_eq]
    simp [Counts.addAll_eq, Counts.zero]
  adds := by
    rw [after_eq, statuses_addAll, Counts.addAll_eq]
    simp [Counts.zero]

/-- The output of a tracker follows its calls, whatever is called, in whatever order and at whatever
moments.  The text of a block shows the counters and the total at its call; a block has no text only
while records are left and the time that they take is beyond the greatest duration, or within a day
of it. -/
theorem output_follows_calls (options : TrackerOptions) (created : Duration) (calls : Calls) :
    Follows options created calls ∧
    (∀ (b : Block) (text : String), b.text? options = some text →
      ∀ l ∈ b.labels options, Shows l.1 l.2 text) ∧
    ∀ b : Block, b.text? options = none →
      Stats.IsUnderWay b.sample ∧ Duration.ofSeconds? (Stats.secondsLeft b.sample) = none ∧
        (Stats.InRange b.sample → 2 ^ 64 - 2 ^ 16 < Stats.exactSecondsLeft b.sample) := by
  refine ⟨follows_after options created calls, fun b text htext => b.shows htext, ?_⟩
  intro b htext
  rcases Block.text?_fails_iff.1 htext with ⟨hway, hnone⟩
  refine ⟨hway, hnone, fun hrange => ?_⟩
  by_contra hfits
  have hderived := Stats.isSome_derive?_of_le hrange (not_lt.1 hfits)
  rw [Block.text?_eq_none_iff.1 htext] at hderived
  cases hderived

/-- A tracker that is stopped and asked for a final block before its start, stopped twice behind it,
and started once more. -/
def restless : Calls :=
  [(⟨1, 0⟩, .stop), (⟨2, 0⟩, .printFinal), (⟨3, 0⟩, .start), (⟨4, 0⟩, .record .success),
    (⟨5, 0⟩, .setTotal 8), (⟨6, 0⟩, .stop), (⟨7, 0⟩, .start), (⟨8, 0⟩, .record .failed),
    (⟨9, 0⟩, .stopAndPrintFinal ⟨10, 0⟩)]

/-- Two final blocks are written, and between them the snapshot of the first stop. -/
theorem output_follows_calls_restless :
    IsFirstStop restless (restless.take 5) ⟨6, 0⟩ ∧
    (∃ first last, (after ⟨true, false, false, 4⟩ ⟨0, 0⟩ restless).written =
      [first, "[3s] Progress: 1/8 (12.5%) | Success: 1 | Failed: 0 | 0 rec/s | ETA: 21s\n", last] ∧
      Shows "Total Processed:  " 0 first ∧ Shows "Total Processed:  " 2 last) ∧
    (after ⟨true, false, false, 4⟩ ⟨0, 0⟩ restless).perform ⟨11, 0⟩ .start =
      (after ⟨true, false, false, 4⟩ ⟨0, 0⟩ restless, .error (.refused .alreadyStarted)) := by
  rcases output_follows_calls ⟨true, false, false, 4⟩ ⟨0, 0⟩ restless with ⟨hfollows, hshows, _⟩
  have hdue : allDue ⟨true, false, false, 4⟩ ⟨0, 0⟩ [] restless =
      [.closing ⟨⟨0, 0, 0, 0⟩, 4, ⟨2, 0⟩⟩, .progress ⟨⟨1, 1, 0, 0⟩, 8, ⟨3, 0⟩⟩,
        .closing ⟨⟨2, 1, 1, 0⟩, 8, ⟨7, 0⟩⟩] := by decide +kernel
  have hsome : ∀ b ∈ allDue ⟨true, false, false, 4⟩ ⟨0, 0⟩ [] restless,
      (b.text? ⟨true, false, false, 4⟩).isSome = true := by
    rw [hdue]
    decide +kernel
  have hwritten := hfollows.written rfl hsome
  rw [hdue] at hsome hwritten
  rcases Option.isSome_iff_exists.1 (hsome _ List.mem_cons_self) with ⟨first, hfirst⟩
  rcases Option.isSome_iff_exists.1 (hsome (.closing ⟨⟨2, 1, 1, 0⟩, 8, ⟨7, 0⟩⟩) (by simp)) with
    ⟨last, hlast⟩
  have hsnapshot : Block.text? ⟨true, false, false, 4⟩ (.progress ⟨⟨1, 1, 0, 0⟩, 8, ⟨3, 0⟩⟩) =
      some "[3s] Progress: 1/8 (12.5%) | Success: 1 | Failed: 0 | 0 rec/s | ETA: 21s\n" := by
    decide +kernel
  refine ⟨⟨.stop, _, rfl, rfl, rfl⟩, ⟨first, last, ?_, ?_, ?_⟩, ?_⟩
  · apply List.map_injective_iff.2 (Option.some_injective String)
    rw [hwritten]
    simp only [List.map_cons, List.map_nil, hfirst, hsnapshot, hlast]
  · exact hshows _ _ hfirst ("Total Processed:  ", 0) (by decide +kernel)
  · exact hshows _ _ hlast ("Total Processed:  ", 2) (by decide +kernel)
  · exact hfollows.startsOnce ⟨(⟨3, 0⟩, .start), by decide +kernel, rfl⟩ _

/-- A tracker that has seen one record of the greatest total that there is. -/
def farFromDone : Calls := [(⟨0, 0⟩, .setTotal (2 ^ 64 - 1)), (⟨0, 0⟩, .record .success)]

/-- After two seconds it breaks off over a final block, and has written nothing. -/
theorem final_block_is_lost :
    ¬ ∀ calls now, ∃ text,
      ((after ⟨true, false, false, 0⟩ ⟨0, 0⟩ calls).perform now .printFinal).1.written =
        (after ⟨true, false, false, 0⟩ ⟨0, 0⟩ calls).written ++ [text] := by
  intro hwrites
  rcases hwrites farFromDone ⟨2, 0⟩ with ⟨text, htext⟩
  have hlost : ((after ⟨true, false, false, 0⟩ ⟨0, 0⟩ farFromDone).perform ⟨2, 0⟩
      .printFinal).1.written = [] := by decide +kernel
  rw [hlost] at htext
  simp at htext

end Tracker
end RecordFlow
