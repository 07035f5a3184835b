import RecordFlow.Proofs.Ledger.Counting
import RecordFlow.Proofs.Ledger.Entries

/-!
# Concord — the counters of a ledger tell one story

A result is counted in four places: in the summary, by the tracker for all, by the tracker of its
source, and by the collector.  `Ledger.Concordant` says that these agree, and that the trackers of
the sources add up to the one for all.  An event keeps them in concord whatever it is, as long as
its record comes from a source on the board (`Ledger.Concordant.account`).
-/

namespace RecordFlow

namespace Counts

/-- Two counts, counter by counter. -/
def plus (c d : Counts) : Counts :=
  ⟨c.processed + d.processed, c.success + d.success, c.failed + d.failed, c.skipped + d.skipped⟩

@[simp]
theorem zero_plus (c : Counts) : zero.plus c = c := by simp [plus, zero]

/-- It does not matter in which of two counts a result is counted. -/
theorem add_plus (c d : Counts) (status : Status) :
    (c.add status).plus d = (c.plus d).add status := by
  cases status <;> simp [plus, add, Nat.add_right_comm]

theorem plus_add (c d : Counts) (status : Status) :
    c.plus (d.add status) = (c.plus d).add status := by
  cases status <;> simp [plus, add, Nat.add_assoc]

end Counts

/-! ## Sums over a board -/

namespace Board

/-- What each source has counted. -/
def tallies (b : Board) : List (String × Counts) := b.sources.map fun s => (s.1, s.2.counts)

/-- The names that have a tracker. -/
def names (b : Board) : List String := b.tallies.map Prod.fst

/-- What the sources have counted together. -/
def summed (b : Board) : Counts := (b.tallies.map Prod.snd).foldr Counts.plus .zero

theorem tallies_record (b : Board) (source : String) (status : Status) :
    (b.record source status).tallies =
      b.tallies.map fun s => (s.1, if s.1 = source then s.2.add status else s.2) := by
  simp only [tallies, record, List.map_map]
  apply List.map_congr_left
  intro s _
  by_cases hname : s.1 = source <;> simp [hname, Tracker.record]

@[simp]
theorem names_record (b : Board) (source : String) (status : Status) :
    (b.record source status).names = b.names := by
  rw [names, tallies_record, List.map_map]
  rfl

/-- A result of a source on the board counts once among all sources. -/
theorem summed_record {b : Board} {source : String} (status : Status) (hnodup : b.names.Nodup)
    (hsource : source ∈ b.names) : (b.record source status).summed = b.summed.add status := by
  -- at most one of the places has the name, and the others stay as they are
  have hplaces : ∀ tallies : List (String × Counts), (tallies.map Prod.fst).Nodup →
      ((tallies.map fun s => (s.1, if s.1 = source then s.2.add status else s.2)).map
          Prod.snd).foldr Counts.plus .zero =
        if source ∈ tallies.map Prod.fst
        then ((tallies.map Prod.snd).foldr Counts.plus .zero).add status
        else (tallies.map Prod.snd).foldr Counts.plus .zero := by
    intro tallies hnodup
    induction tallies with
    | nil => rfl
    | cons s rest ih =>
      rw [List.map_cons, List.nodup_cons] at hnodup
      have hrest := ih hnodup.2
      simp only [List.map_cons, List.foldr_cons, List.mem_cons, hrest]
      by_cases hname : s.1 = source
      · have habsent : source ∉ rest.map Prod.fst := hname ▸ hnodup.1
        rw [if_pos hname, if_neg habsent, if_pos (.inl hname.symm), Counts.add_plus]
      · by_cases hlater : source ∈ rest.map Prod.fst
        · rw [if_neg hname, if_pos hlater, if_pos (.inr hlater), Counts.plus_add]
        · have habsent : ¬ (source = s.1 ∨ source ∈ rest.map Prod.fst) := by
            rintro (rfl | hmem)
            · exact hname rfl
            · exact hlater hmem
          rw [if_neg hname, if_neg hlater, if_neg habsent]
  have hplace : source ∈ b.tallies.map Prod.fst := hsource
  have hall := hplaces b.tallies hnodup
  rw [if_pos hplace, ← tallies_record] at hall
  exact hall

/-! ### The start of a run -/

theorem mem_names_iff (b : Board) (name : String) : name ∈ b.names ↔ (b.source? name).isSome := by
  simp [names, tallies, source?]

theorem tallies_addSource (b : Board) (source : String) (expected : Nat) (now : Duration) :
    (b.addSource source expected now).tallies =
      if source ∈ b.names then b.tallies else b.tallies ++ [(source, .zero)] := by
  by_cases hsource : source ∈ b.names
  · simp [addSource, (b.mem_names_iff source).1 hsource, hsource]
  · simp [addSource, mt (b.mem_names_iff source).2 hsource, hsource, tallies, Tracker.ofOptions]

/-- A board of a run that has counted nothing: every source has one place. -/
structure Fresh (given : List String) (b : Board) : Prop where
  nodup : b.names.Nodup
  names : ∀ name, name ∈ b.names ↔ name ∈ given
  zeros : ∀ s ∈ b.tallies, s.2 = .zero
  overall : b.overall.counts = .zero

theorem Fresh.addSource {given : List String} {b : Board} (hfresh : b.Fresh given) (source : String)
    (expected : Nat) (now : Duration) :
    (b.addSource source expected now).Fresh (given ++ [source]) := by
  have htallies := b.tallies_addSource source expected now
  have hoverall : (b.addSource source expected now).overall.counts = .zero := by
    unfold Board.addSource
    split <;> exact hfresh.overall
  by_cases hsource : source ∈ b.names
  · -- a name that is given again keeps its place
    rw [if_pos hsource] at htallies
    have hnames : (b.addSource source expected now).names = b.names := by
      rw [Board.names, htallies, Board.names]
    refine ⟨hnames ▸ hfresh.nodup, ?_, htallies ▸ hfresh.zeros, hoverall⟩
    intro name
    rw [hnames, hfresh.names, List.mem_append, List.mem_singleton]
    constructor
    · exact .inl
    · rintro (hname | rfl)
      · exact hname
      · exact (hfresh.names name).1 hsource
  · rw [if_neg hsource] at htallies
    have hnames : (b.addSource source expected now).names = b.names ++ [source] := by
      rw [Board.names, htallies, List.map_append]
      rfl
    refine ⟨?_, ?_, ?_, hoverall⟩
    · rw [hnames]
      refine List.nodup_append.2 ⟨hfresh.nodup, by simp, ?_⟩
      intro name hname last hlast hsame
      rw [List.mem_singleton.1 hlast] at hsame
      exact hsource (hsame ▸ hname)
    · intro name
      rw [hnames, List.mem_append, List.mem_append, hfresh.names]
    · rw [htallies]
      intro s hs
      rcases List.mem_append.1 hs with hs | hs
      · exact hfresh.zeros s hs
      · rw [List.mem_singleton.1 hs]

theorem Fresh.foldl_addSource {given : List String} {b : Board} (hfresh : b.Fresh given)
    (names : List String) (now : Duration) :
    (names.foldl (fun b name => b.addSource name 0 now) b).Fresh (given ++ names) := by
  induction names generalizing given b with
  | nil => simpa using hfresh
  | cons first rest ih =>
    have hnext := ih (hfresh.addSource first 0 now)
    rwa [List.append_assoc] at hnext

theorem fresh_empty (options : TrackerOptions) (now : Duration) : (empty options now).Fresh [] :=
  ⟨List.nodup_nil, fun _ => Iff.rfl, by simp [tallies, empty], rfl⟩

/-- To start the trackers changes no count, also when the start ends at one that is running. -/
theorem tallies_startSources (now : Duration) (sources : List (String × Tracker)) :
    (startSources now sources).1.map (fun s => (s.1, s.2.counts)) =
      sources.map fun s => (s.1, s.2.counts) := by
  induction sources with
  | nil => rfl
  | cons s rest ih =>
    rcases s with ⟨name, t⟩
    have hstarted := counts_start t now
    unfold startSources
    rcases hstart : t.start now with ⟨t', outcome⟩
    have hcounts : t'.counts = t.counts := by rwa [hstart] at hstarted
    cases outcome with
    | error e => simp [hcounts]
    | ok _ => simp [hcounts, ih]

theorem tallies_start (b : Board) (now : Duration) : (b.start now).1.tallies = b.tallies := by
  have hsources := tallies_startSources now b.sources
  unfold start
  rcases hstart : startSources now b.sources with ⟨sources, outcome⟩
  rw [hstart] at hsources
  cases outcome <;> exact hsources

theorem Fresh.start {given : List String} {b : Board} (hfresh : b.Fresh given) (now : Duration) :
    (b.start now).1.Fresh given := by
  have htallies := b.tallies_start now
  have hnames : (b.start now).1.names = b.names := by rw [Board.names, htallies, Board.names]
  exact ⟨hnames ▸ hfresh.nodup, hnames ▸ hfresh.names, htallies ▸ hfresh.zeros,
    (counts_overall_start b now).trans hfresh.overall⟩

theorem Fresh.summed_eq {given : List String} {b : Board} (hfresh : b.Fresh given) :
    b.summed = .zero := by
  have hzeros : ∀ tallies : List (String × Counts), (∀ s ∈ tallies, s.2 = .zero) →
      (tallies.map Prod.snd).foldr Counts.plus .zero = .zero := by
    intro tallies hzeros
    induction tallies with
    | nil => rfl
    | cons s rest ih =>
      rw [List.map_cons, List.foldr_cons, hzeros s List.mem_cons_self, Counts.zero_plus]
      exact ih fun s hs => hzeros s (List.mem_cons_of_mem _ hs)
  exact hzeros b.tallies hfresh.zeros

end Board

/-! ## Concord -/

namespace Ledger

/-- All counters of a ledger over some sources agree. -/
structure Concordant (names : List String) (l : Ledger) : Prop where
  /-- Every name has one place on the board, and nothing else has. -/
  nodup : l.board.names.Nodup
  registered : ∀ name, name ∈ l.board.names ↔ name ∈ names
  /-- Every record has one status. -/
  statuses : l.summary.counts.success + l.summary.counts.failed + l.summary.counts.skipped =
    l.summary.counts.processed
  overall : l.board.overall.counts = l.summary.counts
  collector : l.collector.processed = l.summary.counts.processed
  sources : l.board.summed = l.board.overall.counts

variable {names : List String} {l : Ledger}

/-- The concord is one of the counts alone. -/
theorem Concordant.congr (h : l.Concordant names) {l' : Ledger}
    (htallies : l'.board.tallies = l.board.tallies)
    (hoverall : l'.board.overall.counts = l.board.overall.counts)
    (hsummary : l'.summary.counts = l.summary.counts)
    (hcollector : l'.collector.processed = l.collector.processed) : l'.Concordant names := by
  have hnames : l'.board.names = l.board.names := congrArg (List.map Prod.fst) htallies
  have hsummed : l'.board.summed = l.board.summed :=
    congrArg (fun tallies => (tallies.map Prod.snd).foldr Counts.plus .zero) htallies
  refine ⟨?_, ?_, ?_, ?_, ?_, ?_⟩
  · exact hnames ▸ h.nodup
  · exact hnames ▸ h.registered
  · exact hsummary ▸ h.statuses
  · exact hoverall.trans (h.overall.trans hsummary.symm)
  · rw [hcollector, h.collector, hsummary]
  · exact hsummed.trans (h.sources.trans hoverall.symm)

/-- To count a result of a known source keeps the concord. -/
theorem Concordant.counted (h : l.Concordant names) {l' : Ledger} {r : Result}
    (hsource : r.record.source ∈ names)
    (hboard : l'.board = l.board.record r.record.source r.status)
    (hsummary : l'.summary = l.summary.add r.status)
    (hcollector : l'.collector.processed = l.collector.processed + 1) : l'.Concordant names := by
  have hplace : r.record.source ∈ l.board.names := (h.registered _).2 hsource
  have hcounts : l'.summary.counts = l.summary.counts.add r.status := by
    rw [hsummary]
    rfl
  have hoverall : l'.board.overall.counts = l.board.overall.counts.add r.status := by
    rw [hboard]
    rfl
  refine ⟨?_, ?_, ?_, ?_, ?_, ?_⟩
  · rw [hboard, Board.names_record]
    exact h.nodup
  · intro name
    rw [hboard, Board.names_record]
    exact h.registered name
  · rw [hcounts, Counts.statuses_add, Counts.processed_add, h.statuses]
  · rw [hoverall, hcounts, h.overall]
  · rw [hcollector, hcounts, Counts.processed_add, h.collector]
  · rw [hoverall, hboard, Board.summed_record r.status h.nodup hplace, h.sources]

/-- An event keeps the counters in concord if what it counts comes from a source. -/
theorem Concordant.account (h : l.Concordant names) (time : Moment) {e : Event}
    (hsource : ∀ r, e.counted? = some r → r.record.source ∈ names) :
    (l.account time e).Concordant names := by
  rcases l.account_parts time e with ⟨_, _, hboard, hsummary⟩
  have hprocessed := l.processed_accountAll [(time, e)]
  rw [accountAll_cons, accountAll_nil] at hprocessed
  cases hcounted : e.counted? with
  | some r =>
    rw [hcounted] at hboard hsummary
    refine h.counted (hsource r hcounted) hboard hsummary ?_
    simpa [hcounted] using hprocessed
  | none =>
    -- an error without a record is collected and not counted
    rw [hcounted] at hboard hsummary
    have hsame : (l.account time e).board = l.board := hboard
    have hcounts : (l.account time e).summary = l.summary := hsummary
    refine h.congr ?_ ?_ ?_ ?_
    · rw [hsame]
    · rw [hsame]
    · rw [hcounts]
    · simpa [hcounted] using hprocessed

/-- The counters are in concord after any events, one after another. -/
theorem Concordant.accountAll (h : l.Concordant names) {history : List (Moment × Event)}
    (hsources : ∀ e ∈ history, ∀ r, e.2.counted? = some r → r.record.source ∈ names) :
    (l.accountAll history).Concordant names := by
  induction history generalizing l with
  | nil => exact h
  | cons e rest ih =>
    have hfirst := h.account e.1 (hsources e List.mem_cons_self)
    exact ih hfirst fun e he => hsources e (List.mem_cons_of_mem _ he)

/-- A ledger with a fresh board, on which nothing has been counted, is in concord. -/
theorem concordant_of_fresh (hfresh : l.board.Fresh names) (hsummary : l.summary.counts = .zero)
    (hcollector : l.collector.processed = 0) : l.Concordant names := by
  refine ⟨hfresh.nodup, hfresh.names, ?_, ?_, ?_, ?_⟩
  · rw [hsummary]
    rfl
  · rw [hfresh.overall, hsummary]
  · rw [hcollector, hsummary]
    rfl
  · rw [hfresh.summed_eq, hfresh.overall]

end Ledger
end RecordFlow
