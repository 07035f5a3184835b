import RecordFlow.Proofs.Pool.Service

/-!
# Crashes — where the permits of a pool are

A permit is taken before the processor is asked and given back behind it.  A processor that breaks
off takes its worker along, and the permit is never given back: it stays with the dead.

* `Pool.Leads` is all that can become of a pool, whoever is its processor and whatever the streams
  around it do,
* `Pool.Starved.workers_eq`: a pool that is starved stays as it is until it is cancelled,
* `Pool.permits_are_accounted_for` says at all times who holds the permits, and when a pool stops.
-/

namespace RecordFlow
namespace Pool

/-! ## What becomes of a pool -/

/-- What a pool can become.  Its steps may be those of a different processor each time, and between
them those around it may put records in, take results and errors out, and cancel or stop it. -/
inductive Leads (p : Pool) : Pool → Prop where
  | refl : Leads p p
  | step {q q' : Pool} {handler : Handler} {move : Move} :
      Leads p q → q.step? handler move = some q' → Leads p q'
  | surroundings {q : Pool} {scope : Scope} {input : Channel Record} {results : Channel Result}
      {errors : Channel RecordError} {signal : Option Int} :
      Leads p q → (q.scope.cancelled = true → scope.cancelled = true) →
      Leads p { q with scope, input, results, errors, signal }
  | stops {q : Pool} : Leads p q → Leads p q.stop

variable {p q r : Pool} {limit? : Option Nat}

theorem Leads.trans (hpq : p.Leads q) (hqr : q.Leads r) : p.Leads r := by
  induction hqr with
  | refl => exact hpq
  | step _ hstep ih => exact ih.step hstep
  | surroundings _ hscope ih => exact ih.surroundings hscope
  | stops _ ih => exact ih.stops

theorem Leads.balanced (hleads : p.Leads q) (hbalanced : p.Balanced) : q.Balanced := by
  induction hleads with
  | refl => exact hbalanced
  | step _ hstep ih => exact ih.step hstep
  | surroundings _ _ ih => exact ih.congr rfl rfl
  | stops _ ih => exact ih.congr rfl rfl

theorem Leads.capped (hleads : p.Leads q) (hcapped : p.Capped limit?) : q.Capped limit? := by
  induction hleads with
  | refl => exact hcapped
  | step _ hstep ih => exact ih.step hstep
  | surroundings _ _ ih => exact ⟨ih.limit, ih.held⟩
  | stops _ ih => exact ⟨ih.limit, ih.held⟩

/-- Who is cancelled stays so. -/
theorem Leads.cancelled (hleads : p.Leads q) (hcancelled : p.scope.cancelled = true) :
    q.scope.cancelled = true := by
  induction hleads with
  | refl => exact hcancelled
  | step _ hstep ih => exact cancelled_step? hstep ih
  | surroundings _ hscope ih => exact hscope ih
  | stops => rfl

theorem Leads.ongoing (hleads : p.Leads q) (hongoing : q.scope.cancelled = false) :
    p.scope.cancelled = false := by
  by_contra hcancelled
  rw [hleads.cancelled (by simpa using hcancelled)] at hongoing
  cases hongoing

/-! ## Starved pools -/

/-- Nobody in a starved pool takes a step. -/
theorem Starved.step?_eq_none (hstarved : p.Starved) (hongoing : p.scope.cancelled = false)
    (hgoing : ∃ w ∈ p.workers, w.isGone = false) (handler : Handler) (move : Move) :
    p.step? handler move = none := by
  cases hstep : p.step? handler move with
  | none => rfl
  | some p' =>
    exfalso
    rcases step?_cases hstep with ⟨_, i, w, w', q, hw, hmove, _⟩ | ⟨hgone, _, _⟩
    · -- whoever moved has waited for a permit, and there is none
      rcases hstarved.waits w (List.mem_of_getElem? hw) hmove.isGone_eq_false with ⟨r, hphase⟩
      rcases hstarved.full with ⟨s, hs, hfull⟩
      cases hmove with
      | acquires _ hsome hfree =>
        rw [hs] at hsome
        cases hsome
        exact absurd hfree (Nat.not_lt.2 hfull)
      | quits hcancelled _ =>
        rw [hongoing] at hcancelled
        cases hcancelled
      | _ => simp_all
    · -- and whoever waits has not ended
      rcases hgoing with ⟨w, hw, hgoing⟩
      have hall : p.workers.all Worker.isGone = true := (Bool.and_eq_true_iff.1 hgone).2
      rw [List.all_eq_true.1 hall w hw] at hgoing
      cases hgoing

/-- As long as nobody cancels it, a starved pool keeps its workers as they are. -/
theorem Starved.workers_eq (hstarved : p.Starved) (hgoing : ∃ w ∈ p.workers, w.isGone = false)
    (hleads : p.Leads q) (hongoing : q.scope.cancelled = false) : q.workers = p.workers := by
  -- what waits and what it waits for are both kept
  have hkept : q.workers = p.workers ∧ q.semaphore = p.semaphore := by
    induction hleads with
    | refl => exact ⟨rfl, rfl⟩
    | @step q q' handler move _ hstep ih =>
      have hbefore := (Leads.refl.step hstep).ongoing hongoing
      rcases ih hbefore with ⟨hworkers, hsemaphore⟩
      have hstill : q.Starved := ⟨hsemaphore ▸ hstarved.full, hworkers ▸ hstarved.waits⟩
      rw [hstill.step?_eq_none hbefore (hworkers ▸ hgoing) handler move] at hstep
      cases hstep
    | surroundings _ hscope ih => exact ih ((Leads.refl.surroundings hscope).ongoing hongoing)
    | stops => cases hongoing
  exact hkept.1

/-! ## Who holds the permits -/

/-- The permits of a capped pool are with the living that have taken one and not given it back, and
with the dead.  So whoever asks for a permit gets one in the end unless all permits are with the
dead; then whoever is left waits for ever.  As long as nobody has died, no permit is lost. -/
theorem permits_are_accounted_for {options : PoolOptions} (hcap : options.maxActive ≠ 0)
    (hbelow : options.maxActive < options.workerCount) {scope : Scope} {input : Channel Record}
    (hleads : (ofOptions options scope input).start.1.Leads p) :
    (∃ s, p.semaphore = some s ∧ s.limit = options.maxActive ∧ s.held ≤ s.limit ∧
      s.held = p.holders + p.casualties) ∧
    (p.results.offer = .accepted → (∃ w ∈ p.workers, w.isGone = false) → ∀ handler,
      (∃ i < p.workers.length, (p.advance? handler i).isSome) ∨
        (p.input.queue = [] ∧ p.input.closed = false) ∨
        (p.Starved ∧ p.casualties = options.maxActive ∧
          ∀ q, p.Leads q → q.scope.cancelled = false → q.workers = p.workers)) := by
  have hlimit : options.activeLimit? = some options.maxActive := by
    unfold PoolOptions.activeLimit?
    exact if_neg (by omega)
  have hbalanced : p.Balanced :=
    hleads.balanced ((balanced_ofOptions options scope input).congr rfl rfl)
  have hcapped : p.Capped (some options.maxActive) := by
    have hstart := capped_ofOptions options scope input
    rw [hlimit] at hstart
    exact hleads.capped ⟨hstart.limit, hstart.held⟩
  rcases Option.map_eq_some_iff.1 hcapped.limit with ⟨s, hs, hslimit⟩
  have hheld := hbalanced.held_eq hs
  have hle := hcapped.held s hs
  refine ⟨⟨s, hs, hslimit, hle, hheld⟩, ?_⟩
  intro hroom hgoing handler
  rcases exists_advance_or_starved handler hbalanced hroom hgoing with
    hadvance | hrecords | hstarved
  · exact .inl hadvance
  · exact .inr (.inl hrecords)
  · -- nobody alive holds a permit, and none is free
    have hdead : p.casualties = options.maxActive := by
      rcases hstarved.full with ⟨t, ht, hfull⟩
      rw [hs] at ht
      cases ht
      rw [hstarved.holders_eq_zero, Nat.zero_add] at hheld
      omega
    exact .inr (.inr ⟨hstarved, hdead, fun q hq => hstarved.workers_eq hgoing hq⟩)

end Pool

namespace Service

variable {handler : Handler} {s t : Service}

/-- A service does to its pool what a pool can come to. -/
theorem Turns.leads {move : Move} (hturn : s.Turns handler move t) : s.pool.Leads t.pool := by
  cases hturn with
  | works hstep => exact .step .refl hstep
  | feeds | closes | takesResult | takesError => exact .surroundings .refl id

theorem leads_of_run {moves : List Move} (h : s.run handler moves = some t) :
    s.pool.Leads t.pool := by
  induction moves generalizing s with
  | nil =>
    cases h
    exact .refl
  | cons move rest ih =>
    rcases Option.bind_eq_some_iff.1 h with ⟨next, hnext, hrest⟩
    exact (turns_of_step? hnext).leads.trans (ih hrest)

/-- A processor that breaks off on some records. -/
def fragile : Processor := fun _ r =>
  ⟨if r.fields = ["panic"] then .crashed else .success r.toJson, false, none⟩

/-- A record that the processor breaks off on, and two behind it. -/
def fragileRecords : List Record :=
  [⟨1, "a.csv", ["panic"], none⟩, ⟨2, "a.csv", ["x"], none⟩, ⟨3, "a.csv", ["y"], none⟩]

/-- An order in which the first worker goes down with the first record, and the second one asks for
a permit and, some steps later, has come as far as it can. -/
def fragileMoves (steps : Nat) : List Move :=
  let advances (worker count : Nat) : List Move :=
    List.replicate count (.work (.advance worker))
  List.flatten [[.feed], advances 0 6, [.feed], advances 1 (3 + steps), [.feed]]

/-- With a second permit the pool goes on, with one permit at work and one with the dead. -/
theorem fragile_permits :
    ∃ s, (ofRecords ⟨3, 1, 1, 2⟩ 1 fragileRecords).run fragile (fragileMoves 2) = some s ∧
      s.pool.holders = 1 ∧ s.pool.casualties = 1 ∧
      ∃ permits, s.pool.semaphore = some permits ∧ permits.held = 1 + 1 := by
  have hends : ((ofRecords ⟨3, 1, 1, 2⟩ 1 fragileRecords).run fragile (fragileMoves 2)).map
      (fun s => (s.pool.holders, s.pool.casualties)) = some (1, 1) := by
    decide +kernel
  rcases Option.map_eq_some_iff.1 hends with ⟨s, hrun, hstate⟩
  rcases Prod.mk.inj hstate with ⟨hholders, hcasualties⟩
  have hcap : PoolOptions.maxActive ⟨3, 1, 1, 2⟩ ≠ 0 := by decide
  have hbelow : PoolOptions.maxActive ⟨3, 1, 1, 2⟩ < PoolOptions.workerCount ⟨3, 1, 1, 2⟩ := by
    decide
  rcases (Pool.permits_are_accounted_for hcap hbelow (leads_of_run hrun)).1 with
    ⟨permits, hpermits, _, _, hheld⟩
  rw [hholders, hcasualties] at hheld
  exact ⟨s, hrun, hholders, hcasualties, permits, hpermits, hheld⟩

/-- With one permit the pool is stuck: a worker is left, records are left, and nobody is at work,
but the permit is in use and nothing can move. -/
theorem fragile_starves :
    ∃ s, (ofRecords ⟨2, 1, 1, 1⟩ 1 fragileRecords).run fragile (fragileMoves 1) = some s ∧
      s.pool.scope.cancelled = false ∧ (∃ w ∈ s.pool.workers, w.isGone = false) ∧
      s.pool.input.queue ≠ [] ∧ s.pool.results.offer = .accepted ∧
      s.pool.semaphore = some ⟨1, 1⟩ ∧ s.pool.holders = 0 ∧
      ∀ handler move, s.pool.step? handler move = none := by
  have hends : ((ofRecords ⟨2, 1, 1, 1⟩ 1 fragileRecords).run fragile (fragileMoves 1)).map
      (fun s => ((s.pool.scope.cancelled, s.pool.workers.any (fun w => !w.isGone),
        (List.range s.pool.workers.length).any (fun i => (s.pool.advance? fragile i).isSome)),
        s.pool.input.queue, s.pool.results.offer, s.pool.semaphore, s.pool.holders)) =
      some ((false, true, false), [⟨3, "a.csv", ["y"], none⟩], .accepted, some ⟨1, 1⟩, 0) := by
    decide +kernel
  rcases Option.map_eq_some_iff.1 hends with ⟨s, hrun, hstate⟩
  simp only [Prod.mk.injEq] at hstate
  rcases hstate with ⟨⟨hongoing, hany, hnobody⟩, hqueue, hroom, hsemaphore, hholders⟩
  have hgoing : ∃ w ∈ s.pool.workers, w.isGone = false := by
    simpa using hany
  have hrecords : s.pool.input.queue ≠ [] := by simp [hqueue]
  have hbalanced : s.pool.Balanced :=
    (leads_of_run hrun).balanced (sound_ofRecords _ Nat.one_pos _).balanced
  -- nobody goes on, and not for want of a record
  have hstarved : s.pool.Starved := by
    rcases Pool.exists_advance_or_starved fragile hbalanced hroom hgoing with
      ⟨i, hi, hadvance⟩ | ⟨hnone, _⟩ | hstarved
    · have hnot := List.any_eq_false.1 hnobody i (List.mem_range.2 hi)
      exact absurd hadvance hnot
    · exact absurd hnone hrecords
    · exact hstarved
  exact ⟨s, hrun, hongoing, hgoing, hrecords, hroom, hsemaphore, hholders,
    hstarved.step?_eq_none hongoing hgoing⟩

end Service
end RecordFlow
