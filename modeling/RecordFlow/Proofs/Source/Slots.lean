import Mathlib.Data.List.Forall2
import Mathlib.Data.Nat.Find
import RecordFlow.Proofs.Source.Session

/-!
# Slots — what the sources tell each other about their headers

A source shares its header with the later ones when it has one that is to be compared.  What a task
publishes is the truth about its source, and a task that has ended has published something, whatever
the order of the steps and whether or not the scope is cancelled (`Session.told_of_reaches`).  So
the scan of the earlier slots finds the first shared header or waits
(`Session.firstShared?_of_bound`, `Session.firstShared?_of_free`), and the earliest task that has
not ended never waits for another one (`Session.not_waits_of_ended_before`).
-/

namespace RecordFlow
namespace Source

/-! ## Shared headers -/

/-- A source that opens goes by its name, and its header is the first row or none at all. -/
theorem Opened.ofPath_cases {options : Options} {files : Files} {name : String} {p : Path}
    {o : Opened} (h : Opened.ofPath options files name p = .ok o) :
    o.name = name ∧ (options.hasHeader = true ↔ o.header.isSome = true) := by
  unfold Opened.ofPath at h
  split at h
  · cases h
  · unfold Opened.ofTokens at h
    split at h
    · rename_i hheader
      split at h
      · cases h
      · cases h
      · split at h
        · cases h
        · cases h
          exact ⟨rfl, by simp [hheader]⟩
    · rename_i hheader
      cases h
      exact ⟨rfl, by simp [hheader]⟩

/-- The header that a source shares with the later ones. -/
def shared? (options : Options) : Except FlowError Opened → Option (List String)
  | .ok o => o.agreed? options
  | .error _ => none

/-- The first header that a list of sources shares. -/
def firstShared? (options : Options) (sources : List (Except FlowError Opened)) :
    Option (List String) :=
  sources.findSome? (shared? options)

/-- What there is to tell about a source. -/
def truth (options : Options) (source : Except FlowError Opened) : Slot :=
  match shared? options source with
  | some header => .ready header
  | none => .failed

/-- `header` is shared by a source before place `k`, and no source before that one shares any. -/
def IsFirstBefore (options : Options) (sources : List (Except FlowError Opened)) (k : Nat)
    (header : List String) : Prop :=
  ∃ i < k, sources[i]?.bind (shared? options) = some header ∧
    ∀ j < i, sources[j]?.bind (shared? options) = none

theorem firstShared?_take_succ (options : Options) (sources : List (Except FlowError Opened))
    (k : Nat) :
    firstShared? options (sources.take (k + 1)) =
      (firstShared? options (sources.take k)).or (sources[k]?.bind (shared? options)) := by
  rw [List.take_add_one, firstShared?, List.findSome?_append]
  cases sources[k]? with
  | none => simp [firstShared?]
  | some source => simp [firstShared?]

/-- The first shared header before a place is the one that the definition asks for. -/
theorem firstShared?_take_eq_none_iff (options : Options)
    (sources : List (Except FlowError Opened)) (k : Nat) :
    firstShared? options (sources.take k) = none ↔
      ∀ i < k, sources[i]?.bind (shared? options) = none := by
  induction k with
  | zero => simp [firstShared?]
  | succ k ih =>
    rw [firstShared?_take_succ, Option.or_eq_none_iff, ih]
    constructor
    · intro h i hi
      rcases Nat.lt_succ_iff_lt_or_eq.1 hi with hlt | rfl
      · exact h.1 i hlt
      · exact h.2
    · intro h
      exact ⟨fun i hi => h i (by omega), h k (by omega)⟩

theorem firstShared?_take_eq_some_iff (options : Options)
    (sources : List (Except FlowError Opened)) (k : Nat) (header : List String) :
    firstShared? options (sources.take k) = some header ↔
      IsFirstBefore options sources k header := by
  -- on the place: the header was found before it, or the source just before it has the first one
  induction k with
  | zero => simp [firstShared?, IsFirstBefore]
  | succ k ih =>
    rw [firstShared?_take_succ]
    cases hk : firstShared? options (sources.take k) with
    | some first =>
      have hfirst : IsFirstBefore options sources k header ↔ first = header := by
        rw [← ih, hk]; simp
      rw [Option.some_or]
      constructor
      · intro h
        rcases hfirst.2 (by simpa using h) with ⟨i, hi, hheader, hbefore⟩
        exact ⟨i, by omega, hheader, hbefore⟩
      · rintro ⟨i, hi, hheader, hbefore⟩
        rcases Nat.lt_succ_iff_lt_or_eq.1 hi with hlt | rfl
        · simpa using hfirst.1 ⟨i, hlt, hheader, hbefore⟩
        · -- no source before place `k` shares a header, although `first` was found there
          have hnone := (firstShared?_take_eq_none_iff options sources i).2 hbefore
          rw [hk] at hnone
          cases hnone
    | none =>
      have hbefore := (firstShared?_take_eq_none_iff options sources k).1 hk
      rw [Option.none_or]
      constructor
      · intro h
        exact ⟨k, by omega, h, hbefore⟩
      · rintro ⟨i, hi, hheader, _⟩
        rcases Nat.lt_succ_iff_lt_or_eq.1 hi with hlt | rfl
        · rw [hbefore i hlt] at hheader
          cases hheader
        · exact hheader

theorem firstShared?_of_take {options : Options} {sources : List (Except FlowError Opened)}
    {k : Nat} {header : List String} (h : firstShared? options (sources.take k) = some header) :
    firstShared? options sources = some header := by
  have hsplit : firstShared? options (sources.take k ++ sources.drop k) = some header := by
    rw [firstShared?, List.findSome?_append]
    rw [firstShared?] at h
    rw [h, Option.some_or]
  rwa [List.take_append_drop] at hsplit

/-! ## What a slot tells -/

/-- Whether a task has told what there is to tell, because it reports its error or has ended. -/
def Task.hasTold : Task → Bool
  | .offering (.failure _) _ | .sending (.failure _) _ | .finished => true
  | _ => false

/-- What the slot of a source tells while its task goes on. -/
structure Told (options : Options) (p : Session.Place) : Prop where
  truthful : p.slot ≠ .pending → p.slot = truth options p.source
  opening : ∀ source, p.task = .opening source → source = p.source
  comparing : ∀ o, p.task = .comparing o → p.source = .ok o ∧ (o.agreed? options).isSome
  early : (∀ source, p.task ≠ .opening source) → (shared? options p.source).isSome →
    p.slot ≠ .pending
  late : p.task.hasTold → p.slot ≠ .pending

theorem Slot.fill_ne_pending {old : Slot} {new : Option Slot} (h : new ≠ some .pending) :
    old.fill new ≠ .pending ↔ old ≠ .pending ∨ new.isSome := by
  cases new with
  | none => simp [fill]
  | some new =>
    by_cases hold : old = .pending
    · have hnew : new ≠ .pending := fun hnew => h (by rw [hnew])
      simp [fill, hold, hnew]
    · simp [fill, hold]

/-- A truthful slot stays so when it is filled with the truth, or has been filled before. -/
theorem Slot.truthful_fill {options : Options} {source : Except FlowError Opened} {old : Slot}
    {new : Option Slot} (hold : old ≠ .pending → old = truth options source)
    (hnew : ∀ slot, new = some slot → old = .pending → slot = truth options source) :
    old.fill new ≠ .pending → old.fill new = truth options source := by
  intro h
  cases new with
  | none => exact hold h
  | some new =>
    by_cases hpending : old = .pending
    · simpa [fill, hpending] using hnew new rfl hpending
    · simpa [fill, hpending] using hold hpending

/-- The task behind a look between two rows neither opens nor compares, and has told nothing. -/
theorem Task.afterLook_cases (cancelled : Bool) (rest : List Emission) :
    (∃ failure, Task.afterLook cancelled rest = .closing failure) ∨
      ∃ e rest', cancelled = false ∧ rest = e :: rest' ∧ (∀ error, e ≠ .failure error) ∧
        Task.afterLook cancelled rest = .offering e rest' := by
  cases rest with
  | nil => exact .inl ⟨none, rfl⟩
  | cons e rest =>
    cases cancelled with
    | true => exact .inl ⟨none, rfl⟩
    | false =>
      cases e with
      | failure error => exact .inl ⟨some error, rfl⟩
      | record r => exact .inr ⟨_, rest, rfl, rfl, by simp, rfl⟩
      | rejected error r => exact .inr ⟨_, rest, rfl, rfl, by simp, rfl⟩

namespace Told

variable {options : Options} {source : Except FlowError Opened} {slot : Slot}
  {emitted : List Emission} {cancelled attended : Bool}

theorem initial (options : Options) (source : Except FlowError Opened) :
    Told options (.initial source) where
  truthful := by simp [Session.Place.initial]
  opening := by
    intro source' h
    cases h
    rfl
  comparing := by
    intro o h
    cases h
  early := fun h _ => absurd rfl (h source)
  late := by
    intro h
    cases h

/-- A task that neither opens nor compares owes nothing but what its slot tells. -/
theorem of_told {t : Task} (truthful : slot ≠ .pending → slot = truth options source)
    (opening : ∀ source', t ≠ .opening source') (comparing : ∀ o, t ≠ .comparing o)
    (early : (shared? options source).isSome → slot ≠ .pending)
    (late : t.hasTold → slot ≠ .pending) :
    Told options ⟨source, t, slot, emitted, cancelled, attended⟩ where
  truthful := truthful
  opening := fun source' h => absurd h (opening source')
  comparing := fun o h => absurd h (comparing o)
  early := fun _ => early
  late := late

/-- A move that publishes nothing keeps what a slot tells, as long as the source does not open. -/
theorem of_silent {t t' : Task}
    (h : Told options ⟨source, t, slot, emitted, cancelled, attended⟩)
    (before : ∀ source', t ≠ .opening source') (opening : ∀ source', t' ≠ .opening source')
    (comparing : ∀ o, t' ≠ .comparing o) (late : t'.hasTold → t.hasTold)
    (emitted' : List Emission) :
    Told options ⟨source, t', slot, emitted', cancelled, attended⟩ :=
  of_told h.truthful opening comparing (fun hshared => h.early before hshared)
    fun ht => h.late (late ht)

/-- Telling that no header comes is the truth, or is told too late to be noticed. -/
theorem of_failed {t t' : Task}
    (h : Told options ⟨source, t, slot, emitted, cancelled, attended⟩)
    (before : ∀ source', t ≠ .opening source') (opening : ∀ source', t' ≠ .opening source')
    (comparing : ∀ o, t' ≠ .comparing o) {emitted' : List Emission} :
    Told options
      ⟨source, t', slot.fill (some .failed), emitted', cancelled, attended⟩ := by
  have hfilled : slot.fill (some .failed) ≠ .pending :=
    (Slot.fill_ne_pending (by simp)).2 (.inr rfl)
  -- a source that shares a header has told it before, and the first publication stays
  refine of_told ?_ opening comparing (fun _ => hfilled) fun _ => hfilled
  refine Slot.truthful_fill h.truthful ?_
  intro slot' hslot' hpending
  cases hslot'
  cases hshared : shared? options source with
  | none => simp [truth, hshared]
  | some header => exact absurd hpending (h.early before (by simp [hshared]))

theorem of_moves {t t' : Task} {known : Agreement} {offer : Emission → Offer} {new : Option Slot}
    {e : Option Emission} (h : Told options ⟨source, t, slot, emitted, cancelled, attended⟩)
    (hmove : t.Moves options cancelled known offer t' new e) :
    Told options ⟨source, t', slot.fill new, emitted ++ e.toList, cancelled, attended⟩ := by
  cases hmove with
  | openFails error =>
    cases h.opening _ rfl
    exact of_told h.truthful (by simp) (by simp) (by simp [shared?]) (by simp [Task.hasTold])
  | @openShares o header ha =>
    cases h.opening _ rfl
    have hshared : shared? options (.ok o) = some header := ha
    have hfilled : slot.fill (some (.ready header)) ≠ .pending :=
      (Slot.fill_ne_pending (by simp)).2 (.inr rfl)
    -- what is told first is the truth, and what was told before it was the truth as well
    have htruth : slot.fill (some (.ready header)) ≠ .pending →
        slot.fill (some (.ready header)) = truth options (.ok o) := by
      refine Slot.truthful_fill h.truthful ?_
      intro slot' hslot' _
      cases hslot'
      simp [truth, hshared]
    refine ⟨htruth, by simp, ?_, fun _ _ => hfilled, fun _ => hfilled⟩
    intro o' ho'
    cases ho'
    exact ⟨rfl, by simp [ha]⟩
  | @openAlone o ha =>
    cases h.opening _ rfl
    have hshared : shared? options (.ok o) = none := ha
    exact of_told h.truthful (by simp) (by simp) (by simp [hshared]) (by simp [Task.hasTold])
  | agrees => exact h.of_silent (by simp) (by simp) (by simp) (by simp [Task.hasTold]) _
  | differs => exact h.of_silent (by simp) (by simp) (by simp) (by simp [Task.hasTold]) _
  | looks rest =>
    rcases Task.afterLook_cases cancelled rest with ⟨failure, hlook⟩ |
      ⟨e', rest', _, _, hrecord, hlook⟩
    · rw [hlook]
      exact h.of_silent (by simp) (by simp) (by simp) (by simp [Task.hasTold]) _
    · have htold : (Task.offering e' rest').hasTold = false := by
        cases e' with
        | failure error => exact absurd rfl (hrecord error)
        | record r => rfl
        | rejected error r => rfl
      rw [hlook]
      exact h.of_silent (by simp) (by simp) (by simp) (by simp [htold]) _
  | offers e' rest =>
    refine h.of_silent (by simp) ?_ ?_ ?_ _
    · cases cancelled <;> cases e' <;> simp [Task.givenUp]
    · cases cancelled <;> cases e' <;> simp [Task.givenUp]
    · cases cancelled <;> cases e' <;> simp [Task.givenUp, Task.hasTold]
  | @delivers e' rest =>
    cases e' <;> exact h.of_silent (by simp) (by simp [Task.delivered]) (by simp [Task.delivered])
      (by simp [Task.delivered, Task.hasTold]) _
  | @loses e' rest =>
    cases e' <;> exact h.of_silent (by simp) (by simp [Task.givenUp]) (by simp [Task.givenUp])
      (by simp [Task.givenUp, Task.hasTold]) _
  | @quits e' rest =>
    cases e' <;> exact h.of_silent (by simp) (by simp [Task.givenUp]) (by simp [Task.givenUp])
      (by simp [Task.givenUp, Task.hasTold]) _
  | ends => exact h.of_failed (by simp) (by simp) (by simp)
  | reports error => exact h.of_failed (by simp) (by simp) (by simp)

end Told

/-! ## What the scan of the slots finds -/

/-- The scan of truthful slots finds the first shared header, if it does not have to wait. -/
theorem agreement_of_truthful {options : Options} {slots : List Slot}
    {sources : List (Except FlowError Opened)}
    (h : List.Forall₂ (fun slot source => slot ≠ .pending → slot = truth options source)
      slots sources) :
    (∀ header, agreement slots = .bound header → firstShared? options sources = some header) ∧
      (agreement slots = .free → firstShared? options sources = none) := by
  -- along the slots, as the scan goes
  induction h with
  | nil => simp [agreement, firstShared?]
  | @cons slot source slots sources htruth _ ih =>
    cases slot with
    | pending => simp [agreement]
    | failed =>
      have hshared : shared? options source = none := by
        have := htruth (by simp)
        cases hs : shared? options source with
        | none => rfl
        | some header => simp [truth, hs] at this
      simpa [agreement, firstShared?, hshared] using ih
    | ready header =>
      have hshared : shared? options source = some header := by
        have := htruth (by simp)
        cases hs : shared? options source with
        | none => simp [truth, hs] at this
        | some header' => simpa [truth, hs, eq_comm] using this
      simp [agreement, firstShared?, hshared]

theorem agreement_ne_undecided {slots : List Slot} (h : ∀ slot ∈ slots, slot ≠ .pending) :
    agreement slots ≠ .undecided := by
  induction slots with
  | nil => simp [agreement]
  | cons slot slots ih =>
    cases slot with
    | pending => exact absurd rfl (h .pending (by simp))
    | failed => simpa [agreement] using ih fun slot hslot => h slot (by simp [hslot])
    | ready header => simp [agreement]

namespace Session

variable {options : Options} {sources : List (Except FlowError Opened)} {s : Session}

theorem told_of_reaches (h : Reaches (ofSources options sources) s) {i : Nat} {p : Place}
    (hp : s.Shows sources i p) : Told options p := by
  refine forall_places (P := fun _ p => Told options p) ?_ ?_ ?_ h hp
  · intro i source _
    exact Told.initial options source
  · intro i p cancelled attended _ _ ht
    exact ⟨ht.truthful, ht.opening, ht.comparing, ht.early, ht.late⟩
  · intro s i p t' slot e offer _ _ _ hmove ht
    exact ht.of_moves hmove

theorem slots_truthful (h : Reaches (ofSources options sources) s) (k : Nat) :
    List.Forall₂ (fun slot source => slot ≠ .pending → slot = truth options source)
      (s.reading.slots.take k) (sources.take k) := by
  -- slot by slot, from what holds at each place
  refine List.forall₂_take k (List.forall₂_iff_get.2 ⟨(length_of_reaches h).2, ?_⟩)
  intro i h₁ h₂
  rcases exists_shows h (List.getElem?_eq_getElem h₂) with ⟨p, hp, hsource⟩
  have hslot : s.reading.slots[i] = p.slot :=
    Option.some_inj.1 ((List.getElem?_eq_getElem h₁).symm.trans hp.slot)
  simpa [hslot, hsource] using (told_of_reaches h hp).truthful

/-- A bound scan gives the first header that an earlier source shares. -/
theorem firstShared?_of_bound (h : Reaches (ofSources options sources) s) {k : Nat}
    {header : List String} (hk : agreement (s.reading.slots.take k) = .bound header) :
    firstShared? options (sources.take k) = some header :=
  (agreement_of_truthful (slots_truthful h k)).1 header hk

/-- A free scan means that no earlier source shares a header. -/
theorem firstShared?_of_free (h : Reaches (ofSources options sources) s) {k : Nat}
    (hk : agreement (s.reading.slots.take k) = .free) :
    firstShared? options (sources.take k) = none :=
  (agreement_of_truthful (slots_truthful h k)).2 hk

/-- What a task hears that has not been released is the first header before its place. -/
theorem firstShared?_of_hears (h : Reaches (ofSources options sources) s) {k : Nat}
    {expected : Option (List String)}
    (hk : Hears false (agreement (s.reading.slots.take k)) expected) :
    firstShared? options (sources.take k) = expected := by
  generalize hknown : agreement (s.reading.slots.take k) = known at hk
  cases hk with
  | bound header => exact firstShared?_of_bound h hknown
  | free => exact firstShared?_of_free h hknown
  | released hc => cases hc

/-- Without cancellation a source is compared with the first header before its place. -/
theorem compared_of_advance? (h : Reaches (ofSources options sources) s)
    (hcancelled : s.scope.cancelled = false) {k : Nat} {o : Opened} {offer : Emission → Offer}
    {reading : Reading} {e : Option Emission}
    (htask : s.reading.tasks[k]? = some (.comparing o))
    (hstep : s.reading.advance? s.scope offer k = some (reading, e)) :
    reading = s.reading.compared k o (firstShared? options (sources.take k)) := by
  have hcompared : ∀ expected,
      s.reading.compared k o expected = reading ∧ none = e →
      Hears false (agreement (s.reading.slots.take k)) expected →
      reading = s.reading.compared k o (firstShared? options (sources.take k)) := by
    rintro expected ⟨hreading, _⟩ hhears
    rw [firstShared?_of_hears h hhears, hreading]
  cases hk : agreement (s.reading.slots.take k) with
  | bound header =>
    exact hcompared (some header) (by simpa [Reading.advance?, htask, hk] using hstep)
      (hk ▸ .bound header)
  | free =>
    exact hcompared none (by simpa [Reading.advance?, htask, hk] using hstep) (hk ▸ .free)
  | undecided => simp [Reading.advance?, htask, hk, hcancelled] at hstep

/-! ## Nobody waits for ever -/

/-- Whether task `i` waits for what the earlier sources have to tell. -/
def Waits (s : Session) (i : Nat) : Prop :=
  (∃ o, s.reading.tasks[i]? = some (.comparing o)) ∧
    agreement (s.reading.slots.take i) = .undecided

/-- A task whose earlier tasks have all ended does not wait. -/
theorem not_waits_of_ended_before (h : Reaches (ofSources options sources) s) {i : Nat}
    (hbefore : ∀ j < i, s.reading.tasks[j]? = some .finished) : ¬ s.Waits i := by
  rintro ⟨_, hundecided⟩
  refine agreement_ne_undecided ?_ hundecided
  intro slot hslot
  rcases List.getElem_of_mem hslot with ⟨j, hj, rfl⟩
  have hji : j < i := by
    have := hj
    rw [List.length_take] at this
    omega
  -- an earlier task has ended, and before that it has told
  rcases exists_shows_of_task h (hbefore j hji) with ⟨p, hp, htask⟩
  have htold : p.slot ≠ .pending := (told_of_reaches h hp).late (by simp [htask, Task.hasTold])
  have hlt : j < s.reading.slots.length := (List.getElem?_eq_some_iff.1 hp.slot).1
  have hslot : s.reading.slots[j] = p.slot :=
    Option.some_inj.1 ((List.getElem?_eq_getElem hlt).symm.trans hp.slot)
  simpa [hslot] using htold

theorem exists_earliest_unfinished {r : Reading} (h : r.isFinished = false) :
    ∃ (i : Nat) (t : Task), r.tasks[i]? = some t ∧ t.isFinished = false ∧
      ∀ j < i, r.tasks[j]? = some .finished := by
  have hex : ∃ (i : Nat) (t : Task), r.tasks[i]? = some t ∧ t.isFinished = false := by
    have : ∃ t ∈ r.tasks, t.isFinished = false := by simpa [Reading.isFinished] using h
    rcases this with ⟨t, ht, hunfinished⟩
    rcases List.getElem?_of_mem ht with ⟨i, hi⟩
    exact ⟨i, t, hi, hunfinished⟩
  classical
  rcases Nat.find_spec hex with ⟨t, ht, hunfinished⟩
  refine ⟨Nat.find hex, t, ht, hunfinished, ?_⟩
  intro j hj
  have hlt : j < r.tasks.length := by
    have := (List.getElem?_eq_some_iff.1 ht).1
    omega
  have hfinished : r.tasks[j].isFinished ≠ false := fun hfalse =>
    Nat.find_min hex hj ⟨_, List.getElem?_eq_getElem hlt, hfalse⟩
  have hended : r.tasks[j] = .finished := by
    cases htask : r.tasks[j] <;> simp_all [Task.isFinished]
  rw [List.getElem?_eq_getElem hlt, hended]

/-- A task that has not ended and does not wait takes a step when the streams have room. -/
theorem advance?_isSome {i : Nat} {t : Task} (ht : s.reading.tasks[i]? = some t)
    (hunfinished : t.isFinished = false) (hwaits : ¬ s.Waits i) {offer : Emission → Offer}
    (hoffer : ∀ e rest, t = .sending e rest → offer e ≠ .full) :
    (s.reading.advance? s.scope offer i).isSome := by
  cases t with
  | opening source => simp [Reading.advance?, ht]
  | comparing o =>
    cases hk : agreement (s.reading.slots.take i) with
    | undecided => exact absurd ⟨⟨o, ht⟩, hk⟩ hwaits
    | free => simp [Reading.advance?, ht, hk]
    | bound header => simp [Reading.advance?, ht, hk]
  | reading rest => simp [Reading.advance?, ht]
  | offering e rest => simp [Reading.advance?, ht]
  | sending e rest =>
    cases ho : offer e with
    | full => exact absurd ho (hoffer e rest rfl)
    | accepted => simp [Reading.advance?, ht, ho]
    | refused => simp [Reading.advance?, ht, ho]
  | closing failure => simp [Reading.advance?, ht]
  | finished => cases hunfinished

end Session

end Source
end RecordFlow
