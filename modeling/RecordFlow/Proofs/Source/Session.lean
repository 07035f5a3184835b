import Mathlib.Logic.Relation
import RecordFlow.Pool.Basic
import RecordFlow.Source.Reading

/-!
# Session — the steps of all sources under one scope

A reading leaves open when its scope is cancelled and what its streams have room for.  A session
adds both: the scope, whether the streams still have receivers, and what the sources have emitted so
far.  Tasks take their steps in any order, the scope is cancelled at any time, and the receivers
leave at any time.

* `Task.Moves` lists what one step does to a task, one constructor for each kind of step,
* `Session.Step` is one step of a session,
* `Session.step_cases` says everything that a step can do.
-/

namespace RecordFlow
namespace Source

/-- The slot that a publication leaves, where the first one stays. -/
def Slot.fill (old : Slot) (new : Option Slot) : Slot :=
  match new with
  | some new => if old = .pending then new else old
  | none => old

/-- The error that an emission puts on the stream of errors. -/
def Emission.rejection? : Emission → Option RecordError
  | .record _ => none
  | .rejected error r => some ⟨error, some r⟩
  | .failure error => some ⟨error, none⟩

/-! ## Moves of one task -/

/-- Whether `expected` is what a comparison is made with: the header that the earlier sources have
agreed on, none if there is none, and none as well for a task released by the cancellation. -/
inductive Hears (cancelled : Bool) : Agreement → Option (List String) → Prop where
  | bound (header : List String) : Hears cancelled (.bound header) (some header)
  | free : Hears cancelled .free none
  | released : cancelled = true → Hears cancelled .undecided none

/-- One step of a task: the task it becomes, the slot it publishes, and what it emits. -/
inductive Task.Moves (options : Options) (cancelled : Bool) (known : Agreement)
    (offer : Emission → Offer) : Task → Task → Option Slot → Option Emission → Prop where
  | openFails (error : FlowError) :
      Moves options cancelled known offer
        (.opening (.error error)) (.closing (some error)) none none
  | openShares {o : Opened} {header : List String} :
      o.agreed? options = some header →
      Moves options cancelled known offer
        (.opening (.ok o)) (.comparing o) (some (.ready header)) none
  | openAlone {o : Opened} :
      o.agreed? options = none →
      Moves options cancelled known offer
        (.opening (.ok o)) (.reading (o.body options)) none none
  | agrees {o : Opened} {expected : Option (List String)} :
      Hears cancelled known expected → o.mismatch? expected = none →
      Moves options cancelled known offer
        (.comparing o) (.reading (o.body options)) none none
  | differs {o : Opened} {expected : Option (List String)} {error : FlowError} :
      Hears cancelled known expected → o.mismatch? expected = some error →
      Moves options cancelled known offer
        (.comparing o) (.closing (some error)) none none
  | looks (rest : List Emission) :
      Moves options cancelled known offer
        (.reading rest) (Task.afterLook cancelled rest) none none
  | offers (e : Emission) (rest : List Emission) :
      Moves options cancelled known offer
        (.offering e rest) (if cancelled then Task.givenUp e else .sending e rest) none none
  | delivers {e : Emission} (rest : List Emission) :
      offer e = .accepted →
      Moves options cancelled known offer
        (.sending e rest) (Task.delivered e rest) none (some e)
  | loses {e : Emission} (rest : List Emission) :
      offer e = .refused →
      Moves options cancelled known offer
        (.sending e rest) (Task.givenUp e) none none
  | quits {e : Emission} (rest : List Emission) :
      cancelled = true →
      Moves options cancelled known offer
        (.sending e rest) (Task.givenUp e) none none
  | ends :
      Moves options cancelled known offer
        (.closing none) .finished (some .failed) none
  | reports (error : FlowError) :
      Moves options cancelled known offer
        (.closing (some error)) (.offering (.failure error) []) (some .failed) none

namespace Reading

/-- Puts what a move makes of task `i` and of its slot into a reading. -/
def place (r : Reading) (i : Nat) (t : Task) (slot : Option Slot) : Reading :=
  { r with
    tasks := r.tasks.set i t
    slots := match slot with
      | some slot => Source.publish i slot r.slots
      | none => r.slots }

/-- A step of a reading is a move of one of its tasks. -/
theorem advance?_cases {r r' : Reading} {scope : Scope} {offer : Emission → Offer} {i : Nat}
    {e : Option Emission} (h : r.advance? scope offer i = some (r', e)) :
    ∃ t t' slot, r.tasks[i]? = some t ∧
      t.Moves r.options scope.cancelled (agreement (r.slots.take i)) offer t' slot e ∧
      r' = r.place i t' slot := by
  cases ht : r.tasks[i]? with
  | none => simp [advance?, ht] at h
  | some t =>
    refine ⟨t, ?_⟩
    cases t with
    | opening source =>
      cases source with
      | error error =>
        have : r.setTask i (.closing (some error)) = r' ∧ none = e := by
          simpa [advance?, ht, opened] using h
        rcases this with ⟨rfl, rfl⟩
        exact ⟨_, none, rfl, .openFails error, rfl⟩
      | ok o =>
        cases ha : o.agreed? r.options with
        | some header =>
          have : (r.publish i (.ready header)).setTask i (.comparing o) = r' ∧ none = e := by
            simpa [advance?, ht, opened, ha] using h
          rcases this with ⟨rfl, rfl⟩
          exact ⟨_, some _, rfl, .openShares ha, rfl⟩
        | none =>
          have : r.setTask i (.reading (o.body r.options)) = r' ∧ none = e := by
            simpa [advance?, ht, opened, ha] using h
          rcases this with ⟨rfl, rfl⟩
          exact ⟨_, none, rfl, .openAlone ha, rfl⟩
    | comparing o =>
      -- what it hears comes first, then what it makes of it
      have hears : ∃ expected, Hears scope.cancelled (agreement (r.slots.take i)) expected ∧
          r.compared i o expected = r' ∧ none = e := by
        cases hk : agreement (r.slots.take i) with
        | bound header =>
          exact ⟨some header, .bound header, by simpa [advance?, ht, hk] using h⟩
        | free => exact ⟨none, .free, by simpa [advance?, ht, hk] using h⟩
        | undecided =>
          cases hc : scope.cancelled with
          | true => exact ⟨none, .released rfl, by simpa [advance?, ht, hk, hc] using h⟩
          | false => simp [advance?, ht, hk, hc] at h
      rcases hears with ⟨expected, hears, rfl, rfl⟩
      cases hm : o.mismatch? expected with
      | some error =>
        exact ⟨_, none, rfl, .differs hears hm, by simp [compared, hm, setTask, place]⟩
      | none => exact ⟨_, none, rfl, .agrees hears hm, by simp [compared, hm, setTask, place]⟩
    | reading rest =>
      have : r.setTask i (Task.afterLook scope.cancelled rest) = r' ∧ none = e := by
        simpa [advance?, ht] using h
      rcases this with ⟨rfl, rfl⟩
      exact ⟨_, none, rfl, .looks rest, rfl⟩
    | offering e₀ rest =>
      have : r.setTask i (if scope.cancelled then Task.givenUp e₀ else .sending e₀ rest) = r' ∧
          none = e := by
        simpa [advance?, ht] using h
      rcases this with ⟨rfl, rfl⟩
      exact ⟨_, none, rfl, .offers e₀ rest, rfl⟩
    | sending e₀ rest =>
      cases ho : offer e₀ with
      | accepted =>
        have : r.setTask i (Task.delivered e₀ rest) = r' ∧ some e₀ = e := by
          simpa [advance?, ht, ho] using h
        rcases this with ⟨rfl, rfl⟩
        exact ⟨_, none, rfl, .delivers rest ho, rfl⟩
      | full => simp [advance?, ht, ho] at h
      | refused =>
        have : r.setTask i (Task.givenUp e₀) = r' ∧ none = e := by
          simpa [advance?, ht, ho] using h
        rcases this with ⟨rfl, rfl⟩
        exact ⟨_, none, rfl, .loses rest ho, rfl⟩
    | closing failure =>
      cases failure with
      | none =>
        have : (r.publish i .failed).setTask i .finished = r' ∧ none = e := by
          simpa [advance?, ht] using h
        rcases this with ⟨rfl, rfl⟩
        exact ⟨_, some _, rfl, .ends, rfl⟩
      | some error =>
        have : (r.publish i .failed).setTask i (.offering (.failure error) []) = r' ∧ none = e := by
          simpa [advance?, ht] using h
        rcases this with ⟨rfl, rfl⟩
        exact ⟨_, some _, rfl, .reports error, rfl⟩
    | finished => simp [advance?, ht] at h

theorem quit?_cases {r r' : Reading} {scope : Scope} {i : Nat} (offer : Emission → Offer)
    (h : r.quit? scope i = some r') :
    ∃ t t' slot, r.tasks[i]? = some t ∧
      t.Moves r.options scope.cancelled (agreement (r.slots.take i)) offer t' slot none ∧
      r' = r.place i t' slot := by
  cases ht : r.tasks[i]? with
  | none => simp [quit?, ht] at h
  | some t =>
    cases t with
    | sending e rest =>
      cases hc : scope.cancelled with
      | true =>
        have : r.setTask i (Task.givenUp e) = r' := by simpa [quit?, ht, hc] using h
        exact ⟨_, _, none, rfl, .quits rest rfl, this.symm⟩
      | false => simp [quit?, ht, hc] at h
    | _ => simp [quit?, ht] at h

@[simp]
theorem length_tasks_place (r : Reading) (i : Nat) (t : Task) (slot : Option Slot) :
    (r.place i t slot).tasks.length = r.tasks.length := by
  simp [place]

@[simp]
theorem length_slots_place (r : Reading) (i : Nat) (t : Task) (slot : Option Slot) :
    (r.place i t slot).slots.length = r.slots.length := by
  cases slot <;> simp [place, Source.publish]

theorem getElem?_tasks_place (r : Reading) (i j : Nat) (t : Task) (slot : Option Slot) :
    (r.place i t slot).tasks[j]? =
      if i = j then r.tasks[j]?.map fun _ => t else r.tasks[j]? := by
  by_cases h : i = j
  · subst h
    by_cases hi : i < r.tasks.length
    · simp [place, hi]
    · have hlen : r.tasks.length ≤ i := Nat.le_of_not_lt hi
      simp [place, hlen]
  · simp [place, h]

theorem getElem?_slots_place (r : Reading) (i j : Nat) (t : Task) (slot : Option Slot) :
    (r.place i t slot).slots[j]? =
      if i = j then r.slots[j]?.map (·.fill slot) else r.slots[j]? := by
  cases slot with
  | none =>
    have hfill : (fun old : Slot => old.fill none) = id := rfl
    simp [place, hfill]
  | some slot =>
    by_cases h : i = j
    · subst h
      simp [place, Source.publish, Slot.fill]
    · simp [place, Source.publish, h]

end Reading

/-! ## Sessions -/

/-- All sources under one scope. -/
structure Session where
  reading : Reading
  scope : Scope
  /-- Whether the streams have receivers. -/
  attended : Bool
  /-- What has been put on the streams, each emission with the place of its source. -/
  emitted : List (Nat × Emission)

namespace Session

/-- The session at its start. -/
def ofSources (options : Options) (sources : List (Except FlowError Opened)) : Session :=
  ⟨.ofSources options sources, .ongoing, true, []⟩

/-- What one source has emitted so far. -/
def emittedBy (s : Session) (i : Nat) : List Emission :=
  (s.emitted.filter fun entry => entry.1 = i).map Prod.snd

/-- One step of a session.  The streams have room or not, whatever `offer` says, but they refuse an
emission only when nobody receives any more. -/
inductive Step : Session → Session → Prop where
  | advance {s : Session} {reading : Reading} {e : Option Emission} (i : Nat)
      (offer : Emission → Offer) :
      (∀ e, offer e = .refused → s.attended = false) →
      s.reading.advance? s.scope offer i = some (reading, e) →
      Step s { s with reading, emitted := s.emitted ++ (e.map (i, ·)).toList }
  | quit {s : Session} {reading : Reading} (i : Nat) :
      s.reading.quit? s.scope i = some reading → Step s { s with reading }
  | cancel (s : Session) : Step s { s with scope := s.scope.cancel.1 }
  | leave (s : Session) : Step s { s with attended := false }

/-- Some steps of a session. -/
abbrev Reaches : Session → Session → Prop := Relation.ReflTransGen Step

/-- A step moves one task, or it changes only what is around the sources. -/
theorem step_cases {s s' : Session} (h : Step s s') :
    (∃ i t t' slot e, ∃ offer : Emission → Offer,
      s.reading.tasks[i]? = some t ∧
      (∀ e, offer e = .refused → s.attended = false) ∧
      t.Moves s.reading.options s.scope.cancelled (agreement (s.reading.slots.take i)) offer
        t' slot e ∧
      s' = { s with
        reading := s.reading.place i t' slot
        emitted := s.emitted ++ (e.map (i, ·)).toList }) ∨
    (s'.reading = s.reading ∧ s'.emitted = s.emitted ∧
      (s.scope.cancelled = true → s'.scope.cancelled = true) ∧
      (s.attended = false → s'.attended = false)) := by
  cases h with
  | advance i offer heard hstep =>
    rcases Reading.advance?_cases hstep with ⟨t, t', slot, ht, hmove, rfl⟩
    exact .inl ⟨i, t, t', slot, _, offer, ht, heard, hmove, rfl⟩
  | quit i hstep =>
    -- giving up does not ask the streams, so that they may offer anything
    rcases Reading.quit?_cases (fun _ => .full) hstep with ⟨t, t', slot, ht, hmove, rfl⟩
    exact .inl ⟨i, t, t', slot, none, _, ht, by simp, hmove, by simp⟩
  | cancel => exact .inr ⟨rfl, rfl, fun _ => rfl, id⟩
  | leave => exact .inr ⟨rfl, rfl, id, fun _ => rfl⟩

/-- What a source has emitted grows with the steps of its own task only. -/
theorem emittedBy_append (s : Session) (reading : Reading) (i j : Nat) (e : Option Emission) :
    ({ s with
      reading
      emitted := s.emitted ++ (e.map (i, ·)).toList } : Session).emittedBy j =
      s.emittedBy j ++ if i = j then e.toList else [] := by
  cases e with
  | none => simp [emittedBy]
  | some e =>
    by_cases h : i = j
    · simp [emittedBy, h]
    · simp [emittedBy, h]

theorem mem_emittedBy {s : Session} {i : Nat} {e : Emission} :
    e ∈ s.emittedBy i ↔ (i, e) ∈ s.emitted := by
  simp [emittedBy]

/-! ## Places -/

/-- What a session holds at the place of one source. -/
structure Place where
  source : Except FlowError Opened
  task : Task
  slot : Slot
  emitted : List Emission
  cancelled : Bool
  attended : Bool

/-- The place of a source at the start. -/
def Place.initial (source : Except FlowError Opened) : Place :=
  ⟨source, .opening source, .pending, [], false, true⟩

/-- Whether `p` is what a session over `sources` holds at place `i`. -/
structure Shows (sources : List (Except FlowError Opened)) (s : Session) (i : Nat) (p : Place) :
    Prop where
  source : sources[i]? = some p.source
  task : s.reading.tasks[i]? = some p.task
  slot : s.reading.slots[i]? = some p.slot
  emitted : s.emittedBy i = p.emitted
  cancelled : s.scope.cancelled = p.cancelled
  attended : s.attended = p.attended

variable {options : Options} {sources : List (Except FlowError Opened)}

theorem options_of_reaches {s : Session} (h : Reaches (ofSources options sources) s) :
    s.reading.options = options := by
  induction h with
  | refl => rfl
  | tail _ hstep ih =>
    rcases step_cases hstep with ⟨i, t, t', slot, e, offer, _, _, _, rfl⟩ | ⟨hr, _⟩
    · exact ih
    · rw [hr]; exact ih

theorem length_of_reaches {s : Session} (h : Reaches (ofSources options sources) s) :
    s.reading.tasks.length = sources.length ∧ s.reading.slots.length = sources.length := by
  induction h with
  | refl => simp [ofSources, Reading.ofSources]
  | tail _ hstep ih =>
    rcases step_cases hstep with ⟨i, t, t', slot, e, offer, _, _, _, rfl⟩ | ⟨hr, _⟩
    · simpa using ih
    · rw [hr]; exact ih

theorem lt_of_mem_emitted {s : Session} (h : Reaches (ofSources options sources) s) {i : Nat}
    {e : Emission} (he : (i, e) ∈ s.emitted) : i < sources.length := by
  induction h with
  | refl => simp [ofSources] at he
  | tail hreach hstep ih =>
    rcases step_cases hstep with ⟨j, t, t', slot, e', offer, ht, _, _, rfl⟩ | ⟨_, hemitted, _⟩
    · -- emitted before, or by the task that moved, and that one has a place
      rcases List.mem_append.1 he with he | he
      · exact ih he
      · have hj : j < sources.length := by
          rw [← (length_of_reaches hreach).1]
          exact (List.getElem?_eq_some_iff.1 ht).1
        have hi : i = j := by
          cases e' with
          | none => simp at he
          | some e' => simp at he; exact he.1
        rwa [hi]
    · exact ih (hemitted ▸ he)

/-- A reachable session holds something at the place of every source. -/
theorem exists_shows {s : Session} (h : Reaches (ofSources options sources) s) {i : Nat}
    {source : Except FlowError Opened} (hi : sources[i]? = some source) :
    ∃ p : Place, s.Shows sources i p ∧ p.source = source := by
  have hlt : i < sources.length := (List.getElem?_eq_some_iff.1 hi).1
  have hlen := length_of_reaches h
  have htask : i < s.reading.tasks.length := by omega
  have hslot : i < s.reading.slots.length := by omega
  exact ⟨⟨source, s.reading.tasks[i], s.reading.slots[i], s.emittedBy i, s.scope.cancelled,
      s.attended⟩,
    ⟨hi, List.getElem?_eq_getElem htask, List.getElem?_eq_getElem hslot, rfl, rfl, rfl⟩, rfl⟩

theorem exists_shows_of_task {s : Session} (h : Reaches (ofSources options sources) s) {i : Nat}
    {t : Task} (ht : s.reading.tasks[i]? = some t) :
    ∃ p : Place, s.Shows sources i p ∧ p.task = t := by
  have hlt : i < sources.length := by
    rw [← (length_of_reaches h).1]
    exact (List.getElem?_eq_some_iff.1 ht).1
  rcases exists_shows h (List.getElem?_eq_getElem hlt) with ⟨p, hp, _⟩
  exact ⟨p, hp, Option.some_inj.1 (hp.task.symm.trans ht)⟩

/-- What holds at every place at the start, and is kept by what happens around the sources and by
every move of the task at the place, holds at every place of every reachable session. -/
theorem forall_places {P : Nat → Place → Prop}
    (start : ∀ i source, sources[i]? = some source → P i (.initial source))
    (around : ∀ i p cancelled attended, (p.cancelled = true → cancelled = true) →
      (p.attended = false → attended = false) → P i p → P i { p with cancelled, attended })
    (move : ∀ s i p t' slot e offer, Reaches (ofSources options sources) s → s.Shows sources i p →
      (∀ e, offer e = .refused → p.attended = false) →
      p.task.Moves options p.cancelled (agreement (s.reading.slots.take i)) offer t' slot e →
      P i p → P i { p with
        task := t'
        slot := p.slot.fill slot
        emitted := p.emitted ++ e.toList })
    {s : Session} (h : Reaches (ofSources options sources) s) {i : Nat} {p : Place}
    (hp : s.Shows sources i p) : P i p := by
  -- along the steps; before the last one the place held something else, so that `p` is general
  induction h generalizing p with
  | refl =>
    rcases p with ⟨source, task, slot, emitted, cancelled, attended⟩
    -- at the start the source determines everything at its place
    have hsource : sources[i]? = some source := hp.source
    have htask : some (Task.opening source) = some task := by
      have hmap : (sources.map Task.opening)[i]? = some task := hp.task
      rwa [List.getElem?_map, hsource, Option.map_some] at hmap
    have hslot : some Slot.pending = some slot := by
      have hmap : (sources.map fun _ => Slot.pending)[i]? = some slot := hp.slot
      rwa [List.getElem?_map, hsource, Option.map_some] at hmap
    cases htask
    cases hslot
    cases hp.emitted
    cases hp.cancelled
    cases hp.attended
    exact start i source hsource
  | tail hreach hstep ih =>
    rename_i s s'
    rcases step_cases hstep with ⟨j, t, t', slot, e, offer, ht, hheard, hmove, rfl⟩ |
      ⟨hreading, hemitted, hcancelled, hattended⟩
    · -- only the place of the task that moved is another one
      have hemitted := emittedBy_append s (s.reading.place j t' slot) j i e
      rcases exists_shows hreach hp.source with ⟨q, hq, hsource⟩
      by_cases hij : j = i
      · subst hij
        have hqt : q.task = t := Option.some_inj.1 (hq.task.symm.trans ht)
        have hkept := move s j q t' slot e offer hreach hq
          (fun e he => hq.attended ▸ hheard e he)
          (by rw [hqt, ← hq.cancelled, ← options_of_reaches hreach]; exact hmove) (ih hq)
        have htask : t' = p.task := by
          simpa [Reading.getElem?_tasks_place, ht] using hp.task
        have hslot : q.slot.fill slot = p.slot := by
          simpa [Reading.getElem?_slots_place, hq.slot] using hp.slot
        have hsame : { q with
            task := t'
            slot := q.slot.fill slot
            emitted := q.emitted ++ e.toList } = p := by
          rcases p with ⟨source, task, slot', emitted, cancelled, attended⟩
          have h₁ : s.emittedBy j ++ e.toList = emitted := by
            simpa using hemitted.symm.trans hp.emitted
          have h₂ : s.scope.cancelled = cancelled := hp.cancelled
          have h₃ : s.attended = attended := hp.attended
          simp_all [hq.emitted, hq.cancelled, hq.attended]
        exact hsame ▸ hkept
      · have hsame : s.Shows sources i p := by
          refine ⟨hp.source, ?_, ?_, ?_, hp.cancelled, hp.attended⟩
          · simpa [Reading.getElem?_tasks_place, hij] using hp.task
          · simpa [Reading.getElem?_slots_place, hij] using hp.slot
          · simpa [hij] using hemitted.symm.trans hp.emitted
        exact ih hsame
    · -- before the step only the scope and the receivers can have been others
      have hq : s.Shows sources i
          { p with cancelled := s.scope.cancelled, attended := s.attended } := by
        refine ⟨hp.source, hreading ▸ hp.task, hreading ▸ hp.slot, ?_, rfl, rfl⟩
        simpa [emittedBy, hemitted] using hp.emitted
      have hkept := around i _ s'.scope.cancelled s'.attended hcancelled hattended (ih hq)
      have hsame : { p with
          cancelled := s'.scope.cancelled
          attended := s'.attended } = p := by
        rw [hp.cancelled, hp.attended]
      exact hsame ▸ hkept

end Session

end Source
end RecordFlow
