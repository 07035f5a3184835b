import RecordFlow.Proofs.Source.Slots

/-!
# Agreement — one header for all records

Two sources are compared through the slots that their tasks fill, and their tasks take their steps
in any order.  The outcome of a comparison does not depend on that order, and the tasks do not wait
for one another in a circle.

The cancellation releases a task that waits for an earlier source, and nobody compares the header of
its source.  Such a task is between two rows and will look at the scope before it goes on, so that
it emits nothing (`Task.Holds`).  Hence all records of a run that compares headers carry the same
one.
-/

namespace RecordFlow
namespace Source

/-! ## Headers of records -/

/-- Whether an emission that is a record carries the header. -/
def Emission.Carries (header : Option (List String)) (e : Emission) : Prop :=
  ∀ r, e = .record r → r.header = header

theorem Opened.carries_of_mem_bodyFrom {options : Options} {o : Opened} {e : Emission}
    {rows : List Csv.Row} {line : Nat} (he : e ∈ o.bodyFrom options line rows) :
    e.Carries o.header := by
  induction rows generalizing line with
  | nil =>
    intro r hr
    subst hr
    cases hf : o.fault with
    | none => simp [Opened.bodyFrom, Opened.faultAfter, hf] at he
    | some fault => simp [Opened.bodyFrom, Opened.faultAfter, hf] at he
  | cons row rest ih =>
    rw [Opened.bodyFrom] at he
    cases hv : Record.validate ⟨row.line, o.name, row.fields, o.header⟩ with
    | ok _ =>
      rw [hv] at he
      rcases List.mem_cons.1 he with rfl | he
      · intro r hr
        cases hr
        rfl
      · exact ih he
    | error error =>
      -- a malformed row is no record, and a strict source ends with it
      rw [hv] at he
      cases hs : options.strict with
      | true =>
        have : e = .failure (.context "read_record" o.name row.line error) := by
          simpa [hs] using he
        intro r hr
        rw [this] at hr
        cases hr
      | false =>
        have : e ∈ Emission.rejected (.context "read_record" o.name row.line error)
            ⟨row.line, o.name, row.fields, o.header⟩ :: o.bodyFrom options row.line rest := by
          simpa [hs] using he
        rcases List.mem_cons.1 this with rfl | he
        · intro r hr
          cases hr
        · exact ih he

theorem Opened.eq_of_mismatch?_eq_none {o : Opened} {expected actual : List String}
    (hactual : o.header = some actual) (h : o.mismatch? (some expected) = none) :
    expected = actual := by
  by_contra hne
  simp [Opened.mismatch?, hactual, hne] at h

/-- Whether a task has only records with the header still to emit.  A task that was released by the
cancellation has rows that nobody compared, and it will not emit them. -/
def Task.Holds (header : Option (List String)) (cancelled : Bool) : Task → Prop
  | .reading rest => cancelled = true ∨ ∀ e ∈ rest, e.Carries header
  | .offering e rest | .sending e rest => ∀ e' ∈ e :: rest, e'.Carries header
  | _ => True

/-- What a move emits carries the header if what was still to emit did. -/
theorem Task.Moves.carries {options : Options} {cancelled : Bool} {known : Agreement}
    {offer : Emission → Offer} {t t' : Task} {slot : Option Slot} {e : Option Emission}
    {header : Option (List String)} (hmove : t.Moves options cancelled known offer t' slot e)
    (hold : t.Holds header cancelled) : ∀ e' ∈ e, e'.Carries header := by
  intro e' he'
  cases hmove with
  | delivers rest _ =>
    cases he'
    exact hold e' (by simp)
  | _ => cases he'

/-- A move keeps the header of what is still to emit, unless it begins the rows of a source. -/
theorem Task.Moves.holds {options : Options} {cancelled : Bool} {known : Agreement}
    {offer : Emission → Offer} {t t' : Task} {slot : Option Slot} {e : Option Emission}
    {header : Option (List String)} (hmove : t.Moves options cancelled known offer t' slot e)
    (hold : t.Holds header cancelled)
    (hbegins : ∀ o, t' = .reading (o.body options) → t = .comparing o ∨ t = .opening (.ok o) →
      cancelled = true ∨ o.header = header) : t'.Holds header cancelled := by
  cases hmove with
  | openFails | openShares | differs | ends => trivial
  | reports error =>
    intro e' he' r hr
    rcases List.mem_singleton.1 he' with rfl
    cases hr
  | @openAlone o _ =>
    rcases hbegins o rfl (.inr rfl) with hc | ho
    · exact .inl hc
    · exact .inr fun e' he' => ho ▸ Opened.carries_of_mem_bodyFrom he'
  | @agrees o _ _ _ =>
    rcases hbegins o rfl (.inl rfl) with hc | ho
    · exact .inl hc
    · exact .inr fun e' he' => ho ▸ Opened.carries_of_mem_bodyFrom he'
  | looks rest =>
    -- rows that nobody compared end here, since the scope is cancelled
    rcases Task.afterLook_cases cancelled rest with ⟨failure, hlook⟩ |
      ⟨e', rest', hcancelled, rfl, _, hlook⟩
    · rw [hlook]
      trivial
    · rw [hlook]
      exact hold.resolve_left (by simp [hcancelled])
  | offers e' rest =>
    cases cancelled with
    | true => cases e' <;> trivial
    | false => exact hold
  | @delivers e' rest _ =>
    have hrest : ∀ e ∈ rest, e.Carries header := fun e he => hold e (by simp [he])
    cases e' with
    | failure error => trivial
    | record r => exact .inr hrest
    | rejected error r => exact .inr hrest
  | @loses e' rest _ => cases e' <;> trivial
  | @quits e' rest _ => cases e' <;> trivial

namespace Session

variable {options : Options} {sources : List (Except FlowError Opened)} {s : Session}

/-- The header of a source that has passed its comparison is the first one that is shared. -/
theorem header_eq_firstShared? (h : Reaches (ofSources options sources) s) {i : Nat} {o : Opened}
    {actual : List String} {cancelled : Bool} {expected : Option (List String)}
    (hi : sources[i]? = some (.ok o)) (hshared : o.agreed? options = some actual)
    (hhears : Hears cancelled (agreement (s.reading.slots.take i)) expected)
    (hagrees : o.mismatch? expected = none) :
    cancelled = true ∨ o.header = some ((firstShared? options sources).getD []) := by
  have hheader : o.header = some actual := by
    unfold Opened.agreed? at hshared
    split at hshared
    · exact hshared
    · cases hshared
  generalize hknown : agreement (s.reading.slots.take i) = known at hhears
  cases hhears with
  | released hc => exact .inl hc
  | bound header =>
    -- it was compared with the first header, and did not differ
    have hfirst := firstShared?_of_take (firstShared?_of_bound h hknown)
    have heq := Opened.eq_of_mismatch?_eq_none hheader hagrees
    exact .inr (by rw [hheader, hfirst, heq, Option.getD_some])
  | free =>
    -- no earlier source shares a header, so that this source is the first
    have hnone := firstShared?_of_free h hknown
    have hfirst : firstShared? options (sources.take (i + 1)) = some actual := by
      rw [firstShared?_take_succ, hnone, hi]
      simpa [shared?] using hshared
    exact .inr (by rw [hheader, firstShared?_of_take hfirst, Option.getD_some])

/-- When every source that opens has a header and headers are compared, the records of all sources
carry the first header that is shared. -/
theorem carries_firstShared? (hvalidate : options.validateHeader = true)
    (hheaders : ∀ o, .ok o ∈ sources → o.header ≠ none)
    (h : Reaches (ofSources options sources) s) {i : Nat} {p : Place}
    (hp : s.Shows sources i p) :
    (∀ e ∈ p.emitted, e.Carries (some ((firstShared? options sources).getD []))) ∧
      p.task.Holds (some ((firstShared? options sources).getD [])) p.cancelled := by
  refine forall_places (P := fun _ p =>
    (∀ e ∈ p.emitted, e.Carries (some ((firstShared? options sources).getD []))) ∧
      p.task.Holds (some ((firstShared? options sources).getD [])) p.cancelled) ?_ ?_ ?_ h hp
  · intro i source _
    exact ⟨by simp [Place.initial], trivial⟩
  · -- a later cancellation only asks less of a task
    rintro i p cancelled attended hcancelled _ ⟨hemitted, hold⟩
    refine ⟨hemitted, ?_⟩
    show p.task.Holds _ cancelled
    cases htask : p.task with
    | reading rest =>
      rw [htask] at hold
      exact hold.imp_left hcancelled
    | offering e rest =>
      rw [htask] at hold
      exact hold
    | sending e rest =>
      rw [htask] at hold
      exact hold
    | _ => trivial
  · rintro s i p t' slot e offer hreach hshow _ hmove ⟨hemitted, hold⟩
    have htold := told_of_reaches hreach hshow
    refine ⟨?_, hmove.holds hold ?_⟩
    · intro e' he'
      rcases List.mem_append.1 he' with he' | he'
      · exact hemitted e' he'
      · exact hmove.carries hold e' (by simpa using he')
    · -- rows begin behind a comparison, or behind the opening of a source that shares no header
      intro o ht' hbefore
      rcases hbefore with ht | ht
      · rcases htold.comparing o ht with ⟨hsource, hsome⟩
        rcases Option.isSome_iff_exists.1 hsome with ⟨actual, hshared⟩
        rw [ht, ht'] at hmove
        cases hmove with
        | agrees hhears hagrees =>
          exact header_eq_firstShared? hreach (hsource ▸ hshow.source) hshared hhears hagrees
      · have hsource := htold.opening _ ht
        have hmem : .ok o ∈ sources :=
          List.mem_of_getElem? (hsource ▸ hshow.source)
        rw [ht, ht'] at hmove
        cases hmove with
        | openAlone hnone =>
          exact absurd (by simpa [Opened.agreed?, hvalidate] using hnone) (hheaders o hmem)

/-! ## The schedule does not matter -/

/-- However the steps of the tasks are ordered, and whenever the scope is cancelled:

* a scan of the slots before place `k` that does not have to wait finds the header of the first
  source before `k` that shares one, or nothing if there is none, and without cancellation a source
  is compared with exactly that header,
* unless all tasks have ended, one of them neither has ended nor waits for another one, and goes on
  as soon as the streams have room,
* when every first row is a header and headers are compared, all records that have been emitted
  carry the same header. -/
theorem header_agreement (options : Options) (sources : List (Except FlowError Opened))
    {s : Session} (h : Reaches (ofSources options sources) s) :
    (∀ k header, agreement (s.reading.slots.take k) = .bound header →
      IsFirstBefore options sources k header) ∧
    (∀ k, agreement (s.reading.slots.take k) = .free →
      ∀ header, ¬ IsFirstBefore options sources k header) ∧
    (s.scope.cancelled = false → ∀ k o offer reading e,
      s.reading.tasks[k]? = some (.comparing o) →
      s.reading.advance? s.scope offer k = some (reading, e) →
      ∃ expected, (∀ header, expected = some header ↔ IsFirstBefore options sources k header) ∧
        reading = s.reading.compared k o expected) ∧
    (s.reading.isFinished = false → ∃ (i : Nat) (t : Task), s.reading.tasks[i]? = some t ∧
      t.isFinished = false ∧ ¬ s.Waits i ∧
      (s.reading.advance? s.scope (fun _ => .accepted) i).isSome) ∧
    (options.hasHeader = true → options.validateHeader = true →
      (∀ source ∈ sources, ∃ files name p, source = Opened.ofPath options files name p) →
      ∃ header, ∀ i r, (i, .record r) ∈ s.emitted → r.header = some header) := by
  refine ⟨?_, ?_, ?_, ?_, ?_⟩
  · intro k header hk
    exact (firstShared?_take_eq_some_iff options sources k header).1 (firstShared?_of_bound h hk)
  · intro k hk header hfirst
    have hsome := (firstShared?_take_eq_some_iff options sources k header).2 hfirst
    rw [firstShared?_of_free h hk] at hsome
    cases hsome
  · intro hcancelled k o offer reading e htask hstep
    refine ⟨firstShared? options (sources.take k),
      firstShared?_take_eq_some_iff options sources k, ?_⟩
    exact compared_of_advance? h hcancelled htask hstep
  · intro hunfinished
    rcases exists_earliest_unfinished hunfinished with ⟨i, t, ht, hgoing, hbefore⟩
    have hwaits := not_waits_of_ended_before h hbefore
    exact ⟨i, t, ht, hgoing, hwaits, advance?_isSome ht hgoing hwaits (by simp)⟩
  · intro hheader hvalidate hopened
    have hheaders : ∀ o, .ok o ∈ sources → o.header ≠ none := by
      intro o ho
      rcases hopened _ ho with ⟨files, name, p, hp⟩
      exact Option.isSome_iff_ne_none.1 ((Opened.ofPath_cases hp.symm).2.1 hheader)
    refine ⟨(firstShared? options sources).getD [], ?_⟩
    intro i r hr
    have hi : i < sources.length := lt_of_mem_emitted h hr
    rcases exists_shows h (List.getElem?_eq_getElem hi) with ⟨p, hp, _⟩
    have hmem : Emission.record r ∈ p.emitted := hp.emitted ▸ mem_emittedBy.2 hr
    exact (carries_firstShared? hvalidate hheaders h hp).1 _ hmem r rfl

/-- The session behind a step of one source, if it can take one with room on all streams. -/
def next (s : Session) (i : Nat) : Session :=
  match s.reading.advance? s.scope (fun _ => .accepted) i with
  | some (reading, e) => { s with reading, emitted := s.emitted ++ (e.map (i, ·)).toList }
  | none => s

theorem reaches_next {start s : Session} (h : Reaches start s) (i : Nat) :
    Reaches start (s.next i) := by
  unfold next
  cases hstep : s.reading.advance? s.scope (fun _ => .accepted) i with
  | none => exact h
  | some next => exact h.tail (.advance i (fun _ => .accepted) (by simp) hstep)

/-- The files `a` with the lines `i,n` and `1,x`, and `b` with the lines `i` and `7`. -/
def pairSources : List (Except FlowError Opened) :=
  openAll .standard
    ⟨.directory
      [("a", .file [105, 44, 110, 10, 49, 44, 120, 10]), ("b", .file [105, 10, 55, 10])], []⟩
    [⟨"a"⟩, ⟨"b"⟩]

/-- The second source tells its header first; then the first one goes on to its record. -/
def pairSession : Session :=
  [1, 0, 0, 0, 0, 0].foldl next (ofSources .standard pairSources)

theorem header_agreement_pair :
    pairSession.emitted = [(0, .record ⟨2, "a", ["1", "x"], some ["i", "n"]⟩)] ∧
      IsFirstBefore .standard pairSources 1 ["i", "n"] ∧
      (∃ i, ¬ pairSession.Waits i ∧
        (pairSession.reading.advance? pairSession.scope (fun _ => .accepted) i).isSome) ∧
      ∃ header, ∀ i r, (i, .record r) ∈ pairSession.emitted → r.header = some header := by
  have hreaches : Reaches (ofSources .standard pairSources) pairSession :=
    reaches_next (reaches_next (reaches_next (reaches_next (reaches_next
      (reaches_next .refl 1) 0) 0) 0) 0) 0
  rcases header_agreement .standard pairSources hreaches with
    ⟨hbound, _, _, hgoes, hrecords⟩
  refine ⟨by decide +kernel, hbound 1 _ (by decide +kernel), ?_, ?_⟩
  · rcases hgoes (by decide +kernel) with ⟨i, t, _, _, hwaits, hstep⟩
    exact ⟨i, hwaits, hstep⟩
  · refine hrecords rfl rfl fun source hsource => ?_
    rcases List.mem_map.1 hsource with ⟨⟨p, name⟩, _, rfl⟩
    exact ⟨_, name, p, rfl⟩

end Session

end Source
end RecordFlow
