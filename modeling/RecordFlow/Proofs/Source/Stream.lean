import RecordFlow.Proofs.Source.Slots

/-!
# Stream — what one source emits in a session

What a source has emitted, followed by what its task has still to emit, does not change as long as
the scope is not cancelled and the streams have receivers (`Session.emitted_append_remaining`).  At
the start it is what the source gives behind the first header that is shared before its place, and
at the end there is nothing more to emit.  So an undisturbed session that has ended has emitted
exactly what `readAll` lists, whatever the order of its steps.

A session that is disturbed cuts this off at some point (`Session.emittedBy_prefix`).
-/

namespace RecordFlow
namespace Source

/-! ## What is still to emit -/

/-- Emissions up to the first failure, which ends a source. -/
def untilFailure : List Emission → List Emission
  | [] => []
  | .failure error :: _ => [.failure error]
  | e :: rest => e :: untilFailure rest

/-- What a task has still to emit if nothing disturbs it; `expected` is the header that its source
is compared with. -/
def Task.remaining (options : Options) (expected : Option (List String)) : Task → List Emission
  | .opening source => emissions options expected source
  | .comparing o => emissions options expected (.ok o)
  | .reading rest => untilFailure rest
  | .offering e rest | .sending e rest => untilFailure (e :: rest)
  | .closing (some error) => [.failure error]
  | .closing none | .finished => []

/-- The rows of a source give a failure at their end only. -/
theorem Opened.untilFailure_bodyFrom (options : Options) (o : Opened) (line : Nat)
    (rows : List Csv.Row) :
    untilFailure (o.bodyFrom options line rows) = o.bodyFrom options line rows := by
  induction rows generalizing line with
  | nil =>
    cases hf : o.fault with
    | none => simp [Opened.bodyFrom, Opened.faultAfter, hf, untilFailure]
    | some fault => simp [Opened.bodyFrom, Opened.faultAfter, hf, untilFailure]
  | cons row rest ih =>
    rw [Opened.bodyFrom]
    cases Record.validate ⟨row.line, o.name, row.fields, o.header⟩ with
    | ok _ => simp [untilFailure, ih]
    | error error =>
      cases hs : options.strict with
      | true => simp [untilFailure]
      | false => simp [untilFailure, ih]

theorem Opened.untilFailure_body (options : Options) (o : Opened) :
    untilFailure (o.body options) = o.body options :=
  o.untilFailure_bodyFrom options _ _

/-! ## Comparison -/

theorem Opened.mismatch?_of_agreed?_eq_none {options : Options} {o : Opened}
    (h : o.agreed? options = none) (sources : List (Except FlowError Opened)) :
    o.mismatch? (firstShared? options sources) = none := by
  cases hv : options.validateHeader with
  | true =>
    have : o.header = none := by simpa [Opened.agreed?, hv] using h
    simp [Opened.mismatch?, this]
  | false =>
    -- without the comparison nobody shares a header
    have hnone : firstShared? options sources = none := by
      rw [firstShared?, List.findSome?_eq_none_iff]
      intro source _
      cases source with
      | error error => rfl
      | ok o => simp [shared?, Opened.agreed?, hv]
    simp [Opened.mismatch?, hnone]

theorem Opened.mismatch?_none (o : Opened) : o.mismatch? none = none := by
  simp [Opened.mismatch?]

theorem emissions_of_mismatch? {options : Options} {expected : Option (List String)} {o : Opened}
    {error : FlowError} (h : o.mismatch? expected = some error) :
    emissions options expected (.ok o) = [.failure error] := by
  simp [emissions, h]

theorem emissions_of_agreeing {options : Options} {expected : Option (List String)} {o : Opened}
    (h : o.mismatch? expected = none) :
    emissions options expected (.ok o) = o.body options := by
  simp [emissions, h]

/-! ## Undisturbed moves -/

/-- A move that neither the cancellation nor a missing receiver disturbs takes what it emits from
what there was to emit. -/
theorem Task.Moves.emits {options : Options} {known : Agreement} {offer : Emission → Offer}
    {sources : List (Except FlowError Opened)} {t t' : Task} {slot : Option Slot}
    {e : Option Emission} (hmove : t.Moves options false known offer t' slot e)
    (hreceived : ∀ e, offer e ≠ .refused)
    (hheard : ∀ expected, Hears false known expected → expected = firstShared? options sources) :
    e.toList ++ t'.remaining options (firstShared? options sources) =
      t.remaining options (firstShared? options sources) := by
  cases hmove with
  | openFails error => rfl
  | openShares _ => rfl
  | @openAlone o hnone =>
    have hagrees := Opened.mismatch?_of_agreed?_eq_none hnone sources
    simp [Task.remaining, emissions_of_agreeing hagrees, o.untilFailure_body]
  | @agrees o _ hhears hagrees =>
    rw [hheard _ hhears] at hagrees
    simp [Task.remaining, emissions_of_agreeing hagrees, o.untilFailure_body]
  | differs hhears hdiffers =>
    -- the error of the comparison is all that there was to emit
    rw [hheard _ hhears] at hdiffers
    simp [Task.remaining, emissions_of_mismatch? hdiffers]
  | looks rest =>
    cases rest with
    | nil => rfl
    | cons e rest => cases e <;> rfl
  | offers e rest => rfl
  | @delivers e rest _ =>
    cases e with
    | failure error => rfl
    | record r => rfl
    | rejected error r => rfl
  | @loses e rest hrefused => exact absurd hrefused (hreceived e)
  | quits rest hc => cases hc
  | ends => rfl
  | reports error => rfl

namespace Session

variable {options : Options} {sources : List (Except FlowError Opened)} {s : Session}

/-- In an undisturbed session, what a source has emitted and what it has still to emit are together
what it gives. -/
theorem emitted_append_remaining (h : Reaches (ofSources options sources) s) {i : Nat} {p : Place}
    (hp : s.Shows sources i p) (hcancelled : p.cancelled = false) (hattended : p.attended = true) :
    p.emitted ++ p.task.remaining options (firstShared? options (sources.take i)) =
      emissions options (firstShared? options (sources.take i)) p.source := by
  -- the sum of both is the invariant of the place
  have hinv := forall_places (P := fun i p => p.cancelled = false → p.attended = true →
    p.emitted ++ p.task.remaining options (firstShared? options (sources.take i)) =
      emissions options (firstShared? options (sources.take i)) p.source) ?_ ?_ ?_ h hp
  · exact hinv hcancelled hattended
  · intro i source _ _ _
    rfl
  · -- a session that is undisturbed now was so before
    intro i p cancelled attended hc ha ih hcancelled hattended
    refine ih ?_ ?_
    · cases hp : p.cancelled with
      | false => rfl
      | true => exact absurd (hc hp) (by simp_all)
    · cases hp : p.attended with
      | true => rfl
      | false => exact absurd (ha hp) (by simp_all)
  · -- what the move emits is the front of what was still to emit
    intro s i p t' slot e offer hreach _ hheard hmove ih hcancelled hattended
    have hcancelled : p.cancelled = false := hcancelled
    have hattended : p.attended = true := hattended
    have hreceived : ∀ e, offer e ≠ .refused := by
      intro e he
      rw [hheard e he] at hattended
      cases hattended
    rw [hcancelled] at hmove
    have hemits := hmove.emits hreceived
      fun expected hhears => (firstShared?_of_hears hreach hhears).symm
    have ih := ih hcancelled hattended
    rw [← hemits, ← List.append_assoc] at ih
    exact ih

/-! ## The end of a session -/

/-- A session over `sources` that has come to its end undisturbed. -/
structure Completes (options : Options) (sources : List (Except FlowError Opened)) (s : Session) :
    Prop where
  reaches : Reaches (ofSources options sources) s
  finished : s.reading.isFinished = true
  ongoing : s.scope.cancelled = false
  attended : s.attended = true

/-- At the end of an undisturbed session a source has emitted all that it gives. -/
theorem Completes.emittedBy_eq (h : s.Completes options sources) {i : Nat}
    {source : Except FlowError Opened} (hi : sources[i]? = some source) :
    s.emittedBy i = emissions options (firstShared? options (sources.take i)) source := by
  rcases exists_shows h.reaches hi with ⟨p, hp, rfl⟩
  have htask : p.task = .finished := by
    have hmem := List.mem_of_getElem? hp.task
    have hfinished : p.task.isFinished = true :=
      List.all_eq_true.1 h.finished p.task hmem
    cases htask : p.task <;> simp_all [Task.isFinished]
  have hall := emitted_append_remaining h.reaches hp (hp.cancelled ▸ h.ongoing)
    (hp.attended ▸ h.attended)
  rw [hp.emitted, ← hall, htask]
  simp [Task.remaining]

end Session

/-! ## Disturbed sessions -/

/-- Whether a task has been told what its source gives. -/
def Task.isGoing : Task → Bool
  | .opening _ | .comparing _ => false
  | _ => true

/-- Whatever disturbs a move, what it emits comes next among what there was to emit, and it may give
up what is behind that. -/
theorem Task.Moves.front {options : Options} {cancelled : Bool} {known : Agreement}
    {offer : Emission → Offer} {t t' : Task} {slot : Option Slot} {e : Option Emission}
    (hmove : t.Moves options cancelled known offer t' slot e) (hgoing : t.isGoing = true) :
    t'.isGoing = true ∧ e.toList ++ t'.remaining options none <+: t.remaining options none := by
  cases hmove with
  | openFails | openShares | openAlone | agrees | differs => cases hgoing
  | looks rest =>
    cases rest with
    | nil => exact ⟨rfl, List.nil_prefix⟩
    | cons e rest =>
      cases cancelled with
      | true => exact ⟨rfl, List.nil_prefix⟩
      | false => cases e <;> exact ⟨rfl, List.prefix_rfl⟩
  | offers e rest =>
    cases cancelled with
    | true => cases e <;> exact ⟨rfl, List.nil_prefix⟩
    | false => exact ⟨rfl, List.prefix_rfl⟩
  | @delivers e rest _ => cases e <;> exact ⟨rfl, List.prefix_rfl⟩
  | @loses e | @quits e => cases e <;> exact ⟨rfl, List.nil_prefix⟩
  | ends => exact ⟨rfl, List.prefix_rfl⟩
  | reports error => exact ⟨rfl, List.prefix_rfl⟩

/-- Whether a task can still make of `emitted` no more than what its source gives, behind no header
or behind the first one. -/
inductive Task.Fronts (options : Options) (first : Option (List String))
    (source : Except FlowError Opened) (emitted : List Emission) (t : Task) : Prop where
  | waiting : emitted = [] → (t = .opening source ∨ ∃ o, source = .ok o ∧ t = .comparing o) →
      Fronts options first source emitted t
  | going (expected : Option (List String)) : expected = none ∨ expected = first →
      t.isGoing = true →
      emitted ++ t.remaining options none <+: emissions options expected source →
      Fronts options first source emitted t

theorem Task.Fronts.move {options : Options} {first : Option (List String)}
    {source : Except FlowError Opened} {emitted : List Emission} {cancelled : Bool}
    {known : Agreement} {offer : Emission → Offer} {t t' : Task} {slot : Option Slot}
    {e : Option Emission} (h : t.Fronts options first source emitted)
    (hmove : t.Moves options cancelled known offer t' slot e)
    (hheard : ∀ expected, Hears cancelled known expected → expected = none ∨ expected = first) :
    t'.Fronts options first source (emitted ++ e.toList) := by
  cases h with
  | going expected hexpected hgoing hfront =>
    rcases hmove.front hgoing with ⟨hgoing', hnext⟩
    refine .going expected hexpected hgoing' ?_
    rw [List.append_assoc]
    exact ((List.prefix_append_right_inj emitted).2 hnext).trans hfront
  | waiting hnone htask =>
    subst hnone
    rcases htask with rfl | ⟨o, rfl, rfl⟩
    · cases hmove with
      | openFails error => exact .going none (.inl rfl) rfl List.prefix_rfl
      | @openShares o => exact .waiting rfl (.inr ⟨o, rfl, rfl⟩)
      | @openAlone o =>
        refine .going none (.inl rfl) rfl ?_
        simp [Task.remaining, emissions_of_agreeing o.mismatch?_none, o.untilFailure_body]
    · cases hmove with
      | @agrees o expected hhears hagrees =>
        refine .going expected (hheard expected hhears) rfl ?_
        simp [Task.remaining, emissions_of_agreeing hagrees, o.untilFailure_body]
      | @differs o expected error hhears hdiffers =>
        refine .going expected (hheard expected hhears) rfl ?_
        rw [emissions_of_mismatch? hdiffers]
        exact List.prefix_rfl

namespace Session

variable {options : Options} {sources : List (Except FlowError Opened)} {s : Session}

/-- What a source has emitted at any time is the front of what it gives, behind no header or behind
the first one that the earlier sources share: also if the scope has been cancelled or the receivers
have left. -/
theorem emittedBy_prefix_of_heard (h : Reaches (ofSources options sources) s) {i : Nat}
    {source : Except FlowError Opened} (hi : sources[i]? = some source) :
    ∃ expected, (expected = none ∨ expected = firstShared? options (sources.take i)) ∧
      s.emittedBy i <+: emissions options expected source := by
  rcases exists_shows h hi with ⟨p, hp, rfl⟩
  have hfronts : p.task.Fronts options (firstShared? options (sources.take i)) p.source
      p.emitted := by
    refine forall_places (P := fun i p =>
      p.task.Fronts options (firstShared? options (sources.take i)) p.source p.emitted)
      ?_ ?_ ?_ h hp
    · exact fun i source _ => .waiting rfl (.inl rfl)
    · exact fun i p cancelled attended _ _ hfronts => hfronts
    · intro s i p t' slot e offer hreach _ _ hmove hfronts
      refine hfronts.move hmove fun expected hhears => ?_
      generalize hknown : agreement (s.reading.slots.take i) = known at hhears
      cases hhears with
      | bound header => exact .inr (firstShared?_of_bound hreach hknown).symm
      | free => exact .inl rfl
      | released _ => exact .inl rfl
  rw [hp.emitted]
  cases hfronts with
  | waiting hnone _ => exact ⟨none, .inl rfl, hnone ▸ List.nil_prefix⟩
  | going expected hexpected _ hfront =>
    exact ⟨expected, hexpected, (List.prefix_append _ _).trans hfront⟩

/-- What a source has emitted at any time is the front of what it gives, behind one header or
another. -/
theorem emittedBy_prefix (h : Reaches (ofSources options sources) s) {i : Nat}
    {source : Except FlowError Opened} (hi : sources[i]? = some source) :
    ∃ expected, s.emittedBy i <+: emissions options expected source := by
  rcases emittedBy_prefix_of_heard h hi with ⟨expected, _, hfront⟩
  exact ⟨expected, hfront⟩

end Session

end Source
end RecordFlow
