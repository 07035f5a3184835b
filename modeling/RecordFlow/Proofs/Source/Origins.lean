import RecordFlow.Proofs.Source.Isolation

/-!
# Origins — the names that records carry

A record carries the name of its source, which the source was opened with.  So whatever the sources
of a list emit, in any order and whether or not they are cancelled on the way, carries one of the
names of the list (`Reading.BelongsTo.advance`), and what a reading has still to emit does so too.
-/

namespace RecordFlow
namespace Source

/-- The record of an emission. -/
def Emission.about? : Emission → Option Record
  | .record r => some r
  | .rejected _ r => some r
  | .failure _ => none

theorem Emission.about?_of_record? {e : Emission} {r : Record} (h : e.record? = some r) :
    e.about? = some r := by
  cases e with
  | record r => exact h
  | rejected error r => cases h
  | failure error => cases h

theorem Emission.about?_of_rejection? {e : Emission} {error : FlowError} {r : Record}
    (h : e.rejection? = some ⟨error, some r⟩) : e.about? = some r := by
  cases e with
  | record r => cases h
  | rejected error r =>
    cases h
    rfl
  | failure error => cases h

/-- Whether the record of an emission, if it has one, carries one of some names. -/
def Emission.BelongsTo (names : List String) (e : Emission) : Prop :=
  ∀ r, e.about? = some r → r.source ∈ names

/-- Whether all that a task has still to emit carries one of some names. -/
def Task.BelongsTo (names : List String) : Task → Prop
  | .opening source => ∀ o, source = .ok o → o.name ∈ names
  | .comparing o => o.name ∈ names
  | .reading rest => ∀ e ∈ rest, e.BelongsTo names
  | .offering e rest | .sending e rest => ∀ e' ∈ e :: rest, e'.BelongsTo names
  | .closing _ | .finished => True

/-- Whether all that a reading has still to emit carries one of some names. -/
def Reading.BelongsTo (names : List String) (r : Reading) : Prop :=
  ∀ t ∈ r.tasks, t.BelongsTo names

/-- The records of a source carry its name. -/
theorem Opened.source_of_mem_bodyFrom {options : Options} {o : Opened} {line : Nat}
    {rows : List Csv.Row} {e : Emission} {r : Record} (he : e ∈ o.bodyFrom options line rows)
    (hr : e.about? = some r) : r.source = o.name := by
  induction rows generalizing line with
  | nil =>
    have hfault : e ∈ o.faultAfter line := he
    unfold Opened.faultAfter at hfault
    split at hfault
    · rw [List.mem_singleton.1 hfault] at hr
      cases hr
    · cases hfault
  | cons row rest ih =>
    unfold Opened.bodyFrom at he
    dsimp only at he
    split at he
    · rcases List.mem_cons.1 he with rfl | hrest
      · cases hr
        rfl
      · exact ih hrest
    · split at he
      · rw [List.mem_singleton.1 he] at hr
        cases hr
      · rcases List.mem_cons.1 he with rfl | hrest
        · cases hr
          rfl
        · exact ih hrest

variable {names : List String} {options : Options}

theorem Opened.belongsTo_body {o : Opened} (hname : o.name ∈ names) :
    ∀ e ∈ o.body options, e.BelongsTo names := by
  intro e he r hr
  rw [Opened.source_of_mem_bodyFrom he hr]
  exact hname

theorem Emission.belongsTo_failure (error : FlowError) :
    (Emission.failure error).BelongsTo names := by
  intro r hr
  cases hr

theorem Task.belongsTo_givenUp (e : Emission) : (Task.givenUp e).BelongsTo names := by
  cases e <;> trivial

/-- A task emits, and keeps, only what it had to emit. -/
theorem Task.Moves.belongsTo {cancelled : Bool} {known : Agreement} {offer : Emission → Offer}
    {t t' : Task} {slot : Option Slot} {e : Option Emission}
    (hmove : t.Moves options cancelled known offer t' slot e) (ht : t.BelongsTo names) :
    t'.BelongsTo names ∧ ∀ e', e = some e' → e'.BelongsTo names := by
  cases hmove with
  | openFails error => exact ⟨trivial, by simp⟩
  | openShares _ => exact ⟨ht _ rfl, by simp⟩
  | openAlone _ => exact ⟨Opened.belongsTo_body (ht _ rfl), by simp⟩
  | agrees _ _ => exact ⟨Opened.belongsTo_body ht, by simp⟩
  | differs _ _ => exact ⟨trivial, by simp⟩
  | looks rest =>
    refine ⟨?_, by simp⟩
    -- the look takes the first emission up, or drops all of them
    cases rest with
    | nil => trivial
    | cons e rest => cases cancelled <;> cases e <;> first | exact ht | trivial
  | offers e rest =>
    refine ⟨?_, by simp⟩
    cases cancelled with
    | false => exact ht
    | true => exact Task.belongsTo_givenUp e
  | @delivers e rest _ =>
    refine ⟨?_, ?_⟩
    · have hrest : ∀ e' ∈ rest, e'.BelongsTo names := fun e' he' =>
        ht e' (List.mem_cons_of_mem _ he')
      cases e <;> first | exact hrest | trivial
    · rintro e' ⟨⟩
      exact ht e List.mem_cons_self
  | @loses e rest _ => exact ⟨Task.belongsTo_givenUp e, by simp⟩
  | @quits e rest _ => exact ⟨Task.belongsTo_givenUp e, by simp⟩
  | ends => exact ⟨trivial, by simp⟩
  | reports error =>
    refine ⟨?_, by simp⟩
    intro e he
    rw [List.mem_singleton.1 he]
    exact Emission.belongsTo_failure error

namespace Reading

variable {r r' : Reading} {scope : Scope} {i : Nat}

theorem BelongsTo.place (h : r.BelongsTo names) {t : Task} (ht : t.BelongsTo names)
    (slot : Option Slot) : (r.place i t slot).BelongsTo names := by
  intro t' ht'
  rcases List.mem_or_eq_of_mem_set ht' with hbefore | rfl
  · exact h t' hbefore
  · exact ht

theorem BelongsTo.advance (h : r.BelongsTo names) {offer : Emission → Offer}
    {e : Option Emission} (hstep : r.advance? scope offer i = some (r', e)) :
    r'.BelongsTo names ∧ ∀ e', e = some e' → e'.BelongsTo names := by
  rcases advance?_cases hstep with ⟨t, t', slot, ht, hmove, rfl⟩
  rcases hmove.belongsTo (h t (List.mem_of_getElem? ht)) with ⟨hkept, hemitted⟩
  exact ⟨h.place hkept slot, hemitted⟩

theorem BelongsTo.quit (h : r.BelongsTo names) (hstep : r.quit? scope i = some r') :
    r'.BelongsTo names := by
  rcases quit?_cases (fun _ => .full) hstep with ⟨t, t', slot, ht, hmove, rfl⟩
  exact h.place (hmove.belongsTo (h t (List.mem_of_getElem? ht))).1 slot

/-- At its start a reading has its sources to open, and each of them goes by its name. -/
theorem belongsTo_openAll (files : Files) (paths : List Path) :
    (ofSources options (openAll options files paths)).BelongsTo (Source.names paths) := by
  intro t ht
  rcases List.mem_map.1 ht with ⟨source, hsource, rfl⟩
  rcases List.getElem?_of_mem hsource with ⟨i, hi⟩
  rcases openAll_cases hi with ⟨name, p, _, hname, rfl⟩
  intro o ho
  rw [(Opened.ofPath_cases ho).1]
  exact List.mem_of_getElem? hname

end Reading

end Source
end RecordFlow
