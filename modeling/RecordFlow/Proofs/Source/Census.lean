import Mathlib.Data.List.Perm.Basic
import RecordFlow.Proofs.Source.Rows

/-!
# Census — what all sources of a session come to

The emissions of an undisturbed session are those of its sources, in some order.  So the records are
the well-formed rows that the sources pass on, and the errors are those of the rows that they reject
and those that they end with.
-/

namespace RecordFlow

namespace Source

variable (options : Options) (sources : List (Except FlowError Opened)) (i : Nat)

/-- The records that the source at a place passes on. -/
def passedAt : List Record :=
  (sources[i]?.map (passed options (firstShared? options (sources.take i)))).getD []

/-- The records that the source at a place rejects, each with its error. -/
def rejectedAt : List RecordError :=
  (sources[i]?.map (rejected options (firstShared? options (sources.take i)))).getD []

/-- The error that the source at a place ends with. -/
def failureAt? : Option FlowError :=
  sources[i]?.bind (failure? options (firstShared? options (sources.take i)))

variable {options sources}

theorem isValid_of_mem_passedAt {i : Nat} {r : Record} (hr : r ∈ passedAt options sources i) :
    r.isValid = true := by
  cases hsource : sources[i]? with
  | none => simp [passedAt, hsource] at hr
  | some source =>
    rw [passedAt, hsource] at hr
    exact isValid_of_mem_passed hr

/-- Records that are passed on carry the name at their place. -/
theorem source_of_mem_passedAt {files : Files} {paths : List Path} {i : Nat} {r : Record}
    (hr : r ∈ passedAt options (openAll options files paths) i) :
    (names paths)[i]? = some r.source := by
  cases hsource : (openAll options files paths)[i]? with
  | none => simp [passedAt, hsource] at hr
  | some source =>
    rcases openAll_cases hsource with ⟨name, p, _, hname, rfl⟩
    rw [passedAt, hsource] at hr
    rw [hname, source_of_mem_passed hr]

theorem source_of_mem_rejectedAt {files : Files} {paths : List Path} {i : Nat} {e : RecordError}
    (he : e ∈ rejectedAt options (openAll options files paths) i) :
    ∃ r, e.record = some r ∧ (names paths)[i]? = some r.source := by
  cases hsource : (openAll options files paths)[i]? with
  | none => simp [rejectedAt, hsource] at he
  | some source =>
    rcases openAll_cases hsource with ⟨name, p, _, hname, rfl⟩
    rw [rejectedAt, hsource] at he
    rcases source_of_mem_rejected he with ⟨r, hrecord, hcarries⟩
    exact ⟨r, hrecord, by rw [hname, hcarries]⟩

namespace Session

/-- What a selection of all emissions gives is what it gives for one source after another. -/
theorem Completes.filterMap_emitted {β : Type} {s : Session} (h : s.Completes options sources)
    (pick : Emission → Option β) :
    (s.emitted.filterMap fun e => pick e.2).Perm
      ((List.range sources.length).flatMap fun i => (s.emittedBy i).filterMap pick) := by
  have hplaces : ∀ e ∈ s.emitted, e.1 < sources.length :=
    fun e he => lt_of_mem_emitted h.reaches (i := e.1) (e := e.2) he
  -- the emissions, sorted by the places of their sources
  refine ((perm_flatMap_places hplaces).filterMap _).trans (.of_eq ?_)
  rw [List.filterMap_flatMap]
  simp only [emittedBy, List.filterMap_map]
  rfl

theorem Completes.records_perm {s : Session} (h : s.Completes options sources) :
    (s.emitted.filterMap fun e => e.2.record?).Perm
      ((List.range sources.length).flatMap (passedAt options sources)) := by
  refine (h.filterMap_emitted Emission.record?).trans (.of_eq ?_)
  refine List.flatMap_congr fun i hi => ?_
  have hsource := List.getElem?_eq_getElem (List.mem_range.1 hi)
  rw [h.emittedBy_eq hsource, (emissions_rows options _ _).1, passedAt, hsource]
  rfl

/-- The errors are those of the rows that the sources reject, and those that they end with. -/
theorem Completes.rejections_perm {s : Session} (h : s.Completes options sources) :
    (s.emitted.filterMap fun e => e.2.rejection?).Perm
      ((List.range sources.length).flatMap (rejectedAt options sources) ++
        ((List.range sources.length).filterMap (failureAt? options sources)).map (⟨·, none⟩)) := by
  refine (h.filterMap_emitted Emission.rejection?).trans ?_
  have hplace : ∀ i ∈ List.range sources.length,
      (s.emittedBy i).filterMap Emission.rejection? =
        rejectedAt options sources i ++
          ((failureAt? options sources i).map (⟨·, none⟩)).toList := by
    intro i hi
    have hsource := List.getElem?_eq_getElem (List.mem_range.1 hi)
    rw [h.emittedBy_eq hsource, (emissions_rows options _ _).2, rejectedAt, failureAt?, hsource]
    rfl
  rw [List.flatMap_congr hplace]
  refine (List.flatMap_append_perm _ _ _).symm.trans (.of_eq ?_)
  rw [← List.filterMap_eq_flatMap_toList, List.map_filterMap]

end Session

end Source
end RecordFlow
