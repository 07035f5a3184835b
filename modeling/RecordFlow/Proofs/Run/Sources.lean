import RecordFlow.Proofs.Run.Failures
import RecordFlow.Proofs.Source.Errors

/-!
# Sources — the sources of a run are a session

In a flow the sources are cancelled by the accounts or from outside, and a stream loses its
receivers when the workers are gone.  To the sources all that is what a session does around them:
every trace of a flow is one of a session without receivers, the scope of which is cancelled when
that of the flow is (`Flow.Trace.exists_session`).  So what sources report in a run is what they
report in a session (`Run.reports_of_mem_rejections`).
-/

namespace RecordFlow
namespace Flow

open Source (Session)

variable {handler : Handler} {f g : Flow} {log : Log} {move : Move}
  {e : Option (Nat × Source.Emission)} {event : Option (Moment × Event)} {s : Session}

/-- The sources of a flow with their scope, and what they have emitted; nobody receives it. -/
def mirror (f : Flow) (log : Log) : Session := ⟨f.reading, f.pool.scope, false, log.emitted⟩

theorem mirror_extend_none (f : Flow) (log : Log) (event : Option (Moment × Event)) :
    f.mirror (log.extend none event) = f.mirror log := by
  rw [mirror, Log.emitted_extend_none]
  rfl

/-- The scope of a session is cancelled along with another one. -/
theorem reaches_scope (s : Session) {scope : Scope}
    (h : s.scope.cancelled = true → scope.cancelled = true) :
    Session.Reaches s { s with scope } := by
  rcases s with ⟨reading, ⟨cancelled⟩, attended, emitted⟩
  rcases scope with ⟨cancelled'⟩
  cases cancelled with
  | true =>
    cases h rfl
    exact .refl
  | false =>
    cases cancelled' with
    | false => exact .refl
    | true => exact .single (.cancel _)

/-- What a turn does to the sources of a flow is what a session does. -/
theorem Turns.mirrors (h : f.Turns handler move e event g) :
    Session.Reaches (f.mirror log) (g.mirror (log.extend e event)) := by
  -- where no source takes a step, the scope may have been cancelled
  have hquiet : g.reading = f.reading → e = none →
      Session.Reaches (f.mirror log) (g.mirror (log.extend e event)) := by
    rintro hreading rfl
    have hafter : g.mirror log = { f.mirror log with scope := g.pool.scope } := by
      rw [mirror, hreading]
      rfl
    rw [mirror_extend_none, hafter]
    exact reaches_scope (f.mirror log) h.cancelled
  cases h with
  | @reads reading e i hadvance =>
    have hstep := Session.Step.advance (s := f.mirror log) i f.offer (fun _ _ => rfl) hadvance
    rw [close_eq, emitAny_eq]
    exact .single hstep
  | @givesUp reading i hquit =>
    have hstep := Session.Step.quit (s := f.mirror log) i hquit
    rw [close_eq, mirror_extend_none]
    exact .single hstep
  | works | takesResult | takesRejection | takesForwarded | escalates | stops =>
    exact hquiet rfl rfl

/-- Whatever disturbs a flow, its sources emit what they emit in a session. -/
theorem Trace.exists_session {options : Source.Options}
    {sources : List (Except FlowError Source.Opened)} (h : Trace handler f log g)
    (hreading : f.reading = .ofSources options sources) :
    ∃ s : Session, Session.Reaches (.ofSources options sources) s ∧ s.emitted = log.emitted := by
  refine ⟨g.mirror log, ?_, rfl⟩
  refine h.induction (P := fun log g =>
    Session.Reaches (.ofSources options sources) (g.mirror log)) ?_ ?_
  · -- the receivers leave at once, and the scope is the one that the flow begins with
    have hleave : Session.Reaches (.ofSources options sources)
        { Session.ofSources options sources with attended := false } := .single (.leave _)
    rw [mirror, hreading]
    exact hleave.trans (reaches_scope _ nofun)
  · intro log g m e event h _ hturn ih
    exact ih.trans hturn.mirrors

end Flow

namespace Run

variable {handler : Handler} {options : RunOptions} {output : Output} {files : Files}
  {created start : Instant} {log : Log} {f : Flow}

/-- What the sources of a run report, they report for one of the reasons of a source, under its name
and behind the first header that an earlier source shares. -/
theorem reports_of_mem_rejections
    (h : Flow.Trace handler ((ofOptions options output created).launch files start) log f)
    {error : RecordError} (herror : error ∈ log.rejections) :
    ∃ i name p, options.sources[i]? = some p ∧ (Source.names options.sources)[i]? = some name ∧
      Source.Reports options.reading files name p
        (Source.firstShared? options.reading
          ((Source.openAll options.reading files options.sources).take i)) error := by
  have hreading := reading_launch options output files created start
  rcases h.exists_session hreading with ⟨s, hs, hemitted⟩
  rcases List.mem_filterMap.1 herror with ⟨⟨i, e⟩, he, hrejection⟩
  rw [← hemitted] at he
  rcases Source.Session.reports_of_mem_emitted hs he hrejection with ⟨name, p, hp, hname, hreports⟩
  exact ⟨i, name, p, hp, hname, hreports⟩

end Run
end RecordFlow
