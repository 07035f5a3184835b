import Mathlib.Data.List.Perm.Basic
import RecordFlow.Proofs.Ledger.Concord
import RecordFlow.Proofs.Split
import RecordFlow.Run.Basic

/-!
# Names — what a source goes by tells it from the others

A source goes by its file name, or by the text of its path.  A file name is a path of its own, with
itself as its file name (`Path.fileName?_fileName`).  So a source that is given by no more than the
file name of another one shares it, and then both go by their paths.

Hence two sources have the same name exactly when they have the same path (`names_eq_iff`), and on
the board of a run each has its own tracker.
-/

namespace RecordFlow

namespace Path

theorem eq_of_text {p q : Path} (h : p.text = q.text) : p = q := by
  cases p
  cases q
  exact congrArg Path.mk h

theorem fileName?_eq_some_iff {p : Path} {name : String} :
    p.fileName? = some name ↔ p.components.getLast? = some name ∧ name ≠ ".." := by
  unfold fileName?
  cases hlast : p.components.getLast? with
  | none => simp
  | some last =>
    by_cases hup : last = ".."
    · simp only [hup, if_true, Option.some_inj]
      exact iff_of_false (fun h => nomatch h) (fun h => h.2 h.1.symm)
    · simp only [hup, if_false, Option.some_inj]
      exact ⟨fun h => ⟨h, h ▸ hup⟩, fun h => h.1⟩

/-- A file name has itself as its file name. -/
theorem fileName?_fileName {p : Path} {name : String} (h : p.fileName? = some name) :
    (Path.mk name).fileName? = some name := by
  rcases fileName?_eq_some_iff.1 h with ⟨hlast, hup⟩
  -- the name is one piece of the path, so that there is no slash in it
  rcases List.mem_map.1 (List.mem_of_getLast? hlast) with ⟨piece, hpiece, rfl⟩
  rcases List.mem_filter.1 hpiece with ⟨hmem, hkept⟩
  have hsays : piece ≠ [] ∧ piece ≠ ['.'] := of_decide_eq_true hkept
  have hpieces : (Path.mk (String.ofList piece)).pieces = [piece] := by
    rw [pieces, String.toList_ofList]
    exact List.splitOn_eq_singleton (Split.notMem_of_mem hmem)
  have hcomponents : (Path.mk (String.ofList piece)).components = [String.ofList piece] := by
    simp [components, hpieces, hsays]
  exact fileName?_eq_some_iff.2 ⟨by rw [hcomponents]; rfl, hup⟩

end Path

namespace Source

/-! ## Short names -/

theorem shortName_of_fileName? {p : Path} {name : String} (h : p.fileName? = some name) :
    shortName p = name := by
  rw [shortName, h, Option.getD_some]

/-- A source whose path is the short name of another one shares that name. -/
theorem shortName_of_text_eq {p q : Path} (h : q.text = shortName p) :
    shortName q = shortName p := by
  cases hname : p.fileName? with
  | none =>
    -- the short name is the path itself
    rw [shortName, hname, Option.getD_none] at h
    rw [Path.eq_of_text h]
  | some name =>
    rw [shortName_of_fileName? hname] at h ⊢
    have hq : q = ⟨name⟩ := Path.eq_of_text h
    rw [hq]
    exact shortName_of_fileName? (Path.fileName?_fileName hname)

/-- What has a file name for its short name has it for its file name. -/
theorem fileName?_of_shortName {p q : Path} {name : String} (hname : p.fileName? = some name)
    (h : shortName q = name) : q.fileName? = some name := by
  cases hq : q.fileName? with
  | some other => rw [← h, shortName_of_fileName? hq]
  | none =>
    rw [shortName, hq, Option.getD_none] at h
    have hown := Path.fileName?_fileName hname
    rw [← h, hq] at hown
    cases hown

/-! ## Names of a list -/

variable {paths : List Path} {i j : Nat} {p q : Path}

theorem getElem?_names (hp : paths[i]? = some p) :
    (names paths)[i]? =
      some (if 1 < (paths.map shortName).count (shortName p) then p.text else shortName p) := by
  simp [names, hp]

/-- A short name is shared when two places have it. -/
theorem one_lt_count_iff (hp : paths[i]? = some p) :
    1 < (paths.map shortName).count (shortName p) ↔
      ∃ j q, j ≠ i ∧ paths[j]? = some q ∧ shortName q = shortName p := by
  rcases List.getElem?_eq_some_iff.1 hp with ⟨hi, rfl⟩
  -- one of the occurrences is at the place itself
  have hperm : (shortName paths[i] :: (paths.eraseIdx i).map shortName).Perm
      (paths.map shortName) :=
    (List.getElem_cons_eraseIdx_perm hi).map shortName
  rw [← hperm.count_eq, List.count_cons_self, Nat.lt_add_left_iff_pos, List.count_pos_iff,
    List.mem_map]
  constructor
  · rintro ⟨q, hq, hsame⟩
    rcases List.mem_eraseIdx_iff_getElem?.1 hq with ⟨j, hji, hj⟩
    exact ⟨j, q, hji, hj, hsame⟩
  · rintro ⟨j, q, hji, hj, hsame⟩
    exact ⟨q, List.mem_eraseIdx_iff_getElem?.2 ⟨j, hji, hj⟩, hsame⟩

/-- The names of two sources are the same exactly when their paths are. -/
theorem names_eq_iff (hp : paths[i]? = some p) (hq : paths[j]? = some q) :
    (names paths)[i]? = (names paths)[j]? ↔ p.text = q.text := by
  by_cases hij : i = j
  · subst hij
    rw [hp] at hq
    cases hq
    exact iff_of_true rfl rfl
  · have hshared : shortName p = shortName q →
        1 < (paths.map shortName).count (shortName p) ∧
          1 < (paths.map shortName).count (shortName q) := by
      intro hsame
      exact ⟨(one_lt_count_iff hp).2 ⟨j, q, Ne.symm hij, hq, hsame.symm⟩,
        (one_lt_count_iff hq).2 ⟨i, p, hij, hp, hsame⟩⟩
    rw [getElem?_names hp, getElem?_names hq, Option.some_inj]
    constructor
    · intro hnames
      -- a short name that is not shared is neither the short name nor the path of the other one
      by_cases hsp : 1 < (paths.map shortName).count (shortName p)
      · by_cases hsq : 1 < (paths.map shortName).count (shortName q)
        · rwa [if_pos hsp, if_pos hsq] at hnames
        · rw [if_pos hsp, if_neg hsq] at hnames
          exact absurd (hshared (shortName_of_text_eq hnames)).2 hsq
      · by_cases hsq : 1 < (paths.map shortName).count (shortName q)
        · rw [if_neg hsp, if_pos hsq] at hnames
          exact absurd (hshared (shortName_of_text_eq hnames.symm).symm).1 hsp
        · rw [if_neg hsp, if_neg hsq] at hnames
          exact absurd (hshared hnames).1 hsp
    · intro htext
      rw [Path.eq_of_text htext]

/-- A file name that no other source has is kept. -/
theorem names_of_unshared {file : String} (hp : paths[i]? = some p)
    (hfile : p.fileName? = some file)
    (hothers : ∀ j q, j ≠ i → paths[j]? = some q → q.fileName? ≠ some file) :
    (names paths)[i]? = some file := by
  have hshort := shortName_of_fileName? hfile
  have hunshared : ¬ 1 < (paths.map shortName).count (shortName p) := by
    rw [one_lt_count_iff hp]
    rintro ⟨j, q, hji, hq, hsame⟩
    exact hothers j q hji hq (fileName?_of_shortName hfile (hsame.trans hshort))
  rw [getElem?_names hp, if_neg hunshared, hshort]

/-! ## Trackers -/

/-- Every source of a run has its tracker from the start. -/
theorem source?_isSome_of_name (options : RunOptions) (output : Output) (now : Instant) {i : Nat}
    {name : String} (hname : (names options.sources)[i]? = some name) :
    ((Run.ofOptions options output now).ledger.board.source? name).isSome := by
  have hplaces := (Board.fresh_empty options.progress now.steady).foldl_addSource
    (names options.sources) now.steady
  rw [List.nil_append] at hplaces
  exact (Board.mem_names_iff _ name).1 ((hplaces.names name).2 (List.mem_of_getElem? hname))

/-- A result leaves the trackers alone that go by another name. -/
theorem source?_record_of_ne (b : Board) (status : Status) {source name : String}
    (hne : name ≠ source) : (b.record source status).source? name = b.source? name := by
  unfold Board.record Board.source?
  rw [List.find?_map, Option.map_map]
  cases hfound : b.sources.find? fun s => s.1 == name with
  | none => simp [Function.comp_def, hfound]
  | some s =>
    have hs : s.1 = name := by simpa using List.find?_some hfound
    simp [Function.comp_def, hfound, hs, hne]

/-- The names of the sources of a run tell the sources apart:

* every source has one, its file name or the text of its path,
* two have the same name exactly when they have the same path,
* a file name that no other source has is kept,
* two sources with different paths have two trackers, and a result of the one is never counted by
  the tracker of the other. -/
theorem names_identify_sources (options : RunOptions) (output : Output) (now : Instant) :
    (names options.sources).length = options.sources.length ∧
    (∀ (i : Nat) (p : Path), options.sources[i]? = some p →
      ∃ name, (names options.sources)[i]? = some name ∧
        (name = p.text ∨ p.fileName? = some name)) ∧
    (∀ (i j : Nat) (p q : Path), options.sources[i]? = some p → options.sources[j]? = some q →
      ((names options.sources)[i]? = (names options.sources)[j]? ↔ p.text = q.text)) ∧
    (∀ (i : Nat) (p : Path) (file : String),
      options.sources[i]? = some p → p.fileName? = some file →
      (∀ j q, j ≠ i → options.sources[j]? = some q → q.fileName? ≠ some file) →
      (names options.sources)[i]? = some file) ∧
    (∀ (i j : Nat) (p q : Path) (a b : String),
      options.sources[i]? = some p → options.sources[j]? = some q → p.text ≠ q.text →
      (names options.sources)[i]? = some a → (names options.sources)[j]? = some b →
      ((Run.ofOptions options output now).ledger.board.source? a).isSome ∧
      ((Run.ofOptions options output now).ledger.board.source? b).isSome ∧
      ∀ (board : Board) (status : Status),
        (board.record a status).source? b = board.source? b) := by
  refine ⟨by simp [names], ?_, fun i j p q => names_eq_iff, fun i p file => names_of_unshared, ?_⟩
  · intro i p hp
    refine ⟨_, getElem?_names hp, ?_⟩
    split
    · exact .inl rfl
    · cases hname : p.fileName? with
      | none => exact .inl (by rw [shortName, hname, Option.getD_none])
      | some name => exact .inr (by rw [shortName_of_fileName? hname])
  · intro i j p q a b hp hq htext ha hb
    have hne : b ≠ a := by
      rintro rfl
      exact htext ((names_eq_iff hp hq).1 (ha.trans hb.symm))
    exact ⟨source?_isSome_of_name options output now ha,
      source?_isSome_of_name options output now hb,
      fun board status => source?_record_of_ne board status hne⟩

/-- Two sources share a file name that one of them has for its path, another one steps up and has no
file name, and the last one has slashes and points around its own. -/
def entangled : RunOptions where
  reading := .standard
  sources := [⟨"x/a.csv"⟩, ⟨"a.csv"⟩, ⟨"x/.."⟩, ⟨"/y//./b.csv/"⟩]
  buffer := 1
  pool := ⟨1, 1, 1, 1⟩
  tolerance := ⟨0, .zero, false⟩
  progress := .silent 0
  reports := false
  signals := false

theorem names_identify_entangled :
    names entangled.sources = ["x/a.csv", "a.csv", "x/..", "b.csv"] ∧
      (names entangled.sources)[0]? ≠ (names entangled.sources)[1]? ∧
      (names entangled.sources)[3]? = some "b.csv" ∧
      ∀ (board : Board) (status : Status),
        (board.record "x/a.csv" status).source? "a.csv" = board.source? "a.csv" := by
  rcases names_identify_sources entangled .none default with ⟨_, _, hsame, hkept, htrackers⟩
  have hnames : names entangled.sources = ["x/a.csv", "a.csv", "x/..", "b.csv"] := by
    decide +kernel
  have hfile : ∀ p : Path, entangled.sources[3]? = some p → p.fileName? = some "b.csv" := by
    rintro p ⟨⟩
    decide +kernel
  have hothers : ∀ j q, j ≠ 3 → entangled.sources[j]? = some q → q.fileName? ≠ some "b.csv" := by
    intro j q hj hq
    have hall : ∀ q ∈ entangled.sources.eraseIdx 3, q.fileName? ≠ some "b.csv" := by decide +kernel
    exact hall q (List.mem_eraseIdx_iff_getElem?.2 ⟨j, hj, hq⟩)
  refine ⟨hnames, ?_, hkept 3 _ "b.csv" rfl (hfile _ rfl) hothers, ?_⟩
  · intro hequal
    exact absurd ((hsame 0 1 ⟨"x/a.csv"⟩ ⟨"a.csv"⟩ rfl rfl).1 hequal) (by decide)
  · exact (htrackers 0 1 ⟨"x/a.csv"⟩ ⟨"a.csv"⟩ _ _ rfl rfl (by decide) (by rw [hnames]; rfl)
      (by rw [hnames]; rfl)).2.2

end Source
end RecordFlow
