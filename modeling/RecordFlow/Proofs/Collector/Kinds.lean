import Mathlib.Algebra.GroupWithZero.Nat
import Mathlib.Data.List.Count
import Mathlib.Data.List.Induction
import Mathlib.Data.List.Nodup
import Mathlib.Data.List.Perm.Basic
import RecordFlow.Collector

/-!
# Kinds — how often each kind of error occurs

The counts by kind list every kind that occurs once, in the order of the first occurrences, together
with the number of times it occurs.  So they say the same of errors that came in another order, in
an order of their own.
-/

namespace RecordFlow

variable {α : Type} [DecidableEq α]

theorem mem_countOne_iff {kind k : α} {n : Nat} {counts : List (α × Nat)}
    (hdistinct : (counts.map Prod.fst).Nodup) :
    (k, n) ∈ countOne kind counts ↔
      if k = kind then
        (∃ m, (k, m) ∈ counts ∧ n = m + 1) ∨ (k ∉ counts.map Prod.fst ∧ n = 1)
      else (k, n) ∈ counts := by
  induction counts with
  | nil => by_cases hk : k = kind <;> simp [countOne, hk]
  | cons count rest ih =>
    rcases count with ⟨first, m⟩
    rcases List.nodup_cons.1 hdistinct with ⟨hfirst, hrest⟩
    by_cases hsame : first = kind
    · -- the kind is found here, and nowhere else
      subst hsame
      have helse : ∀ j, (first, j) ∉ rest :=
        fun j hj => hfirst (List.mem_map.2 ⟨(first, j), hj, rfl⟩)
      by_cases hk : k = first
      · subst hk
        simp [countOne, helse]
      · simp [countOne, hk]
    · by_cases hk : k = kind
      · subst hk
        have hne : k ≠ first := fun h => hsame h.symm
        simp [countOne, hsame, hne, ih hrest]
      · simp [countOne, hsame, hk, ih hrest]

/-- To count one more of a kind lists no other kind. -/
theorem keys_countOne (kind : α) (counts : List (α × Nat)) :
    (countOne kind counts).map Prod.fst =
      if kind ∈ counts.map Prod.fst then counts.map Prod.fst
      else counts.map Prod.fst ++ [kind] := by
  induction counts with
  | nil => simp [countOne]
  | cons count rest ih =>
    rcases count with ⟨first, m⟩
    by_cases hsame : first = kind
    · simp [countOne, hsame]
    · have hne : kind ≠ first := fun h => hsame h.symm
      by_cases hmem : kind ∈ rest.map Prod.fst
      · rw [if_pos hmem] at ih
        simp_all [countOne]
      · rw [if_neg hmem] at ih
        simp_all [countOne]

theorem countKinds_append_singleton (kinds : List α) (last : α) :
    countKinds (kinds ++ [last]) = countOne last (countKinds kinds) := by
  simp [countKinds]

theorem nodup_keys_countKinds (kinds : List α) :
    ((countKinds kinds).map Prod.fst).Nodup := by
  induction kinds using List.reverseRecOn with
  | nil => simp [countKinds]
  | append_singleton kinds last ih =>
    rw [countKinds_append_singleton, keys_countOne]
    split
    · exact ih
    · rename_i hnew
      exact List.Nodup.append ih (List.nodup_singleton _) (by simpa using hnew)

/-- The counts list the kinds that occur, each with the number of its occurrences. -/
theorem mem_countKinds_iff (kinds : List α) (k : α) (n : Nat) :
    (k, n) ∈ countKinds kinds ↔ k ∈ kinds ∧ n = kinds.count k := by
  induction kinds using List.reverseRecOn generalizing n with
  | nil => simp [countKinds]
  | append_singleton kinds last ih =>
    have hkeys : k ∈ (countKinds kinds).map Prod.fst ↔ k ∈ kinds := by
      constructor
      · intro hk
        rcases List.mem_map.1 hk with ⟨⟨_, m⟩, hm, rfl⟩
        exact ((ih m).1 hm).1
      · intro hk
        exact List.mem_map_of_mem (f := Prod.fst) ((ih _).2 ⟨hk, rfl⟩)
    rw [countKinds_append_singleton, mem_countOne_iff (nodup_keys_countKinds kinds)]
    by_cases hk : k = last
    · subst hk
      by_cases hmem : k ∈ kinds
      · simp [hkeys, ih, hmem]
      · simp [hkeys, ih, hmem, List.count_eq_zero_of_not_mem hmem]
    · have hne : ¬ last = k := fun h => hk h.symm
      simp [hk, hne, ih, List.count_append]

/-- The kinds are listed as they were first seen. -/
theorem pairwise_keys_countKinds (kinds : List α) :
    ((countKinds kinds).map Prod.fst).Pairwise fun k l => kinds.idxOf k < kinds.idxOf l := by
  induction kinds using List.reverseRecOn with
  | nil => simp [countKinds]
  | append_singleton kinds last ih =>
    have hkeys : ∀ k ∈ (countKinds kinds).map Prod.fst, k ∈ kinds := by
      intro k hk
      rcases List.mem_map.1 hk with ⟨⟨_, n⟩, hn, rfl⟩
      exact ((mem_countKinds_iff kinds _ _).1 hn).1
    -- another kind behind them changes no first place
    have hbefore : ((countKinds kinds).map Prod.fst).Pairwise fun k l =>
        (kinds ++ [last]).idxOf k < (kinds ++ [last]).idxOf l := by
      refine ih.imp_of_mem fun {k l} hk hl hlt => ?_
      rwa [List.idxOf_append_of_mem (hkeys k hk), List.idxOf_append_of_mem (hkeys l hl)]
    rw [countKinds_append_singleton, keys_countOne]
    split
    · exact hbefore
    · rename_i hnew
      have hlast : last ∉ kinds := fun hmem =>
        hnew (List.mem_map.2 ⟨_, (mem_countKinds_iff kinds last _).2 ⟨hmem, rfl⟩, rfl⟩)
      refine List.pairwise_append.2 ⟨hbefore, List.pairwise_singleton _ _, ?_⟩
      intro k hk l hl
      rw [List.mem_singleton.1 hl, List.idxOf_append_of_mem (hkeys k hk),
        List.idxOf_append_of_notMem hlast, List.idxOf_cons_self, Nat.add_zero]
      exact List.idxOf_lt_length_of_mem (hkeys k hk)

theorem sum_countOne (kind : α) (counts : List (α × Nat)) :
    ((countOne kind counts).map Prod.snd).sum = (counts.map Prod.snd).sum + 1 := by
  induction counts with
  | nil => rfl
  | cons count rest ih =>
    rcases count with ⟨first, m⟩
    by_cases hsame : first = kind
    · simp only [countOne, hsame, if_true, List.map_cons, List.sum_cons]
      omega
    · simp only [countOne, hsame, if_false, List.map_cons, List.sum_cons, ih]
      omega

/-- The counts by kind add up to the count of all. -/
theorem sum_countKinds (kinds : List α) :
    ((countKinds kinds).map Prod.snd).sum = kinds.length := by
  induction kinds using List.reverseRecOn with
  | nil => rfl
  | append_singleton kinds last ih =>
    rw [countKinds_append_singleton, sum_countOne, ih, List.length_append, List.length_singleton]

/-- The counts by kind do not depend on the order, but for their own. -/
theorem countKinds_perm {kinds kinds' : List α} (h : kinds.Perm kinds') :
    (countKinds kinds).Perm (countKinds kinds') := by
  have hnodup : ∀ kinds : List α, (countKinds kinds).Nodup :=
    fun kinds => (nodup_keys_countKinds kinds).of_map _
  refine (List.perm_ext_iff_of_nodup (hnodup kinds) (hnodup kinds')).2 ?_
  rintro ⟨k, n⟩
  rw [mem_countKinds_iff, mem_countKinds_iff, h.mem_iff, h.count_eq]

end RecordFlow
