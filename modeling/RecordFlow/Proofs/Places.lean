import Mathlib.Algebra.BigOperators.Group.List.Basic
import Mathlib.Data.List.Perm.Basic

/-!
# Places — lists of which one place changes

The tasks of a reading and the workers of a pool stand in lists, and a step changes one place.  A
sum over such a list changes by what was at that place and what is there now; which other places
there are does not matter.  What the places have given, one entry after another, can be sorted by
place.
-/

namespace RecordFlow

variable {α : Type*} {M : Type*} [AddCommMonoid M]

/-- A sum over a list with one place set, and what was there before, against the sum before. -/
theorem sum_map_set (f : α → M) {l : List α} {i : Nat} {a : α} (b : α) (h : l[i]? = some a) :
    ((l.set i b).map f).sum + f a = (l.map f).sum + f b := by
  induction l generalizing i with
  | nil => simp at h
  | cons x l ih =>
    cases i with
    | zero =>
      have hx : x = a := by simpa using h
      subst hx
      simp only [List.set_cons_zero, List.map_cons, List.sum_cons]
      rw [add_assoc, add_comm (f b), add_comm (l.map f).sum]
    | succ i =>
      have hl : l[i]? = some a := by simpa using h
      simp only [List.set_cons_succ, List.map_cons, List.sum_cons]
      rw [add_assoc, ih hl, add_assoc]

theorem modify_eq_set {f : α → α} {l : List α} {i : Nat} {a : α} (h : l[i]? = some a) :
    l.modify i f = l.set i (f a) := by
  refine List.ext_getElem? fun j => ?_
  rw [List.getElem?_modify]
  by_cases hij : i = j
  · subst hij
    rcases List.getElem?_eq_some_iff.1 h with ⟨hlt, ha⟩
    simp [hlt, ha]
  · simp [hij]

/-- If a place gives something from what it has, then every place has before the change what it
gives and what it has behind it. -/
theorem sublist_bind_set {β : Type*} {f : α → Option β} {l : List α} {i : Nat} {a b : α}
    {x : Option β} (h : l[i]? = some a)
    (hgives : (x.toList ++ (f b).toList).Sublist (f a).toList) (j : Nat) :
    ((if i = j then x else none).toList ++ ((l.set i b)[j]?.bind f).toList).Sublist
      (l[j]?.bind f).toList := by
  rcases List.getElem?_eq_some_iff.1 h with ⟨hi, rfl⟩
  by_cases hij : i = j
  · subst hij
    simpa [hi] using hgives
  · simp [hij]

/-- A list of entries that carry places is, in another order, the entries of one place after
another. -/
theorem perm_flatMap_places {l : List (Nat × α)} {n : Nat} (h : ∀ x ∈ l, x.1 < n) :
    l.Perm ((List.range n).flatMap fun i => l.filter fun x => x.1 = i) := by
  -- place by place, the entries up to a place
  have hbelow : ∀ m, (l.filter fun x => x.1 < m).Perm
      ((List.range m).flatMap fun i => l.filter fun x => x.1 = i) := by
    intro m
    induction m with
    | zero => simp
    | succ m ih =>
      rw [List.range_succ, List.flatMap_append, List.flatMap_singleton]
      refine (List.filter_append_perm (fun x : Nat × α => decide (x.1 < m)) _).symm.trans ?_
      have hfront : ((l.filter fun x => x.1 < m + 1).filter fun x => x.1 < m) =
          l.filter fun x => x.1 < m := by
        rw [List.filter_filter]
        refine List.filter_congr fun x _ => ?_
        rw [← Bool.decide_and, decide_eq_decide]
        omega
      have hlast : ((l.filter fun x => x.1 < m + 1).filter fun x => !decide (x.1 < m)) =
          l.filter fun x => x.1 = m := by
        rw [List.filter_filter]
        refine List.filter_congr fun x _ => ?_
        rw [← decide_not, ← Bool.decide_and, decide_eq_decide]
        omega
      rw [hfront, hlast]
      exact ih.append_right _
  have hall : (l.filter fun x => x.1 < n) = l :=
    List.filter_eq_self.2 fun x hx => decide_eq_true (h x hx)
  have hlist := hbelow n
  rwa [hall] at hlist

/-- To pick among what the places have given is to pick the places, if a place gives all or nothing
that is picked. -/
theorem filter_flatMap_of {β γ : Type*} {picks : γ → Bool} {places : β → Bool} {f : β → List γ}
    {l : List β} (h : ∀ b ∈ l, ∀ c ∈ f b, picks c = places b) :
    (l.flatMap f).filter picks = (l.filter places).flatMap f := by
  induction l with
  | nil => rfl
  | cons b l ih =>
    have hrest := ih fun b hb => h b (List.mem_cons_of_mem _ hb)
    have hfirst := h b List.mem_cons_self
    rw [List.flatMap_cons, List.filter_append, hrest]
    cases hplace : places b with
    | true =>
      have hall : (f b).filter picks = f b :=
        List.filter_eq_self.2 fun c hc => (hfirst c hc).trans hplace
      rw [List.filter_cons_of_pos hplace, hall, List.flatMap_cons]
    | false =>
      have hnone : (f b).filter picks = [] :=
        List.filter_eq_nil_iff.2 fun c hc => by simp [hfirst c hc, hplace]
      rw [List.filter_cons_of_neg (by simp [hplace]), hnone, List.nil_append]

end RecordFlow
