import Mathlib.Data.List.Nodup
import Mathlib.Data.List.Perm.Basic
import Mathlib.Data.String.Basic
import RecordFlow.Config.Basic

/-!
# Merging — one configuration laid over another

A table of aliases is kept in the order of its names, each of which it has once
(`Config.Ordered`), so that it is what its names stand for and nothing else (`Ordered.ext`).  What
a name stands for in a merged configuration is what it stands for in the overlay, and in the base
where the overlay does not know it (`alias?_merge`).  The laws of merging follow from that, name by
name.
-/

namespace RecordFlow
namespace Config

/-! ## Ordered tables -/

/-- What a table says that a name stands for. -/
def meaning? (table : List (String × String)) (name : String) : Option String :=
  (table.find? fun a => a.1 == name).map (·.2)

/-- Whether the names of a table stand in their order, each once. -/
def Sorted (table : List (String × String)) : Prop :=
  table.Pairwise fun a b => a.1 < b.1

/-- Whether the aliases of a configuration stand in the order of their names, each once. -/
def Ordered (c : Config) : Prop := Sorted c.aliases

theorem alias?_eq (c : Config) (name : String) : c.alias? name = meaning? c.aliases name := rfl

@[simp]
theorem meaning?_nil (name : String) : meaning? [] name = none := rfl

theorem meaning?_cons (entry : String × String) (table : List (String × String)) (name : String) :
    meaning? (entry :: table) name =
      if entry.1 = name then some entry.2 else meaning? table name := by
  by_cases h : entry.1 = name <;> simp [meaning?, h]

theorem meaning?_setAlias (name value : String) (table : List (String × String)) (n : String) :
    meaning? (setAlias name value table) n = if name = n then some value else meaning? table n :=
  find?_setAlias name value table n

/-- In an ordered table a name stands for the value of its one entry. -/
theorem mem_iff_meaning? {table : List (String × String)} (hsorted : Sorted table)
    (entry : String × String) : entry ∈ table ↔ meaning? table entry.1 = some entry.2 := by
  induction table with
  | nil => simp
  | cons first rest ih =>
    rcases List.pairwise_cons.1 hsorted with ⟨hfirst, hrest⟩
    rw [List.mem_cons, meaning?_cons]
    by_cases hname : first.1 = entry.1
    · -- no later entry has the name of the first one
      have hlater : entry ∉ rest := fun hmem => absurd (hfirst entry hmem) (by simp [hname])
      simp [hname, hlater, Prod.ext_iff, eq_comm]
    · have hother : entry ≠ first := fun heq => hname (congrArg Prod.fst heq.symm)
      simp [hname, hother, ih hrest]

/-- An ordered table is what its names stand for. -/
theorem Sorted.ext {table table' : List (String × String)} (hsorted : Sorted table)
    (hsorted' : Sorted table') (hmeaning : ∀ name, meaning? table name = meaning? table' name) :
    table = table' := by
  have hnodup : ∀ {table : List (String × String)}, Sorted table → table.Nodup := by
    intro table hsorted
    refine hsorted.imp ?_
    rintro a b hlt rfl
    exact lt_irrefl _ hlt
  -- the two have the same entries, and only one order of them is the order of the names
  have hperm : table.Perm table' := by
    refine (List.perm_ext_iff_of_nodup (hnodup hsorted) (hnodup hsorted')).2 fun entry => ?_
    rw [mem_iff_meaning? hsorted, mem_iff_meaning? hsorted', hmeaning]
  refine hperm.eq_of_pairwise ?_ hsorted hsorted'
  intro a b _ _ hab hba
  exact absurd hab (lt_asymm hba)

/-- To set a name brings no other name into the table. -/
theorem fst_of_mem_setAlias {name value : String} {table : List (String × String)}
    {entry : String × String} (h : entry ∈ setAlias name value table) :
    entry.1 = name ∨ entry ∈ table := by
  induction table with
  | nil => exact .inl (congrArg Prod.fst (List.mem_singleton.1 h))
  | cons first rest ih =>
    unfold setAlias at h
    split at h
    · rcases List.mem_cons.1 h with rfl | hmem
      · exact .inl rfl
      · exact .inr (List.mem_cons_of_mem _ hmem)
    · split at h
      · rcases List.mem_cons.1 h with rfl | hmem
        · exact .inl rfl
        · exact .inr hmem
      · rcases List.mem_cons.1 h with rfl | hmem
        · exact .inr List.mem_cons_self
        · rcases ih hmem with hname | hmem
          · exact .inl hname
          · exact .inr (List.mem_cons_of_mem _ hmem)

theorem Sorted.setAlias {table : List (String × String)} (hsorted : Sorted table)
    (name value : String) : Sorted (setAlias name value table) := by
  induction table with
  | nil => exact List.pairwise_singleton _ _
  | cons first rest ih =>
    rcases List.pairwise_cons.1 hsorted with ⟨hfirst, hrest⟩
    unfold Config.setAlias
    split
    case isTrue hsame =>
      refine List.pairwise_cons.2 ⟨fun entry hmem => ?_, hrest⟩
      rw [← hsame]
      exact hfirst entry hmem
    case isFalse hother =>
      split
      case isTrue hbefore =>
        refine List.pairwise_cons.2 ⟨fun entry hmem => ?_, hsorted⟩
        rcases List.mem_cons.1 hmem with rfl | hmem
        · exact hbefore
        · exact hbefore.trans (hfirst entry hmem)
      case isFalse hbehind =>
        refine List.pairwise_cons.2 ⟨fun entry hmem => ?_, ih hrest⟩
        rcases fst_of_mem_setAlias hmem with hname | hmem
        · exact hname ▸ lt_of_le_of_ne (not_lt.1 hbehind) hother
        · exact hfirst entry hmem

/-! ## Overlays -/

/-- A table with the entries of another one set in it, one after the other. -/
def setAll (base overlay : List (String × String)) : List (String × String) :=
  overlay.foldl (fun table a => setAlias a.1 a.2 table) base

theorem Sorted.setAll {base : List (String × String)} (hbase : Sorted base)
    (overlay : List (String × String)) : Sorted (setAll base overlay) := by
  induction overlay generalizing base with
  | nil => exact hbase
  | cons first rest ih => exact ih (hbase.setAlias first.1 first.2)

/-- The overlay is asked first. -/
theorem meaning?_setAll (base : List (String × String)) {overlay : List (String × String)}
    (hsorted : Sorted overlay) (name : String) :
    meaning? (setAll base overlay) name =
      (meaning? overlay name).or (meaning? base name) := by
  induction overlay generalizing base with
  | nil => rfl
  | cons first rest ih =>
    rcases List.pairwise_cons.1 hsorted with ⟨hfirst, hrest⟩
    have hset : meaning? (setAll base (first :: rest)) name =
        (meaning? rest name).or
          (if first.1 = name then some first.2 else meaning? base name) := by
      rw [← meaning?_setAlias]
      exact ih (setAlias first.1 first.2 base) hrest
    rw [hset, meaning?_cons]
    by_cases hname : first.1 = name
    · -- what is set first is set once
      have hnone : meaning? rest name = none := by
        cases hvalue : meaning? rest name with
        | none => rfl
        | some value =>
          have hmem := (mem_iff_meaning? hrest (name, value)).2 hvalue
          exact absurd (hfirst _ hmem) (by simp [hname])
      simp [hname, hnone]
    · simp [hname]

/-! ## Configurations -/

variable {a b c : Config}

/-- An ordered configuration is its defaults, and what its names stand for. -/
theorem Ordered.ext (ha : a.Ordered) (hb : b.Ordered) (hdefaults : a.defaults = b.defaults)
    (halias : ∀ name, a.alias? name = b.alias? name) : a = b := by
  have htables : a.aliases = b.aliases := Sorted.ext ha hb halias
  cases a
  cases b
  simp_all

theorem ordered_empty : empty.Ordered := List.Pairwise.nil

theorem Ordered.merge (ha : a.Ordered) (b : Config) : (a.merge b).Ordered :=
  Sorted.setAll ha b.aliases

theorem defaults_merge (a b : Config) : (a.merge b).defaults = b.defaults.or a.defaults :=
  Option.orElse_eq_or

theorem alias?_merge (a : Config) (hb : b.Ordered) (name : String) :
    (a.merge b).alias? name = (b.alias? name).or (a.alias? name) :=
  meaning?_setAll a.aliases hb name

/-- A configuration with one more alias. -/
def withAlias (c : Config) (name value : String) : Config :=
  { c with aliases := setAlias name value c.aliases }

theorem alias?_withAlias (c : Config) (name value n : String) :
    (c.withAlias name value).alias? n = if name = n then some value else c.alias? n :=
  meaning?_setAlias name value c.aliases n

theorem Ordered.withAlias (hc : c.Ordered) (name value : String) :
    (c.withAlias name value).Ordered :=
  Sorted.setAlias hc name value

/-- To set an alias in the overlay is to set it in what is merged. -/
theorem merge_withAlias (ha : a.Ordered) (hb : b.Ordered) (name value : String) :
    a.merge (b.withAlias name value) = (a.merge b).withAlias name value := by
  refine (ha.merge _).ext ((ha.merge b).withAlias name value) rfl fun n => ?_
  rw [alias?_merge a (hb.withAlias name value), alias?_withAlias, alias?_withAlias,
    alias?_merge a hb]
  by_cases hname : name = n
  · simp [hname]
  · simp [hname]

/-! ## Laws -/

theorem merge_assoc (ha : a.Ordered) (hb : b.Ordered) (hc : c.Ordered) :
    (a.merge b).merge c = a.merge (b.merge c) := by
  refine ((ha.merge b).merge c).ext (ha.merge _) ?_ fun name => ?_
  · simp only [defaults_merge, Option.or_assoc]
  · rw [alias?_merge _ hc, alias?_merge _ hb, alias?_merge _ (hb.merge c), alias?_merge _ hc,
      Option.or_assoc]

theorem empty_merge (ha : a.Ordered) : empty.merge a = a := by
  refine (ordered_empty.merge a).ext ha ?_ fun name => ?_
  · rw [defaults_merge]
    exact Option.or_none
  · rw [alias?_merge _ ha]
    exact Option.or_none

theorem merge_empty (a : Config) : a.merge empty = a := rfl

theorem merge_self (ha : a.Ordered) : a.merge a = a := by
  refine (ha.merge a).ext ha ?_ fun name => ?_
  · rw [defaults_merge, Option.or_self]
  · rw [alias?_merge _ ha, Option.or_self]

end Config
end RecordFlow
