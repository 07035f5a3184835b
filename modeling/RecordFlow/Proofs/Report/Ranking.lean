import Mathlib.Algebra.BigOperators.Group.List.Lemmas
import Mathlib.Algebra.GroupWithZero.Nat
import Mathlib.Data.List.Dedup
import RecordFlow.Proofs.Collector.Kinds
import RecordFlow.Report

/-!
# Ranking — the most frequent messages

The entries are put into groups by their whole messages, in the order in which the messages were
first seen, and a stable sort by the sizes of the groups makes the ranking of them.  `Ranks` says
what a ranking is without either: every message has one group, which tells how many entries have the
message and the category of the first of them, and a message comes before another one if it occurs
more often, or as often and was seen first.  There is one such ranking (`Ranks.unique`), and it is
the one that is made (`ranks_ranked`).
-/

namespace RecordFlow

/-- A stable sort keeps the order of what it does not tell apart. -/
theorem pairwise_stableSort {α : Type} (le : α → α → Bool) {R : α → α → Prop} {l : List α}
    (htrans : ∀ a b c, le a b = true → le b c = true → le a c = true)
    (htotal : ∀ a b, (le a b || le b a) = true) (h : l.Pairwise R) :
    (l.mergeSort le).Pairwise fun a b => le a b = true ∧ (le b a = true → R a b) := by
  -- the sort is one of items with their places, which are different
  have hsorted := List.pairwise_mergeSort (List.zipIdxLE_trans htrans)
    (List.zipIdxLE_total htotal) l.zipIdx
  have hplaces : (l.zipIdx.mergeSort (List.zipIdxLE le)).Pairwise fun a b => a.2 ≠ b.2 := by
    have hrange : (l.zipIdx.map Prod.snd).Nodup := by
      rw [List.zipIdx_map_snd]
      exact List.nodup_range'
    exact (List.mergeSort_perm _ _).symm.pairwise (List.pairwise_map.1 hrange) Ne.symm
  rw [← List.mergeSort_zipIdx, List.pairwise_map]
  refine (hsorted.and hplaces).imp_of_mem ?_
  rintro ⟨a, i⟩ ⟨b, j⟩ ha hb ⟨hle, hne⟩
  have hi : l[i]? = some a := List.mem_zipIdx_iff_getElem?.1 (List.mem_mergeSort.1 ha)
  have hj : l[j]? = some b := List.mem_zipIdx_iff_getElem?.1 (List.mem_mergeSort.1 hb)
  have hab : le a b = true := by
    by_contra hnot
    simp [List.zipIdxLE, hnot] at hle
  refine ⟨hab, fun hba => ?_⟩
  have hij : i ≤ j := by simpa [List.zipIdxLE, hab, hba] using hle
  rcases List.getElem?_eq_some_iff.1 hi with ⟨hil, rfl⟩
  rcases List.getElem?_eq_some_iff.1 hj with ⟨hjl, rfl⟩
  exact List.pairwise_iff_getElem.1 h i j hil hjl (Nat.lt_of_le_of_ne hij hne)

namespace Report

/-! ## What a ranking is -/

/-- The messages of some entries. -/
def messages (entries : List Entry) : List String := entries.map fun e => e.error.message

/-- Whether a group tells of its message what there is to tell. -/
structure Describes (entries : List Entry) (g : Group) : Prop where
  occurs : g.message ∈ messages entries
  count : g.count = (messages entries).count g.message
  category : ∃ e, (entries.find? fun e => e.error.message = g.message) = some e ∧
    g.category = e.category

/-- A message comes before another one: it occurs more often, or as often and was seen first. -/
def Outranks (entries : List Entry) (m m' : String) : Prop :=
  (messages entries).count m' < (messages entries).count m ∨
    (messages entries).count m' = (messages entries).count m ∧
      (messages entries).idxOf m < (messages entries).idxOf m'

/-- A ranking of the messages of some entries. -/
structure Ranks (entries : List Entry) (gs : List Group) : Prop where
  describes : ∀ g ∈ gs, Describes entries g
  complete : ∀ m ∈ messages entries, ∃ g ∈ gs, g.message = m
  ordered : gs.Pairwise fun g g' => Outranks entries g.message g'.message

/-- What is shown of a message: all of it, or its front and three points. -/
inductive Shows (message : String) : String → Prop where
  | whole : message.length ≤ 100 → Shows message message
  | front {front rest : String} : message = front ++ rest → front.length = 100 → rest ≠ "" →
      Shows message (front ++ "...")

/-! ## One ranking -/

variable {entries : List Entry} {gs gs' : List Group}

theorem Describes.eq {g g' : Group} (h : Describes entries g) (h' : Describes entries g')
    (hmessage : g.message = g'.message) : g = g' := by
  rcases h.category with ⟨e, hfirst, hcategory⟩
  rcases h'.category with ⟨e', hfirst', hcategory'⟩
  rw [hmessage, hfirst', Option.some_inj] at hfirst
  have hcount : g.count = g'.count := by rw [h.count, h'.count, hmessage]
  have hsame : g.category = g'.category := by rw [hcategory, hcategory', hfirst]
  cases g
  cases g'
  simp_all

theorem Outranks.irrefl (m : String) : ¬ Outranks entries m m := by
  rintro (hcount | ⟨_, hplace⟩)
  · exact Nat.lt_irrefl _ hcount
  · exact Nat.lt_irrefl _ hplace

theorem Outranks.asymm {m m' : String} (h : Outranks entries m m') : ¬ Outranks entries m' m := by
  unfold Outranks at *
  omega

namespace Ranks

theorem nodup_messages (h : Ranks entries gs) : (gs.map Group.message).Nodup := by
  refine List.pairwise_map.2 (h.ordered.imp ?_)
  intro g g' houtranks hsame
  rw [hsame] at houtranks
  exact Outranks.irrefl _ houtranks

/-- The messages of a ranking are those of the entries, each once. -/
theorem perm_dedup (h : Ranks entries gs) :
    (gs.map Group.message).Perm (messages entries).dedup := by
  refine (List.perm_ext_iff_of_nodup h.nodup_messages (List.nodup_dedup _)).2 fun m => ?_
  rw [List.mem_dedup, List.mem_map]
  constructor
  · rintro ⟨g, hg, rfl⟩
    exact (h.describes g hg).occurs
  · exact h.complete m

theorem subset (h : Ranks entries gs) (h' : Ranks entries gs') : gs ⊆ gs' := by
  intro g hg
  have hdescribes := h.describes g hg
  rcases h'.complete _ hdescribes.occurs with ⟨g', hg', hmessage⟩
  rwa [hdescribes.eq (h'.describes g' hg') hmessage.symm]

/-- There is one ranking. -/
theorem unique (h : Ranks entries gs) (h' : Ranks entries gs') : gs = gs' := by
  have hperm : gs.Perm gs' :=
    (List.perm_ext_iff_of_nodup h.nodup_messages.of_map h'.nodup_messages.of_map).2 fun g =>
      ⟨fun hg => h.subset h' hg, fun hg => h'.subset h hg⟩
  refine List.Perm.eq_of_pairwise ?_ h.ordered h'.ordered hperm
  intro g g' _ _ hbefore hbehind
  exact absurd hbehind hbefore.asymm

/-- The groups of a ranking hold all entries. -/
theorem sum_counts (h : Ranks entries gs) : (gs.map Group.count).sum = entries.length := by
  have hcounts : gs.map Group.count =
      (gs.map Group.message).map fun m => (messages entries).count m := by
    rw [List.map_map]
    exact List.map_congr_left fun g hg => (h.describes g hg).count
  calc (gs.map Group.count).sum
      = ((messages entries).dedup.map fun m => (messages entries).count m).sum := by
        rw [hcounts]
        exact (h.perm_dedup.map _).sum_eq
    _ = (messages entries).length := List.sum_map_count_dedup_eq_length _
    _ = entries.length := List.length_map _

end Ranks

/-! ## The groups -/

/-- What a group counts. -/
def Group.tally (g : Group) : String × Nat := (g.message, g.count)

theorem tally_addToGroup (e : Entry) (gs : List Group) :
    (addToGroup e gs).map Group.tally = countOne e.error.message (gs.map Group.tally) := by
  induction gs with
  | nil => rfl
  | cons g rest ih =>
    by_cases hsame : g.message = e.error.message
    · simp [addToGroup, countOne, Group.tally, hsame]
    · simp [addToGroup, countOne, Group.tally, hsame, ← ih]

/-- A group behind a new entry is an old one but for its count, or one of a new message. -/
theorem mem_addToGroup {e : Entry} {g : Group} (h : g ∈ addToGroup e gs) :
    (∃ g' ∈ gs, g'.message = g.message ∧ g'.category = g.category) ∨
      (∀ g' ∈ gs, g'.message ≠ e.error.message) ∧ g = ⟨e.error.message, 1, e.category⟩ := by
  induction gs with
  | nil => exact .inr ⟨by simp, List.mem_singleton.1 h⟩
  | cons first rest ih =>
    by_cases hsame : first.message = e.error.message
    · rw [addToGroup, if_pos hsame] at h
      rcases List.mem_cons.1 h with rfl | hmem
      · exact .inl ⟨first, List.mem_cons_self, rfl, rfl⟩
      · exact .inl ⟨g, List.mem_cons_of_mem _ hmem, rfl, rfl⟩
    · rw [addToGroup, if_neg hsame] at h
      rcases List.mem_cons.1 h with rfl | hmem
      · exact .inl ⟨g, List.mem_cons_self, rfl, rfl⟩
      · rcases ih hmem with ⟨g', hg', hold⟩ | ⟨hnew, hg⟩
        · exact .inl ⟨g', List.mem_cons_of_mem _ hg', hold⟩
        · exact .inr ⟨List.forall_mem_cons.2 ⟨hsame, hnew⟩, hg⟩

theorem groups_append_singleton (entries : List Entry) (last : Entry) :
    groups (entries ++ [last]) = addToGroup last (groups entries) := by
  simp [groups]

theorem tally_groups (entries : List Entry) :
    (groups entries).map Group.tally = countKinds (messages entries) := by
  induction entries using List.reverseRecOn with
  | nil => rfl
  | append_singleton entries last ih =>
    have hmessages : messages (entries ++ [last]) = messages entries ++ [last.error.message] := by
      simp [messages]
    rw [groups_append_singleton, tally_addToGroup, ih, hmessages, countKinds_append_singleton]

/-- A group has the category of the first entry with its message. -/
theorem category_of_mem_groups {g : Group} (hg : g ∈ groups entries) :
    ∃ e, (entries.find? fun e => e.error.message = g.message) = some e ∧
      g.category = e.category := by
  induction entries using List.reverseRecOn generalizing g with
  | nil => cases hg
  | append_singleton entries last ih =>
    rw [groups_append_singleton] at hg
    rw [List.find?_append]
    rcases mem_addToGroup hg with ⟨g', hg', hmessage, hcategory⟩ | ⟨hnew, rfl⟩
    · rcases ih hg' with ⟨e, hfirst, hsame⟩
      rw [hmessage] at hfirst
      exact ⟨e, by rw [hfirst]; rfl, hcategory ▸ hsame⟩
    · -- the message has no group yet, so that no entry has had it
      have hnone : (entries.find? fun e => e.error.message = last.error.message) = none := by
        rw [List.find?_eq_none]
        intro e he hsame
        have hmem : last.error.message ∈ messages entries :=
          List.mem_map.2 ⟨e, he, of_decide_eq_true hsame⟩
        have htally := (mem_countKinds_iff _ _ _).2 ⟨hmem, rfl⟩
        rw [← tally_groups] at htally
        rcases List.mem_map.1 htally with ⟨g', hg', hpair⟩
        exact hnew g' hg' (congrArg Prod.fst hpair)
      exact ⟨last, by simp [hnone], rfl⟩

theorem describes_of_mem_groups {g : Group} (hg : g ∈ groups entries) : Describes entries g := by
  have htally : g.tally ∈ countKinds (messages entries) :=
    tally_groups entries ▸ List.mem_map_of_mem hg
  rcases (mem_countKinds_iff _ _ _).1 htally with ⟨hoccurs, hcount⟩
  exact ⟨hoccurs, hcount, category_of_mem_groups hg⟩

/-- The groups stand as their messages were first seen. -/
theorem pairwise_groups (entries : List Entry) :
    (groups entries).Pairwise fun g g' =>
      (messages entries).idxOf g.message < (messages entries).idxOf g'.message := by
  have hkeys := pairwise_keys_countKinds (messages entries)
  rw [← tally_groups, List.map_map, List.pairwise_map] at hkeys
  exact hkeys

/-! ## The ranking -/

theorem ranks_ranked (entries : List Entry) : Ranks entries (ranked entries) where
  describes := fun g hg => describes_of_mem_groups (List.mem_mergeSort.1 hg)
  complete := by
    intro m hm
    have htally := (mem_countKinds_iff _ _ _).2 ⟨hm, rfl⟩
    rw [← tally_groups] at htally
    rcases List.mem_map.1 htally with ⟨g, hg, hpair⟩
    exact ⟨g, List.mem_mergeSort.2 hg, congrArg Prod.fst hpair⟩
  ordered := by
    have hsorted := pairwise_stableSort (fun a b : Group => decide (b.count ≤ a.count))
      (by intro a b c hab hbc; simp only [decide_eq_true_eq] at *; omega)
      (by intro a b; simp only [Bool.or_eq_true, decide_eq_true_eq]; omega)
      (pairwise_groups entries)
    refine hsorted.imp_of_mem ?_
    rintro g g' hg hg' ⟨hle, hstable⟩
    simp only [decide_eq_true_eq] at hle hstable
    have hcount := (describes_of_mem_groups (List.mem_mergeSort.1 hg)).count
    have hcount' := (describes_of_mem_groups (List.mem_mergeSort.1 hg')).count
    rcases Nat.lt_or_eq_of_le hle with hless | hequal
    · exact .inl (by rwa [← hcount, ← hcount'])
    · exact .inr ⟨by rw [← hcount, ← hcount', hequal], hstable hequal.ge⟩

theorem ranks_iff (entries : List Entry) (gs : List Group) :
    Ranks entries gs ↔ gs = ranked entries := by
  constructor
  · exact fun h => h.unique (ranks_ranked entries)
  · rintro rfl
    exact ranks_ranked entries

/-! ## The listing -/

theorem shows_shorten (message : String) : Shows message (shorten message) := by
  unfold shorten
  split
  case isTrue hshort => exact .whole hshort
  case isFalse hlong =>
    have hlength : 100 < message.toList.length := by
      rw [String.length_toList]
      exact Nat.lt_of_not_le hlong
    have hsplit : message = String.ofList (message.toList.take 100) ++
        String.ofList (message.toList.drop 100) := by
      rw [← String.ofList_append, List.take_append_drop, String.ofList_toList]
    refine .front hsplit ?_ ?_
    · rw [String.length_ofList]
      exact List.length_take_of_le (Nat.le_of_lt hlength)
    · intro hnothing
      have hempty : message.toList.drop 100 = [] := by
        rw [← String.toList_ofList (l := message.toList.drop 100), hnothing]
        rfl
      exact absurd (List.drop_eq_nil_iff.1 hempty) (Nat.not_le.2 hlength)

/-- The listing of the most frequent messages goes by the one ranking that there is.  The ranking
has a group for each message, and its groups hold all entries; the listing shows the first of them,
as many as are asked for if there are as many, each under its number with its count, its category
and its message, which is cut off behind a hundred characters. -/
theorem top_lists_ranking (c : Collector) (most : Nat) :
    ∃ ranking : List Group,
      (∀ gs, Ranks c.entries gs ↔ gs = ranking) ∧
      ranking.length = (messages c.entries).dedup.length ∧
      (ranking.map Group.count).sum = c.entries.length ∧
      ∃ blocks : List String,
        blocks.length = min most (messages c.entries).dedup.length ∧
        (∀ (i : Nat) (block : String), blocks[i]? = some block →
          ∃ g shown, ranking[i]? = some g ∧ Shows g.message shown ∧
            block = s!"\n{i + 1}. ({g.count} occurrences)\n" ++
              "   Category: " ++ g.category.label ++ "\n" ++ "   Message:  " ++ shown ++ "\n") ∧
        top c most =
          if c.entries = [] then "No errors to report.\n"
          else heading s!"Top {most} Most Common Errors" ++ String.join blocks ++ rule ++ "\n" := by
  have hranks := ranks_ranked c.entries
  have hlength : (ranked c.entries).length = (messages c.entries).dedup.length := by
    rw [← hranks.perm_dedup.length_eq, List.length_map]
  refine ⟨ranked c.entries, ranks_iff c.entries, hlength, hranks.sum_counts,
    ((ranked c.entries).take most).mapIdx fun i g => groupText (i + 1) g, ?_, ?_, ?_⟩
  · rw [List.length_mapIdx, List.length_take, hlength]
  · intro i block hblock
    rw [List.getElem?_mapIdx] at hblock
    rcases Option.map_eq_some_iff.1 hblock with ⟨g, hg, rfl⟩
    have hplace : (ranked c.entries)[i]? = some g := by
      rcases List.getElem?_eq_some_iff.1 hg with ⟨hi, rfl⟩
      rw [List.getElem_take]
      exact List.getElem?_eq_getElem _
    exact ⟨g, shorten g.message, hplace, shows_shorten _, rfl⟩
  · unfold top nothing
    by_cases hnone : c.entries = []
    · simp [hnone]
    · rw [if_neg (by simpa using hnone), if_neg hnone]

/-- Messages that differ behind what is shown of them. -/
def longError (last : Char) : FlowError :=
  .processing (String.ofList (.replicate 120 'x' ++ [last]))

/-- One entry with one message, and then two with another. -/
def longEntries : Collector :=
  let entry (last : Char) : Entry := .ofError (longError last) none default
  ⟨⟨0, .zero, false⟩, [entry 'b', entry 'b', entry 'a'], 3, false, false⟩

/-- The messages are counted apart, and the more frequent one comes first. -/
theorem top_lists_longEntries :
    ∃ shown, Shows (longError 'b').message shown ∧
      top longEntries 1 = heading "Top 1 Most Common Errors" ++
        ("\n1. (2 occurrences)\n   Category: PROCESSING\n   Message:  " ++ shown ++ "\n") ++
        rule ++ "\n" := by
  rcases top_lists_ranking longEntries 1 with
    ⟨ranking, hunique, hranking, _, blocks, hblocks, hlisted, htext⟩
  have hranks : Ranks longEntries.entries
      [⟨(longError 'b').message, 2, .processing⟩, ⟨(longError 'a').message, 1, .processing⟩] := by
    refine ⟨?_, by decide +kernel, List.pairwise_pair.2 (.inl (by decide +kernel))⟩
    have hfirst : Describes longEntries.entries ⟨(longError 'b').message, 2, .processing⟩ :=
      ⟨by decide +kernel, by decide +kernel, .ofError (longError 'b') none default,
        by decide +kernel, by decide +kernel⟩
    have hsecond : Describes longEntries.entries ⟨(longError 'a').message, 1, .processing⟩ :=
      ⟨by decide +kernel, by decide +kernel, .ofError (longError 'a') none default,
        by decide +kernel, by decide +kernel⟩
    simpa using ⟨hfirst, hsecond⟩
  obtain rfl := (hunique _).1 hranks
  -- one block is asked for, and there are two groups
  rw [← hranking] at hblocks
  rcases List.length_eq_one_iff.1 hblocks with ⟨block, rfl⟩
  rcases hlisted 0 block rfl with ⟨g, shown, hg, hshown, rfl⟩
  cases hg
  have hfront : s!"\n{0 + 1}. ({2} occurrences)\n" ++ "   Category: " ++
      Category.processing.label ++ "\n" ++ "   Message:  " =
        "\n1. (2 occurrences)\n   Category: PROCESSING\n   Message:  " := by
    decide +kernel
  have htitle : s!"Top {1} Most Common Errors" = "Top 1 Most Common Errors" := by decide +kernel
  refine ⟨shown, hshown, ?_⟩
  rw [htext, if_neg (by decide +kernel), htitle, ← hfront, String.join, List.foldl_cons,
    List.foldl_nil, String.empty_append]

end Report
end RecordFlow
