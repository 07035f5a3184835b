import Mathlib.Data.List.Chain
import Mathlib.Data.List.Nodup
import RecordFlow.Config.Expansion
import RecordFlow.Proofs.Command.Requests

/-!
# References — aliases that refer to each other

The words of an alias refer to other aliases, and those to others again.  An expansion follows the
references; it keeps the aliases that it is inside of, which must not come up again, and leaves them
as they were when it comes back, so that an alias may be reached on several branches.

* `Config.RefersTo` is the graph of the references, and a chain in it is a list of aliases each of
  which refers to the next,
* `Config.Expands` says what words are when every reference is replaced in its place,
* `expandWords_cases` and `resolveWithin_cases` say what an expansion that succeeds gives, and
  `exists_resolveWithin_iff` by the chains when one does.

`resolve_follows_references` puts them together: an alias has an expansion when everything it leads
to is known, nothing leads back to itself, and no chain is too long.
-/

namespace RecordFlow
namespace Config

/-! ## References -/

/-- The aliases that words refer to: flags take the word behind them, from left to right. -/
def references : List String → List String
  | [] => []
  | [_] => []
  | arg :: next :: rest =>
    if isAliasFlag arg then next :: references rest else references (next :: rest)

def words? (c : Config) (name : String) : Option (List String) :=
  (c.alias? name).bind Words.split?

def RefersTo (c : Config) (name other : String) : Prop :=
  ∃ words, c.words? name = some words ∧ other ∈ references words

/-- What words are when every flag and the alias behind it are replaced by the expansion of that
alias. -/
inductive Expands (c : Config) : List String → List String → Prop where
  | nil : Expands c [] []
  | last (arg : String) : Expands c [arg] [arg]
  | reference {arg next : String} {rest words own others : List String} :
      isAliasFlag arg = true → c.words? next = some words → Expands c words own →
      Expands c rest others → Expands c (arg :: next :: rest) (own ++ others)
  | word {arg next : String} {rest others : List String} :
      isAliasFlag arg = false → Expands c (next :: rest) others →
      Expands c (arg :: next :: rest) (arg :: others)

theorem Expands.unique {c : Config} {words out out' : List String} (h : c.Expands words out)
    (h' : c.Expands words out') : out = out' := by
  induction h generalizing out' with
  | nil | last =>
    cases h'
    rfl
  | reference hflag hwords _ _ ihown ihothers =>
    cases h' with
    | reference _ hwords' hown' hothers' =>
      rw [hwords] at hwords'
      cases hwords'
      rw [ihown hown', ihothers hothers']
    | word hplain _ => simp [hflag] at hplain
  | word hplain _ ih =>
    cases h' with
    | reference hflag _ _ _ => simp [hplain] at hflag
    | word _ hothers' => rw [ih hothers']

/-! ## Words -/

section Words

variable {resolve : String → List String → Expansion} {seen words : List String}

/-- Words are expanded if all that they refer to can be, where the aliases under expansion are the
same behind a reference as before it. -/
theorem exists_expandWords_iff
    (hkeeps : ∀ next own seen', resolve next seen = .ok (own, seen') → seen' = seen) :
    (∃ out, expandWords resolve seen words = .ok out) ↔
      ∀ next ∈ references words, ∃ out, resolve next seen = .ok out := by
  induction words using references.induct with
  | case1 => simp [expandWords, references]
  | case2 arg => simp [expandWords, references]
  | case3 arg next rest hflag ih =>
    rw [references, if_pos hflag, List.forall_mem_cons, ← ih, expandWords, if_pos hflag]
    constructor
    · rintro ⟨out, hout⟩
      rcases Command.bind_eq_ok hout with ⟨⟨own, seen₁⟩, hown, hrest⟩
      rcases Command.bind_eq_ok hrest with ⟨others, hothers, _⟩
      cases hkeeps next own seen₁ hown
      exact ⟨⟨_, hown⟩, _, hothers⟩
    · rintro ⟨⟨⟨own, seen₁⟩, hown⟩, ⟨others, seen₂⟩, hothers⟩
      cases hkeeps next own seen₁ hown
      exact ⟨(own ++ others, seen₂), by rw [hown]; simp [bind, Except.bind, hothers]; rfl⟩
  | case4 arg next rest hflag ih =>
    rw [references, if_neg hflag, ← ih, expandWords, if_neg hflag]
    constructor
    · rintro ⟨out, hout⟩
      rcases Command.bind_eq_ok hout with ⟨others, hothers, _⟩
      exact ⟨_, hothers⟩
    · rintro ⟨⟨others, seen₁⟩, hothers⟩
      exact ⟨(arg :: others, seen₁), by rw [hothers]; rfl⟩

/-- Words that are expanded have their references replaced, and the aliases under expansion are the
same as before. -/
theorem expandWords_cases {c : Config} {out : List String × List String}
    (hresolve : ∀ next own seen', resolve next seen = .ok (own, seen') →
      seen' = seen ∧ ∃ inner, c.words? next = some inner ∧ c.Expands inner own)
    (h : expandWords resolve seen words = .ok out) :
    out.2 = seen ∧ c.Expands words out.1 := by
  induction words using references.induct generalizing out with
  | case1 =>
    cases h
    exact ⟨rfl, .nil⟩
  | case2 arg =>
    cases h
    exact ⟨rfl, .last arg⟩
  | case3 arg next rest hflag ih =>
    rw [expandWords, if_pos hflag] at h
    rcases Command.bind_eq_ok h with ⟨⟨own, seen₁⟩, hown, hrest⟩
    rcases Command.bind_eq_ok hrest with ⟨⟨others, seen₂⟩, hothers, hout⟩
    cases hout
    rcases hresolve next own seen₁ hown with ⟨rfl, inner, hinner, hexpands⟩
    rcases ih hothers with ⟨hseen, hrestExpands⟩
    exact ⟨hseen, .reference hflag hinner hexpands hrestExpands⟩
  | case4 arg next rest hflag ih =>
    rw [expandWords, if_neg hflag] at h
    rcases Command.bind_eq_ok h with ⟨⟨others, seen₁⟩, hothers, hout⟩
    cases hout
    rcases ih hothers with ⟨hseen, hrestExpands⟩
    exact ⟨hseen, .word (by simpa using hflag) hrestExpands⟩

end Words

/-! ## Aliases -/

variable {c : Config} {levels depth : Nat} {name : String} {seen : List String}

/-- An alias that has not come up is expanded by the words of its value. -/
theorem resolveWithin_of_words {words : List String} (hseen : name ∉ seen)
    (hwords : c.words? name = some words) :
    c.resolveWithin (levels + 1) depth name seen =
      (expandWords (c.resolveWithin levels (depth + 1)) (name :: seen) words).map
        fun out => (out.1, out.2.erase name) := by
  rcases Option.bind_eq_some_iff.1 hwords with ⟨value, hvalue, hsplit⟩
  rw [resolveWithin, if_neg hseen, hvalue]
  simp only [hsplit]
  cases expandWords (c.resolveWithin levels (depth + 1)) (name :: seen) words <;> rfl

/-- What is expanded has not come up before, is known, and is not too deep. -/
theorem resolveWithin_eq_ok {out : List String × List String}
    (h : c.resolveWithin levels depth name seen = .ok out) :
    ∃ below words, levels = below + 1 ∧ name ∉ seen ∧ c.words? name = some words := by
  cases levels with
  | zero => cases h
  | succ below =>
    unfold resolveWithin at h
    split at h
    · cases h
    · rename_i hseen
      split at h
      · cases h
      · rename_i value hvalue
        split at h
        · cases h
        · rename_i words hwords
          exact ⟨below, words, rfl, hseen, Option.bind_eq_some_iff.2 ⟨value, hvalue, hwords⟩⟩

/-- An expansion leaves the aliases under expansion as they were, and is that of the words of the
alias. -/
theorem resolveWithin_cases {out : List String × List String}
    (h : c.resolveWithin levels depth name seen = .ok out) :
    out.2 = seen ∧ ∃ words, c.words? name = some words ∧ c.Expands words out.1 := by
  induction levels generalizing depth name seen out with
  | zero => cases h
  | succ levels ih =>
    rcases resolveWithin_eq_ok h with ⟨_, words, _, hseen, hwords⟩
    rw [resolveWithin_of_words hseen hwords] at h
    rcases hinner : expandWords (c.resolveWithin levels (depth + 1)) (name :: seen) words with
      error | inner
    · rw [hinner] at h
      cases h
    · rw [hinner] at h
      cases h
      rcases expandWords_cases (fun _ _ _ hown => ih hown) hinner with ⟨hkept, hexpands⟩
      refine ⟨?_, words, hwords, hexpands⟩
      simp [hkept]

/-! ## Chains -/

/-- Whether an expansion can follow a chain of aliases to its end: the chain is not too long,
nothing in it comes up twice or is under expansion already, and everything in it is known. -/
structure Sound (c : Config) (levels : Nat) (seen chain : List String) : Prop where
  short : chain.length ≤ levels
  nodup : chain.Nodup
  fresh : ∀ name ∈ chain, name ∉ seen
  known : ∀ name ∈ chain, ∃ words, c.words? name = some words

/-- The chains from an alias are sound if those from the aliases that it refers to are. -/
theorem sound_cons_iff :
    (∀ rest, (name :: rest).IsChain c.RefersTo → c.Sound (levels + 1) seen (name :: rest)) ↔
      name ∉ seen ∧ ∃ words, c.words? name = some words ∧ ∀ next ∈ references words,
        ∀ rest, (next :: rest).IsChain c.RefersTo →
          c.Sound levels (name :: seen) (next :: rest) := by
  constructor
  · intro hsound
    have halone := hsound [] (.singleton name)
    rcases halone.known name List.mem_cons_self with ⟨words, hwords⟩
    refine ⟨halone.fresh name List.mem_cons_self, words, hwords, ?_⟩
    intro next hnext rest hchain
    have hrefers : c.RefersTo name next := ⟨words, hwords, hnext⟩
    have hlonger := hsound (next :: rest) (hchain.cons_cons hrefers)
    rcases List.nodup_cons.1 hlonger.nodup with ⟨hname, hnodup⟩
    refine ⟨Nat.le_of_succ_le_succ hlonger.short, hnodup, ?_, ?_⟩
    · intro other hother hseen
      rcases List.mem_cons.1 hseen with rfl | hseen
      · exact hname hother
      · exact hlonger.fresh other (List.mem_cons_of_mem _ hother) hseen
    · intro other hother
      exact hlonger.known other (List.mem_cons_of_mem _ hother)
  · rintro ⟨hname, words, hwords, hsound⟩ rest hchain
    cases rest with
    | nil =>
      refine ⟨by simp, by simp, ?_, ?_⟩
      · simpa using hname
      · simpa using ⟨words, hwords⟩
    | cons next rest =>
      rcases List.isChain_cons_cons.1 hchain with ⟨⟨words', hwords', hnext⟩, hrest⟩
      rw [hwords] at hwords'
      cases hwords'
      have hshorter := hsound next hnext rest hrest
      refine ⟨Nat.succ_le_succ hshorter.short, ?_, ?_, ?_⟩
      · refine List.nodup_cons.2 ⟨?_, hshorter.nodup⟩
        intro hmem
        exact hshorter.fresh name hmem List.mem_cons_self
      · rw [List.forall_mem_cons]
        refine ⟨hname, ?_⟩
        intro other hother hseen
        exact hshorter.fresh other hother (List.mem_cons_of_mem _ hseen)
      · rw [List.forall_mem_cons]
        exact ⟨⟨words, hwords⟩, hshorter.known⟩

theorem exists_resolveWithin_iff :
    (∃ out, c.resolveWithin levels depth name seen = .ok out) ↔
      ∀ rest, (name :: rest).IsChain c.RefersTo → c.Sound levels seen (name :: rest) := by
  induction levels generalizing depth name seen with
  | zero =>
    constructor
    · rintro ⟨out, hout⟩
      cases hout
    · intro hsound
      have hshort := (hsound [] (.singleton name)).short
      simp at hshort
  | succ levels ih =>
    -- what is referred to is expanded among the aliases that the name itself is put to
    have hwords : ∀ words, (∃ out, expandWords (c.resolveWithin levels (depth + 1)) (name :: seen)
        words = .ok out) ↔ ∀ next ∈ references words, ∀ rest,
          (next :: rest).IsChain c.RefersTo → c.Sound levels (name :: seen) (next :: rest) := by
      intro words
      rw [exists_expandWords_iff fun next own seen' hown => (resolveWithin_cases hown).1]
      simp only [ih]
    rw [sound_cons_iff]
    constructor
    · rintro ⟨out, hout⟩
      rcases resolveWithin_eq_ok hout with ⟨_, words, _, hseen, hknown⟩
      refine ⟨hseen, words, hknown, (hwords words).1 ?_⟩
      rw [resolveWithin_of_words hseen hknown] at hout
      rcases hinner : expandWords (c.resolveWithin levels (depth + 1)) (name :: seen) words with
        error | inner
      · rw [hinner] at hout
        cases hout
      · exact ⟨inner, rfl⟩
    · rintro ⟨hseen, words, hknown, hsound⟩
      rcases (hwords words).2 hsound with ⟨inner, hinner⟩
      rw [resolveWithin_of_words hseen hknown, hinner]
      exact ⟨_, rfl⟩

/-! ## Reachable aliases -/

abbrev LeadsTo (c : Config) : String → String → Prop := Relation.ReflTransGen c.RefersTo

abbrev LeadsOnTo (c : Config) : String → String → Prop := Relation.TransGen c.RefersTo

theorem pairwise_of_isChain {chain : List String} (h : chain.IsChain c.RefersTo) :
    chain.Pairwise c.LeadsOnTo :=
  List.isChain_iff_pairwise.1 (h.imp fun _ _ => .single)

/-- All chains from an alias are sound if what it leads to is known and does not lead back to
itself, and if no chain is too long. -/
theorem sound_nil_iff :
    (∀ rest, (name :: rest).IsChain c.RefersTo → c.Sound levels [] (name :: rest)) ↔
      (∀ other, c.LeadsTo name other → ∃ words, c.words? other = some words) ∧
      (∀ other, c.LeadsTo name other → ¬ c.LeadsOnTo other other) ∧
      ∀ rest, (name :: rest).IsChain c.RefersTo → (name :: rest).length ≤ levels := by
  constructor
  · intro hsound
    refine ⟨?_, ?_, fun rest hchain => (hsound rest hchain).short⟩
    · intro other hleads
      rcases List.exists_isChain_cons_of_relationReflTransGen hleads with ⟨rest, hchain, hlast⟩
      exact (hsound rest hchain).known other (hlast ▸ List.getLast_mem _)
    · intro other hleads hcycle
      -- a chain to the alias, and the cycle behind it, meet the alias twice
      rcases List.exists_isChain_cons_of_relationReflTransGen hleads with ⟨rest, hchain, hlast⟩
      rcases Relation.TransGen.head'_iff.1 hcycle with ⟨next, hnext, hback⟩
      rcases List.exists_isChain_cons_of_relationReflTransGen hback with ⟨more, hmore, hend⟩
      have hround : ((name :: rest) ++ (next :: more)).IsChain c.RefersTo := by
        refine hchain.append hmore ?_
        intro last hmem first hfirst
        rw [List.getLast?_eq_getLast_of_ne_nil (List.cons_ne_nil name rest), hlast] at hmem
        cases hmem
        cases hfirst
        exact hnext
      have hnodup := (hsound (rest ++ next :: more) hround).nodup
      refine List.disjoint_of_nodup_append hnodup (?_ : other ∈ name :: rest) ?_
      · exact hlast ▸ List.getLast_mem _
      · exact hend ▸ List.getLast_mem _
  · rintro ⟨hknown, hacyclic, hshort⟩ rest hchain
    have hpairs := pairwise_of_isChain hchain
    have hreached : ∀ other ∈ name :: rest, c.LeadsTo name other := by
      intro other hother
      rcases List.mem_cons.1 hother with rfl | hother
      · exact .refl
      · exact ((List.pairwise_cons.1 hpairs).1 other hother).to_reflTransGen
    have hdefined := fun other hother => hknown other (hreached other hother)
    refine ⟨hshort rest hchain, ?_, by simp, hdefined⟩
    refine hpairs.imp_of_mem ?_
    rintro first _ hfirst _ hleads rfl
    exact hacyclic first (hreached first hfirst) hleads

/-- The expansion of an alias goes by its own recursion, which the depth alone bounds. -/
theorem resolve_eq (c : Config) (name : String) (seen : List String) (depth : Nat) :
    c.resolve name seen depth =
      if depthLimit < depth then .error (.tooDeep depth)
      else if name ∈ seen then .error (.circular name)
      else match c.alias? name with
        | none => .error (.unknown name)
        | some value =>
          match Words.split? value with
          | none => .error (.unreadable name)
          | some words =>
            (expandWords (fun next seen => c.resolve next seen (depth + 1)) (name :: seen)
              words).map fun out => (out.1, out.2.erase name) := by
  unfold resolve
  by_cases hdeep : depthLimit < depth
  · have hlevels : depthLimit + 1 - depth = 0 := by omega
    rw [if_pos hdeep, hlevels, resolveWithin]
  · have hlevels : depthLimit + 1 - depth = (depthLimit + 1 - (depth + 1)) + 1 := by omega
    rw [if_neg hdeep, hlevels, resolveWithin]
    by_cases hseen : name ∈ seen
    · rw [if_pos hseen, if_pos hseen]
    · rw [if_neg hseen, if_neg hseen]
      cases halias : c.alias? name with
      | none => rfl
      | some value =>
        cases hwords : Words.split? value with
        | none => simp only [hwords]
        | some words =>
          simp only [hwords]
          cases expandWords (c.resolveWithin (depthLimit + 1 - (depth + 1)) (depth + 1))
            (name :: seen) words <;> rfl

/-- Whatever the aliases of a configuration are, the expansion of one of them at a depth

* goes by a recursion that ends at the depth limit,
* succeeds exactly if every alias that it leads to is known, none of these leads back to itself, and
  no chain of references from it has more aliases than there are levels left,
* leaves the aliases under expansion as they were, and gives the words of the alias with every flag
  and the alias behind it replaced by the expansion of that alias, and nothing else,
* fails if there is a cycle ahead, however long it is. -/
theorem resolve_follows_references (c : Config) (name : String) (depth : Nat) :
    (∀ (name : String) (seen : List String) (depth : Nat), c.resolve name seen depth =
      if depthLimit < depth then .error (.tooDeep depth)
      else if name ∈ seen then .error (.circular name)
      else match c.alias? name with
        | none => .error (.unknown name)
        | some value =>
          match Words.split? value with
          | none => .error (.unreadable name)
          | some words =>
            (expandWords (fun next seen => c.resolve next seen (depth + 1)) (name :: seen)
              words).map fun out => (out.1, out.2.erase name)) ∧
    ((∃ out, c.resolve name [] depth = .ok out) ↔
      (∀ other, c.LeadsTo name other → ∃ words, c.words? other = some words) ∧
      (∀ other, c.LeadsTo name other → ¬ c.LeadsOnTo other other) ∧
      ∀ rest, (name :: rest).IsChain c.RefersTo →
        (name :: rest).length ≤ depthLimit + 1 - depth) ∧
    (∀ seen out seen', c.resolve name seen depth = .ok (out, seen') → seen' = seen ∧
      ∃ words, c.words? name = some words ∧ ∀ out', c.Expands words out' ↔ out' = out) ∧
    ((∃ other, c.LeadsTo name other ∧ c.LeadsOnTo other other) →
      ∃ error, c.resolve name [] depth = .error error) := by
  have hexpanded : (∃ out, c.resolve name [] depth = .ok out) ↔ _ :=
    exists_resolveWithin_iff.trans sound_nil_iff
  refine ⟨c.resolve_eq, hexpanded, ?_, ?_⟩
  · intro seen out seen' hout
    rcases resolveWithin_cases hout with ⟨hseen, words, hwords, hexpands⟩
    refine ⟨hseen, words, hwords, fun out' => ⟨fun hout' => hout'.unique hexpands, ?_⟩⟩
    rintro rfl
    exact hexpands
  · rintro ⟨other, hleads, hcycle⟩
    cases hresolve : c.resolve name [] depth with
    | error error => exact ⟨error, rfl⟩
    | ok out => exact absurd hcycle ((hexpanded.1 ⟨out, hresolve⟩).2.1 other hleads)

/-- An alias that leads to another on two branches, and one that leads back to itself. -/
def branchingConfig : Config :=
  { defaults := none
    aliases :=
      [("base", "-w 2"), ("left", "-a base --strict"), ("loop", "-a ring"),
       ("right", "--alias base"), ("ring", "-v -a loop"), ("top", "-a left -a right -q")] }

/-- Three levels are enough for the branches; no number of them is for the cycle. -/
theorem resolve_follows_branchingConfig :
    branchingConfig.resolve "top" [] 8 =
      .ok (["-w", "2", "--strict", "-w", "2", "-q"], []) ∧
    ["top", "left", "base"].IsChain branchingConfig.RefersTo ∧
    (¬ ∃ out, branchingConfig.resolve "top" [] 9 = .ok out) ∧
    ∀ depth, ∃ error, branchingConfig.resolve "loop" [] depth = .error error := by
  have hrefers : ∀ name words other, branchingConfig.words? name = some words →
      other ∈ references words → branchingConfig.RefersTo name other :=
    fun name words other hwords hother => ⟨words, hwords, hother⟩
  have htop : branchingConfig.RefersTo "top" "left" :=
    hrefers "top" ["-a", "left", "-a", "right", "-q"] "left" (by decide +kernel) (by decide)
  have hleft : branchingConfig.RefersTo "left" "base" :=
    hrefers "left" ["-a", "base", "--strict"] "base" (by decide +kernel) (by decide)
  have hloop : branchingConfig.RefersTo "loop" "ring" :=
    hrefers "loop" ["-a", "ring"] "ring" (by decide +kernel) (by decide)
  have hring : branchingConfig.RefersTo "ring" "loop" :=
    hrefers "ring" ["-v", "-a", "loop"] "loop" (by decide +kernel) (by decide)
  have hchain : ["top", "left", "base"].IsChain branchingConfig.RefersTo := by
    simp [htop, hleft]
  refine ⟨by decide +kernel, hchain, ?_, ?_⟩
  · intro hout
    have hshort := ((resolve_follows_references branchingConfig "top" 9).2.1.1 hout).2.2 _ hchain
    simp [depthLimit] at hshort
  · intro depth
    exact (resolve_follows_references branchingConfig "loop" depth).2.2.2
      ⟨"loop", .refl, .tail (.single hloop) hring⟩

end Config
end RecordFlow
