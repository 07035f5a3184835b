import RecordFlow.Config.Expansion
import RecordFlow.Proofs.Command.Requests

/-!
# Aliases — requests that stay when everything is expanded

The words of a command line are expanded before they are read.  What is expanded is a flag and the
name after it; the grammar knows more ways to ask for an alias, and what it still finds is put into
the arguments and used no more.

* `requestsFrom?_alias` says when a command line asks for no alias,
* `expandWords_front` and `resolveWithin_words` say which words come out of an expansion: words that
  were there before, and a flag at the very end if the words that are expanded end with one.

`aliases_of_process` puts them together: no request stays if every request is spelled as a flag and
a name (`PlainAliases`), and no value ends with a flag that needs a name.
-/

namespace RecordFlow
namespace Command

/-! ## Words that ask for an alias -/

/-- Whether a word asks for an alias, by itself or with the word behind it. -/
def asksForAlias (word : String) : Bool :=
  match Token.ofWord word with
  | .option own awaited => own.any (·.alias?.isSome) || awaited == some .alias
  | _ => false

theorem asksForAlias_option {word : String} {own : List Request} {awaited : Option Setting}
    (h : Token.ofWord word = .option own awaited) :
    asksForAlias word = false ↔
      own.filterMap Request.alias? = [] ∧ awaited ≠ some .alias := by
  rw [asksForAlias, h]
  simp [List.filterMap_eq_nil_iff]

/-- A command line asks for no alias if none of the words before two hyphens does. -/
theorem requestsFrom?_alias {awaited : Option Setting} {words : List String}
    {requests : List Request} (h : requestsFrom? awaited words = some requests) :
    requests.filterMap Request.alias? = [] ↔ awaited ≠ some .alias ∧
      ∀ word ∈ words.takeWhile (· ≠ "--"), asksForAlias word = false := by
  induction words generalizing awaited requests with
  | nil =>
    cases awaited with
    | none =>
      cases h
      simp
    | some setting => cases h
  | cons word rest ih =>
    rcases cases_of_requestsFrom? h with ⟨setting, others, rfl, hplain, hothers, rfl⟩ |
      ⟨rfl, hstop, rfl⟩ | ⟨others, rfl, hplain, hothers, rfl⟩ |
      ⟨own, awaited', others, rfl, hoption, hothers, rfl⟩
    · have hsilent : asksForAlias word = false := by simp [asksForAlias, hplain]
      rw [takeWhile_cons (by simp [hplain]), List.forall_mem_cons, List.filterMap_cons,
        Request.alias?_setting]
      by_cases hsetting : setting = .alias
      · simp [hsetting]
      · simpa [hsetting, hsilent] using ih hothers
    · rw [ofWord_eq_stop_iff.1 hstop]
      simp [Request.alias?]
    · have hsilent : asksForAlias word = false := by simp [asksForAlias, hplain]
      rw [takeWhile_cons (by simp [hplain]), List.forall_mem_cons, List.filterMap_cons_none rfl]
      simpa [hsilent] using ih hothers
    · rw [takeWhile_cons (by simp [hoption]), List.forall_mem_cons, List.filterMap_append,
        List.append_eq_nil_iff, ih hothers, asksForAlias_option hoption]
      simp [and_assoc]

end Command

/-! ## Words of an expansion -/

namespace Config

/-- Whether words end with a flag for which no name is left. -/
def dangles : List String → Bool
  | [] => false
  | [arg] => isAliasFlag arg
  | arg :: next :: rest => if isAliasFlag arg then dangles rest else dangles (next :: rest)

section Expansions

variable {P : String → Prop}

/-- What comes out of an expansion was there before or came from an alias, except for a flag at the
end. -/
theorem expandWords_front {resolve : String → List String → Expansion}
    (hresolve : ∀ name seen out, resolve name seen = .ok out → ∀ word ∈ out.1, P word)
    {seen words : List String} {out : List String × List String}
    (hwords : ∀ word ∈ words, isAliasFlag word = false → P word)
    (h : expandWords resolve seen words = .ok out) :
    ∃ front last, out.1 = front ++ Option.toList last ∧ (∀ word ∈ front, P word) ∧
      ∀ word ∈ last, isAliasFlag word = true ∧ dangles words = true := by
  induction words using dangles.induct generalizing seen out with
  | case1 =>
    cases h
    exact ⟨[], none, rfl, by simp, by simp⟩
  | case2 arg =>
    cases h
    by_cases hflag : isAliasFlag arg = true
    · exact ⟨[], some arg, rfl, by simp, by simp [dangles, hflag]⟩
    · exact ⟨[arg], none, rfl, by simpa [hflag] using hwords, by simp⟩
  | case3 arg next rest hflag ih =>
    -- the expansion of the name comes before that of the rest
    rw [expandWords, if_pos hflag] at h
    rcases Command.bind_eq_ok h with ⟨⟨own, seen₁⟩, hown, hrest⟩
    rcases Command.bind_eq_ok hrest with ⟨⟨others, seen₂⟩, hothers, hout⟩
    cases hout
    have hrestWords : ∀ word ∈ rest, isAliasFlag word = false → P word := by
      intro word hmem
      exact hwords word (by simp [hmem])
    rcases ih hrestWords hothers with ⟨front, last, hout, hfront, hlast⟩
    refine ⟨own ++ front, last, ?_, ?_, ?_⟩
    · simpa using hout
    · rw [List.forall_mem_append]
      exact ⟨hresolve next seen _ hown, hfront⟩
    · simpa [dangles, hflag] using hlast
  | case4 arg next rest hflag ih =>
    rw [expandWords, if_neg hflag] at h
    rcases Command.bind_eq_ok h with ⟨⟨others, seen₁⟩, hothers, hout⟩
    cases hout
    rw [List.forall_mem_cons] at hwords
    rcases ih hwords.2 hothers with ⟨front, last, hout, hfront, hlast⟩
    refine ⟨arg :: front, last, ?_, ?_, ?_⟩
    · simpa using hout
    · rw [List.forall_mem_cons]
      exact ⟨hwords.1 (by simpa using hflag), hfront⟩
    · simpa [dangles, hflag] using hlast

/-- The words of an alias come from the values of aliases, if these close what they open. -/
theorem resolveWithin_words {c : Config}
    (hvalues : ∀ name value words, c.alias? name = some value →
      Words.split? value = some words →
      (∀ word ∈ words, isAliasFlag word = false → P word) ∧ dangles words = false)
    {levels depth : Nat} {name : String} {seen : List String} {out : List String × List String}
    (h : c.resolveWithin levels depth name seen = .ok out) : ∀ word ∈ out.1, P word := by
  induction levels generalizing depth name seen out with
  | zero => cases h
  | succ levels ih =>
    unfold resolveWithin at h
    split at h
    · cases h
    · split at h
      · cases h
      · rename_i value hvalue
        split at h
        · cases h
        · rename_i words hwords
          rcases Command.bind_eq_ok h with ⟨⟨expanded, seen₁⟩, hexpanded, hout⟩
          cases hout
          rcases hvalues name value words hvalue hwords with ⟨hplain, hdangles⟩
          rcases expandWords_front (fun _ _ _ => ih) hplain hexpanded with
            ⟨front, last, hout, hfront, hlast⟩
          cases last with
          | none =>
            rw [hout]
            simpa using hfront
          | some word =>
            rw [(hlast word rfl).2] at hdangles
            cases hdangles

end Expansions

end Config

namespace Command

/-! ## Plain spelling -/

/-- Whether a word asks for an alias only by being a flag with a name behind it. -/
def AsksPlainly (word : String) : Prop :=
  Config.isAliasFlag word = false → asksForAlias word = false

instance (word : String) : Decidable (AsksPlainly word) :=
  inferInstanceAs (Decidable (Config.isAliasFlag word = false → asksForAlias word = false))

/-- Whether every alias that is asked for in words or behind other aliases is asked for by a flag
and a name behind it, where a value does not leave the name to what comes after it. -/
structure PlainAliases (c : Config) (args : List String) : Prop where
  arguments : ∀ word ∈ args, AsksPlainly word
  defaults : ∀ words, c.defaultWords = .ok words → ∀ word ∈ words, AsksPlainly word
  values : ∀ name value words, c.alias? name = some value → Words.split? value = some words →
    (∀ word ∈ words, AsksPlainly word) ∧ Config.dangles words = false

theorem PlainAliases.process_front {c : Config} {args words : List String}
    (h : PlainAliases c args) (hprocess : c.process args = .ok words) :
    ∃ front last, words = front ++ Option.toList last ∧
      (∀ word ∈ front, asksForAlias word = false) ∧
      ∀ word ∈ last, Config.isAliasFlag word = true := by
  rcases bind_eq_ok hprocess with ⟨defaults, hdefaults, hexpand⟩
  rcases bind_eq_ok hexpand with ⟨⟨expanded, seen⟩, hexpanded, hwords⟩
  cases hwords
  have hall : ∀ word ∈ args.take 1 ++ defaults ++ args.drop 1, AsksPlainly word := by
    simp only [List.forall_mem_append]
    refine ⟨⟨?_, h.defaults defaults hdefaults⟩, ?_⟩
    · intro word hmem
      exact h.arguments word (List.mem_of_mem_take hmem)
    · intro word hmem
      exact h.arguments word (List.mem_of_mem_drop hmem)
  rcases Config.expandWords_front (fun _ _ _ => Config.resolveWithin_words h.values) hall
    hexpanded with ⟨front, last, hout, hfront, hlast⟩
  exact ⟨front, last, hout, hfront, fun word hmem => (hlast word hmem).1⟩

theorem ofWord_of_isAliasFlag {word : String} (h : Config.isAliasFlag word = true) :
    Token.ofWord word = .option [] (some .alias) := by
  simp only [Config.isAliasFlag, Bool.or_eq_true, beq_iff_eq] at h
  rcases h with rfl | rfl <;> rfl

/-- An option word is the last word of all only if no two hyphens stand behind it. -/
theorem mem_dropLast_of_mem_optionWords {words : List String} {word : String}
    (hpaths : pathWords words ≠ []) (hmem : word ∈ optionWords words) : word ∈ words.dropLast := by
  have hdropLast : words.dropLast =
      words.head?.toList ++ (optionWords words ++ (pathWords words).dropLast) := by
    rw [← List.dropLast_append_of_ne_nil hpaths,
      ← List.dropLast_append_of_ne_nil (by simp [hpaths]), ← words_eq words]
  rw [hdropLast]
  exact List.mem_append_right _ (List.mem_append_left _ hmem)

theorem getLast?_optionWords {words : List String} (hpaths : pathWords words = [])
    (hne : optionWords words ≠ []) : (optionWords words).getLast? = words.getLast? := by
  have hwords := words_eq words
  rw [hpaths, List.append_nil] at hwords
  calc (optionWords words).getLast?
      = (words.head?.toList ++ optionWords words).getLast? :=
        (List.getLast?_append_of_ne_nil _ hne).symm
    _ = words.getLast? := congrArg List.getLast? hwords.symm

/-- A flag at the very end of a command line stands behind two hyphens. -/
theorem silent_of_front {words front : List String} {last : Option String}
    {requests : List Request} (hrequests : requests? words = some requests)
    (hwords : words = front ++ last.toList) (hfront : ∀ word ∈ front, asksForAlias word = false)
    (hlast : ∀ word ∈ last, Config.isAliasFlag word = true) :
    ∀ word ∈ optionWords words, asksForAlias word = false := by
  intro word hmem
  by_cases hword : word ∈ front
  · exact hfront word hword
  · exfalso
    have hmemWords : word ∈ front ++ last.toList := by
      rw [← hwords, words_eq words]
      exact List.mem_append_right _ (List.mem_append_left _ hmem)
    have hsome : last = some word := by
      simpa using (List.mem_append.1 hmemWords).resolve_left hword
    subst hsome
    by_cases hpaths : pathWords words = []
    · -- then it is an option that waits for its value in vain
      have hend : (optionWords words).getLast? = some word := by
        rw [getLast?_optionWords hpaths (List.ne_nil_of_mem hmem), hwords]
        exact List.getLast?_concat
      apply (requestsFrom?_closed hrequests).2 word hend [] .alias
      exact ofWord_of_isAliasFlag (hlast word rfl)
    · -- then something stands behind it, so that it is one of the words in front
      have hbefore := mem_dropLast_of_mem_optionWords hpaths hmem
      rw [hwords] at hbefore
      apply hword
      simpa using hbefore

/-- An accepted command line asks for an alias if one of the words before two hyphens does, as they
are when everything has been expanded.  None of them does if every alias is asked for by a flag and
a name behind it. -/
theorem aliases_of_process {c : Config} {args words : List String} {a : Arguments}
    (hprocess : c.process args = .ok words) (hparse : parse words = .ok a) :
    (a.aliases = [] ↔ ∀ word ∈ optionWords words, asksForAlias word = false) ∧
      (PlainAliases c args → a.aliases = []) := by
  rcases told_of_parse hparse with ⟨requests, hrequests, _, _, haliases⟩
  have hiff : a.aliases = [] ↔ ∀ word ∈ optionWords words, asksForAlias word = false := by
    rw [haliases, requestsFrom?_alias hrequests]
    simp [optionWords]
  refine ⟨hiff, ?_⟩
  intro hplain
  rcases hplain.process_front hprocess with ⟨front, last, hwords, hfront, hlast⟩
  exact hiff.2 (silent_of_front hrequests hwords hfront hlast)

/-- A configuration with an alias behind another one. -/
def rawConfig : Config :=
  { defaults := some "-w 2"
    aliases := [("noh", "--no-header"), ("raw", "-a noh --strict")] }

theorem plainAliases_rawConfig :
    PlainAliases rawConfig ["csvflow", "--alias", "raw", "data.csv"] where
  arguments := by decide
  defaults := by
    intro words hwords
    cases hwords
    decide +kernel
  values := by
    intro name value words hvalue hwords
    have hentries : ∀ entry ∈ rawConfig.aliases, ∀ words ∈ Words.split? entry.2,
        (∀ word ∈ words, AsksPlainly word) ∧ Config.dangles words = false := by
      decide +kernel
    exact hentries _ (mem_of_lookup hvalue) words hwords

theorem aliases_of_rawConfig :
    ∃ words a, rawConfig.process ["csvflow", "--alias", "raw", "data.csv"] = .ok words ∧
      parse words = .ok a ∧ a.noHeader = true ∧ a.strict = true ∧ a.aliases = [] := by
  let words := ["csvflow", "-w", "2", "--no-header", "--strict", "data.csv"]
  let a : Arguments :=
    { Arguments.usual with
      files := [⟨"data.csv"⟩], noHeader := true, strict := true, workers := 2 }
  have hprocess : rawConfig.process ["csvflow", "--alias", "raw", "data.csv"] = .ok words := by rfl
  have hparse : parse words = .ok a := by rfl
  exact ⟨words, a, hprocess, hparse, rfl, rfl,
    (aliases_of_process hprocess hparse).2 plainAliases_rawConfig⟩

/-- A name behind an equals sign stays, and so does one behind a flag that ends a value. -/
theorem aliases_stay :
    (∃ words a, Config.process ⟨none, [("noh", "--no-header")]⟩
        ["csvflow", "--alias=noh", "data.csv"] = .ok words ∧
      parse words = .ok a ∧ a.noHeader = false ∧ a.aliases = ["noh"]) ∧
    (∃ words a, Config.process ⟨none, [("noh", "--no-header"), ("open", "--strict -a")]⟩
        ["csvflow", "-a", "open", "noh", "data.csv"] = .ok words ∧
      parse words = .ok a ∧ a.noHeader = false ∧ a.aliases = ["noh"]) := by
  let a : Arguments :=
    { Arguments.usual with files := [⟨"data.csv"⟩], aliases := ["noh"] }
  constructor
  · exact ⟨["csvflow", "--alias=noh", "data.csv"], a, by rfl, by rfl, rfl, rfl⟩
  · exact ⟨["csvflow", "--strict", "-a", "noh", "data.csv"], { a with strict := true },
      by rfl, by rfl, rfl, rfl⟩

end Command
end RecordFlow
