import RecordFlow.Command.Invocation
import RecordFlow.Proofs.Command.Requests

/-!
# Preview — what the raw words tell about the configuration

Which configuration is loaded has to be known before the words are completed from it, so the raw
words are searched for the options on configuration, without the grammar.

* `requestsFrom?_config` says what the grammar makes of such words: the files that are named before
  two hyphens, in either spelling, and whether the flag stands there,
* `customConfig?_eq_head?` says what the search finds: the first file that is named by a word of its
  own, wherever it stands.

So the two agree on words that spell the options plainly (`PlainlySpelled.customConfig?_eq`), and
differ where a file is named behind an equals sign or named again, and where an option stands behind
two hyphens.
-/

namespace RecordFlow
namespace Command

/-! ## Names of options -/

theorem longKey?_eq_some_iff {n : String} {key : Key} (hkey : (n, key) ∈ longNames)
    (name : String) : longKey? name = some key ↔ name = n := by
  -- names and keys go together one to one
  have hfound : ∀ e ∈ longNames, longKey? e.1 = some e.2 := by decide +kernel
  have hkeys : ∀ e ∈ longNames, ∀ e' ∈ longNames, e.2 = e'.2 → e.1 = e'.1 := by decide +kernel
  constructor
  · intro h
    exact hkeys (name, key) (mem_of_lookup h) (n, key) hkey rfl
  · rintro rfl
    exact hfound _ hkey

/-- A word behind two hyphens is the name of an option or not. -/
theorem eq_long_iff {word : String} {cs : List Char} (h : word.toList = '-' :: '-' :: cs)
    (name : String) : word = "--" ++ name ↔ String.ofList cs = name := by
  rw [← String.toList_inj, h, ← String.toList_inj]
  simp

/-! ## Words on configuration -/

/-- The file that a word names behind an equals sign. -/
def joinedConfig? (word : String) : Option String :=
  ("--config-file=".toList.isPrefixOf? word.toList).map String.ofList

/-- The files that words name for the configuration, in either spelling. -/
def mentions : List String → List String
  | [] => []
  | word :: rest =>
    (if word = "--config-file" then rest.head?.toList else (joinedConfig? word).toList) ++
      mentions rest

theorem joinedConfig?_eq_some_iff {word text : String} :
    joinedConfig? word = some text ↔ word.toList = "--config-file=".toList ++ text.toList := by
  rw [joinedConfig?, Option.map_eq_some_iff]
  constructor
  · rintro ⟨cs, hcs, rfl⟩
    rw [String.toList_ofList (l := cs)]
    exact (List.isPrefixOf?_eq_some_iff_append_eq.1 hcs).symm
  · intro h
    exact ⟨text.toList, List.isPrefixOf?_eq_some_iff_append_eq.2 h.symm, String.ofList_toList⟩

/-- A list is cut at the first place of an element in one way. -/
theorem append_cons_inj {α : Type} {a : α} {xs xs' ys ys' : List α} (h : a ∉ xs) (h' : a ∉ xs') :
    xs ++ a :: ys = xs' ++ a :: ys' ↔ xs = xs' ∧ ys = ys' := by
  induction xs generalizing xs' with
  | nil =>
    cases xs' with
    | nil => simp
    | cons x xs' =>
      have hne : a ≠ x := by
        rintro rfl
        simp at h'
      simp [hne]
  | cons x xs ih =>
    cases xs' with
    | nil =>
      have hne : x ≠ a := by
        rintro rfl
        simp at h
      simp [hne]
    | cons x' xs' =>
      simp only [List.mem_cons, not_or] at h h'
      simp [ih h.2 h'.2, and_assoc]

theorem joinedConfig?_iff_of_long {word : String} {cs : List Char}
    (hword : word.toList = '-' :: '-' :: cs) (text : String) :
    joinedConfig? word = some text ↔ cs = "config-file".toList ++ '=' :: text.toList := by
  rw [joinedConfig?_eq_some_iff, hword]
  simp

theorem joinedConfig?_eq_none {word : String} {cs : List Char}
    (hword : word.toList = '-' :: '-' :: cs) (h : '=' ∉ cs) : joinedConfig? word = none := by
  apply Option.eq_none_iff_forall_ne_some.2
  intro text htext
  apply h
  rw [(joinedConfig?_iff_of_long hword text).1 htext]
  exact List.mem_append_right _ List.mem_cons_self

theorem joinedConfig?_of_equals {word : String} {name text : List Char}
    (hword : word.toList = '-' :: '-' :: (name ++ '=' :: text)) (h : '=' ∉ name) :
    joinedConfig? word =
      if String.ofList name = "config-file" then some (String.ofList text) else none := by
  have hname : '=' ∉ "config-file".toList := by decide
  by_cases hconfig : String.ofList name = "config-file"
  · rw [if_pos hconfig, joinedConfig?_iff_of_long hword, append_cons_inj h hname, ← hconfig]
    exact ⟨String.toList_ofList.symm, String.toList_ofList.symm⟩
  · rw [if_neg hconfig]
    apply Option.eq_none_iff_forall_ne_some.2
    intro t ht
    rw [joinedConfig?_iff_of_long hword, append_cons_inj h hname] at ht
    exact hconfig (by rw [ht.1, String.ofList_toList])

/-- What a token says about the configuration is what its word says. -/
def Token.Tells (word : String) (own : List Request) (awaited : Option Setting) : Prop :=
  own.filterMap Request.config? = (joinedConfig? word).toList ∧
    (awaited = some .configFile ↔ word = "--config-file") ∧
    (.flag .ignoreConfig ∈ own ↔ word = "--ignore-config")

theorem ofShort_config {cs : List Char} {own : List Request} {awaited : Option Setting}
    (h : Token.ofShort cs = .option own awaited) :
    own.filterMap Request.config? = [] ∧ awaited ≠ some .configFile ∧
      .flag .ignoreConfig ∉ own := by
  -- no letter stands for an option on configuration
  have hletters : ∀ e ∈ letters, e.2 ≠ .setting .configFile ∧ e.2 ≠ .flag .ignoreConfig := by
    decide
  induction cs generalizing own with
  | nil =>
    cases h
    simp
  | cons c rest ih =>
    unfold Token.ofShort at h
    cases hkey : letterKey? c with
    | none => simp [hkey] at h
    | some key =>
      rcases hletters _ (mem_of_lookup hkey) with ⟨hconfig, hignore⟩
      cases key with
      | flag flag =>
        simp only [hkey] at h
        rcases Parser.ofShort_cases rest with ⟨own', awaited', hoption, _⟩ | hunknown
        · rw [hoption] at h
          cases h
          rcases ih hoption with ⟨hnone, hawaited, hflag⟩
          refine ⟨?_, hawaited, ?_⟩
          · simpa [Request.config?] using hnone
          · simp only [List.mem_cons, not_or]
            exact ⟨fun hsame => hignore (by cases hsame; rfl), hflag⟩
        · simp [hunknown, Token.behind] at h
      | setting setting =>
        have hother : setting ≠ .configFile := fun hsame => hconfig (by rw [hsame])
        simp only [hkey] at h
        split at h
        · cases h
          simpa using hother
        · cases h
          simp [Request.config?_setting, hother]

theorem ofLong_config {word : String} {cs : List Char} (hword : word.toList = '-' :: '-' :: cs)
    {own : List Request} {awaited : Option Setting} (h : Token.ofLong cs = .option own awaited) :
    Token.Tells word own awaited := by
  have hconfig : word = "--config-file" ↔ String.ofList cs = "config-file" :=
    eq_long_iff hword "config-file"
  have hignore : word = "--ignore-config" ↔ String.ofList cs = "ignore-config" :=
    eq_long_iff hword "ignore-config"
  have hconfigKey : ∀ name, longKey? name = some (.setting .configFile) ↔ name = "config-file" :=
    longKey?_eq_some_iff (by decide)
  have hignoreKey : ∀ name, longKey? name = some (.flag .ignoreConfig) ↔ name = "ignore-config" :=
    longKey?_eq_some_iff (by decide)
  rw [Token.Tells, hconfig, hignore]
  rcases Parser.cases_of_ofLong h with ⟨flag, hkey, hequals, rfl, rfl⟩ |
    ⟨setting, hkey, hequals, rfl, rfl⟩ | ⟨setting, name, text, hkey, hequals, rfl, rfl, rfl⟩
  · rw [joinedConfig?_eq_none hword hequals, ← hconfigKey, ← hignoreKey, hkey]
    refine ⟨rfl, by simp, ?_⟩
    simpa using eq_comm
  · rw [joinedConfig?_eq_none hword hequals, ← hconfigKey, ← hignoreKey, hkey]
    simp
  · -- a word with an equals sign in it is no name
    have hname : ∀ n : String, '=' ∉ n.toList → String.ofList (name ++ '=' :: text) ≠ n := by
      rintro n hn rfl
      exact hn (by simp)
    have hsame : String.ofList name = "config-file" ↔ setting = .configFile := by
      rw [← hconfigKey, hkey]
      simp
    refine ⟨?_, ?_, ?_⟩
    · rw [joinedConfig?_of_equals hword hequals, List.filterMap_cons, Request.config?_setting]
      by_cases hsetting : setting = .configFile <;> simp [hsetting, hsame]
    · exact iff_of_false (by simp) (hname "config-file" (by decide))
    · exact iff_of_false (by simp) (hname "ignore-config" (by decide))

/-- A word that does not begin with two hyphens says nothing about the configuration. -/
theorem silent_of_not_long {word : String} (h : ∀ cs, word.toList ≠ '-' :: '-' :: cs) :
    joinedConfig? word = none ∧ word ≠ "--config-file" ∧ word ≠ "--ignore-config" := by
  refine ⟨?_, ?_, ?_⟩
  · apply Option.eq_none_iff_forall_ne_some.2
    intro text htext
    exact h _ (joinedConfig?_eq_some_iff.1 htext)
  all_goals
    rintro rfl
    exact h _ rfl

theorem ofWord_config {word : String} {own : List Request} {awaited : Option Setting}
    (h : Token.ofWord word = .option own awaited) : Token.Tells word own awaited := by
  rcases Token.cases_of_chars word.toList with hstop | ⟨cs, hcs, hlong⟩ | ⟨c, cs, hc, hshort⟩ |
    hplain
  · rw [Token.ofWord_of_long hstop] at h
    cases h
  · rw [Token.ofWord_of_long hlong, if_neg hcs] at h
    exact ofLong_config hlong h
  · rw [Token.ofWord_of_short hshort hc] at h
    rcases ofShort_config h with ⟨hown, hawaited, hflag⟩
    have hnotLong : ∀ cs, word.toList ≠ '-' :: '-' :: cs := by
      intro cs hcs
      rw [hshort] at hcs
      cases hcs
      exact hc rfl
    rcases silent_of_not_long hnotLong with ⟨hjoined, hconfig, hignore⟩
    refine ⟨?_, iff_of_false hawaited hconfig, iff_of_false hflag hignore⟩
    rw [hown, hjoined]
    rfl
  · rw [Token.ofWord_of_plain hplain] at h
    cases h

theorem ofWord_plain {word : String} (h : Token.ofWord word = .plain) :
    joinedConfig? word = none ∧ word ≠ "--config-file" ∧ word ≠ "--ignore-config" := by
  apply silent_of_not_long
  intro cs hcs
  rw [Token.ofWord_of_long hcs] at h
  split at h
  · cases h
  · exact (ofLong_ne cs).1 h

/-! ## What the grammar makes of words on configuration -/

/-- The requests of a command line name the files that the words before two hyphens mention, and
raise the flag if it stands there. -/
theorem requestsFrom?_config {awaited : Option Setting} {words : List String}
    {requests : List Request} (h : requestsFrom? awaited words = some requests) :
    requests.filterMap Request.config? =
        (if awaited = some .configFile then (words.takeWhile (· ≠ "--")).head?.toList else []) ++
          mentions (words.takeWhile (· ≠ "--")) ∧
      (.flag .ignoreConfig ∈ requests ↔ "--ignore-config" ∈ words.takeWhile (· ≠ "--")) := by
  induction words generalizing awaited requests with
  | nil =>
    cases awaited with
    | none =>
      cases h
      simp [mentions]
    | some setting => cases h
  | cons word rest ih =>
    rcases cases_of_requestsFrom? h with ⟨setting, others, rfl, hplain, hothers, rfl⟩ |
      ⟨rfl, hstop, rfl⟩ | ⟨others, rfl, hplain, hothers, rfl⟩ |
      ⟨own, awaited', others, rfl, hoption, hothers, rfl⟩
    · rcases ih hothers with ⟨hconfig, hignore⟩
      rcases ofWord_plain hplain with ⟨hjoined, hnotConfig, hnotIgnore⟩
      rw [takeWhile_cons (by simp [hplain]), List.filterMap_cons, Request.config?_setting, mentions,
        if_neg hnotConfig, hjoined]
      refine ⟨?_, by simpa [eq_comm, hnotIgnore] using hignore⟩
      by_cases hsetting : setting = .configFile <;> simpa [hsetting] using hconfig
    · rw [ofWord_eq_stop_iff.1 hstop]
      simp [mentions, Request.config?]
    · rcases ih hothers with ⟨hconfig, hignore⟩
      rcases ofWord_plain hplain with ⟨hjoined, hnotConfig, hnotIgnore⟩
      rw [takeWhile_cons (by simp [hplain]), mentions, if_neg hnotConfig, hjoined]
      refine ⟨?_, by simpa [eq_comm, hnotIgnore] using hignore⟩
      exact (List.filterMap_cons_none rfl).trans (by simpa using hconfig)
    · rcases ih hothers with ⟨hconfig, hignore⟩
      rcases ofWord_config hoption with ⟨hown, hawaited, hflag⟩
      rw [takeWhile_cons (by simp [hoption]), mentions, List.filterMap_append, hown, hconfig,
        List.mem_append, List.mem_cons, hflag, hignore]
      refine ⟨?_, by simp [eq_comm]⟩
      -- the option itself names no file, and the word behind it does
      by_cases hword : word = "--config-file"
      · rw [if_pos (hawaited.2 hword), if_pos hword, hword]
        rfl
      · rw [if_neg (hawaited.not.2 hword), if_neg hword]
        simp

/-! ## What the search finds -/

/-- The words that stand behind the option for a file. -/
def followers : List String → List String
  | [] => []
  | word :: rest => (if word = "--config-file" then rest.head?.toList else []) ++ followers rest

theorem customConfig?_eq_head? (words : List String) :
    customConfig? words = (followers words).head?.map Path.mk := by
  induction words with
  | nil => rfl
  | cons word rest ih =>
    cases rest with
    | nil => simp [customConfig?, followers]
    | cons next rest =>
      rw [customConfig?, followers]
      by_cases hword : word = "--config-file"
      · simp [hword]
      · rw [if_neg hword, if_neg hword, ih]
        rfl

theorem followers_eq_nil {words : List String} (h : "--config-file" ∉ words) :
    followers words = [] := by
  induction words with
  | nil => rfl
  | cons word rest ih =>
    simp only [List.mem_cons, not_or] at h
    rw [followers, if_neg (Ne.symm h.1), ih h.2]
    rfl

theorem followers_append {words : List String} (h : words.getLast? ≠ some "--config-file")
    (others : List String) : followers (words ++ others) = followers words ++ followers others := by
  induction words with
  | nil => rfl
  | cons word rest ih =>
    cases rest with
    | nil =>
      have hword : word ≠ "--config-file" := by simpa using h
      simp [followers, hword]
    | cons next rest =>
      rw [List.getLast?_cons_cons] at h
      rw [List.cons_append, followers, ih h, ← List.append_assoc]
      rfl

theorem mentions_eq_followers {words : List String}
    (h : ∀ word ∈ words, joinedConfig? word = none) : mentions words = followers words := by
  induction words with
  | nil => rfl
  | cons word rest ih =>
    rw [List.forall_mem_cons] at h
    rw [mentions, followers, ih h.2, h.1]
    rfl

theorem length_followers_le (words : List String) :
    (followers words).length ≤ words.count "--config-file" := by
  induction words with
  | nil => exact Nat.le_refl 0
  | cons word rest ih =>
    by_cases hword : word = "--config-file"
    · subst hword
      have hhead : rest.head?.toList.length ≤ 1 := by cases rest <;> simp
      rw [followers, if_pos rfl, List.length_append, List.count_cons_self]
      omega
    · rw [followers, if_neg hword, List.count_cons_of_ne hword]
      exact ih

/-! ## Plain spelling -/

/-- Whether the options on configuration stand before two hyphens only, and a file is named at most
once, by a word of its own. -/
structure PlainlySpelled (words : List String) : Prop where
  program : ∀ name ∈ words.head?, name ≠ "--config-file" ∧ name ≠ "--ignore-config"
  separate : ∀ word ∈ optionWords words, joinedConfig? word = none
  once : (optionWords words).count "--config-file" ≤ 1
  before : "--config-file" ∉ pathWords words ∧ "--ignore-config" ∉ pathWords words

theorem head?_eq_getLast? {α : Type} {xs : List α} (h : xs.length ≤ 1) :
    xs.head? = xs.getLast? := by
  match xs, h with
  | [], _ => rfl
  | [_], _ => rfl

/-- The search finds the configuration of an accepted command line if it is spelled plainly. -/
theorem PlainlySpelled.customConfig?_eq {words : List String} (h : PlainlySpelled words)
    (hlast : (optionWords words).getLast? ≠ some "--config-file") :
    customConfig? words = (mentions (optionWords words)).getLast?.map Path.mk := by
  have hprogram : followers words.head?.toList = [] := by
    apply followers_eq_nil
    intro hmem
    exact (h.program _ (by simpa using hmem)).1 rfl
  have hprogramLast : words.head?.toList.getLast? ≠ some "--config-file" := by
    intro hmem
    cases hhead : words.head? with
    | none => simp [hhead] at hmem
    | some name =>
      rw [hhead] at hmem
      exact (h.program name hhead).1 (by simpa using hmem)
  have hfollowers : followers words = mentions (optionWords words) :=
    calc followers words
        = followers (words.head?.toList ++ (optionWords words ++ pathWords words)) :=
          congrArg followers (words_eq words)
      _ = followers (optionWords words) := by
          rw [followers_append hprogramLast, hprogram, followers_append hlast,
            followers_eq_nil h.before.1]
          simp
      _ = mentions (optionWords words) := (mentions_eq_followers h.separate).symm
  have honce : (mentions (optionWords words)).length ≤ 1 := by
    rw [mentions_eq_followers h.separate]
    exact Nat.le_trans (length_followers_le _) h.once
  rw [customConfig?_eq_head?, hfollowers, head?_eq_getLast? honce]

theorem PlainlySpelled.ignoresConfig_iff {words : List String} (h : PlainlySpelled words) :
    ignoresConfig words = true ↔ "--ignore-config" ∈ optionWords words := by
  have hprogram : "--ignore-config" ∉ words.head?.toList := by
    intro hmem
    exact (h.program _ (by simpa using hmem)).2 rfl
  have hword : "--ignore-config" ∈ words ↔ "--ignore-config" ∈ words.head?.toList ∨
      "--ignore-config" ∈ optionWords words ∨ "--ignore-config" ∈ pathWords words := by
    rw [← List.mem_append, ← List.mem_append, ← words_eq]
  rw [ignoresConfig, List.contains_iff_mem, hword]
  simp [hprogram, h.before.2]

/-- The grammar takes the last file that is named before two hyphens in either spelling, and the
flag if it stands there.  The search takes the first file that is named by a word of its own, and
never misses the flag.  Both find the same if the options are spelled plainly. -/
theorem preview_of_parse {words : List String} {a : Arguments} (h : parse words = .ok a) :
    a.configFile = (mentions (optionWords words)).getLast?.map Path.mk ∧
      customConfig? words = (followers words).head?.map Path.mk ∧
      (a.ignoreConfig = true ↔ "--ignore-config" ∈ optionWords words) ∧
      (a.ignoreConfig = true → ignoresConfig words = true) ∧
      (PlainlySpelled words →
        customConfig? words = a.configFile ∧ ignoresConfig words = a.ignoreConfig) := by
  rcases told_of_parse h with ⟨requests, hrequests, hconfig, hignore, _⟩
  rcases requestsFrom?_config hrequests with ⟨hmentions, hflag⟩
  have hlast : (optionWords words).getLast? ≠ some "--config-file" := by
    intro hmem
    exact (requestsFrom?_closed hrequests).2 _ hmem [] .configFile rfl
  have hfile : a.configFile = (mentions (optionWords words)).getLast?.map Path.mk := by
    rw [hconfig, hmentions]
    rfl
  have hraised : a.ignoreConfig = true ↔ "--ignore-config" ∈ optionWords words :=
    hignore.trans hflag
  refine ⟨hfile, customConfig?_eq_head? words, hraised, ?_, ?_⟩
  · intro hraise
    rw [ignoresConfig, List.contains_iff_mem, words_eq words]
    exact List.mem_append_right _ (List.mem_append_left _ (hraised.1 hraise))
  · intro hplain
    refine ⟨(hplain.customConfig?_eq hlast).trans hfile.symm, ?_⟩
    rw [Bool.eq_iff_iff, hplain.ignoresConfig_iff, hraised]

/-- A command line that names its configuration by a word of its own. -/
def plainWords : List String := ["csvflow", "--config-file", "my.ini", "data.csv"]

theorem plainlySpelled_plainWords : PlainlySpelled plainWords where
  program := by decide
  separate := by decide +kernel
  once := by decide
  before := by decide

theorem preview_of_plainWords :
    ∃ a, parse plainWords = .ok a ∧ a.configFile = some ⟨"my.ini"⟩ ∧
      customConfig? plainWords = a.configFile ∧ ignoresConfig plainWords = a.ignoreConfig := by
  let a : Arguments :=
    { Arguments.usual with files := [⟨"data.csv"⟩], configFile := some ⟨"my.ini"⟩ }
  have hparse : parse plainWords = .ok a := by rfl
  exact ⟨a, hparse, rfl, (preview_of_parse hparse).2.2.2.2 plainlySpelled_plainWords⟩

/-- The search misses a file behind an equals sign, finds the first of several files, and finds a
path behind two hyphens. -/
theorem search_differs_from_grammar :
    ((parse ["csvflow", "--config-file=my.ini", "data.csv"]).map (·.configFile) =
        .ok (some ⟨"my.ini"⟩) ∧
      customConfig? ["csvflow", "--config-file=my.ini", "data.csv"] = none) ∧
    ((parse ["csvflow", "--config-file", "a.ini", "--config-file", "b.ini", "data.csv"]).map
        (·.configFile) = .ok (some ⟨"b.ini"⟩) ∧
      customConfig? ["csvflow", "--config-file", "a.ini", "--config-file", "b.ini", "data.csv"] =
        some ⟨"a.ini"⟩) ∧
    ((parse ["csvflow", "--", "--config-file", "data.csv"]).map (·.configFile) = .ok none ∧
      customConfig? ["csvflow", "--", "--config-file", "data.csv"] = some ⟨"data.csv"⟩) := by
  refine ⟨⟨?_, ?_⟩, ⟨?_, ?_⟩, ?_, ?_⟩ <;> rfl

end Command
end RecordFlow
