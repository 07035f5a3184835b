import Mathlib.Data.List.TakeWhile
import RecordFlow.Config.Expansion
import RecordFlow.Proofs.Command.Aliases

/-!
# Precedence — arguments behind default arguments

Default arguments are put in front of those of a command line, and a setting that is given again
takes the later value.  So what a command line asks for lies over what the defaults ask for
(`Arguments.Over`): requests that can be carried out can be carried out behind others, what they
give has the value that they give it alone, and what they leave stays as it is there.

Some options exclude each other, and it does not matter where they come from.  A command line that
asks for one of them is refused if the defaults ask for the other (`Arguments.clash`), so that these
defaults cannot be overridden.

`arguments_precede_defaults` puts this together for a configuration without aliases.
-/

namespace RecordFlow
namespace Command

/-! ## Values of options -/

/-- The value of an option. -/
inductive Value where
  | switch (on : Bool)
  | byte (b : UInt8)
  | number (n : Nat)
  | fraction (x : Binary64)
  | duration (d : Duration)
  | format (f : LogFormat)
  | path (p : Option Path)
  | text (t : Option String)
  | texts (ts : List String)
deriving DecidableEq, Repr

/-- Whether something was asked for; a value that is always there counts as asked for. -/
def Value.isSet : Value → Bool
  | .switch on => on
  | .path p => p.isSome
  | .text t => t.isSome
  | .texts ts => !ts.isEmpty
  | _ => true

namespace Arguments

/-- The value of an option.  Who asks for help or the version gets no arguments. -/
def value (a : Arguments) : Key → Value
  | .flag .noHeader => .switch a.noHeader
  | .flag .noValidateHeader => .switch a.noValidateHeader
  | .flag .strict => .switch a.strict
  | .flag .abortOnError => .switch a.abortOnError
  | .flag .noOutput => .switch a.noOutput
  | .flag .noProgress => .switch a.noProgress
  | .flag .verbose => .switch a.verbose
  | .flag .quiet => .switch a.quiet
  | .flag .ignoreConfig => .switch a.ignoreConfig
  | .flag .showConfig => .switch a.showConfig
  | .flag .help => .switch false
  | .flag .version => .switch false
  | .setting .delimiter => .byte a.delimiter
  | .setting .buffer => .number a.buffer
  | .setting .workers => .number a.workers
  | .setting .maxActive => .number a.maxActive
  | .setting .maxErrors => .number a.maxErrors
  | .setting .errorThreshold => .fraction a.errorThreshold
  | .setting .errorReport => .path a.errorReport
  | .setting .output => .path a.output
  | .setting .progressInterval => .duration a.progressInterval
  | .setting .logLevel => .text a.logLevel
  | .setting .logFormat => .format a.logFormat
  | .setting .alias => .texts a.aliases
  | .setting .configFile => .path a.configFile
  | .setting .completions => .text a.completions

/-- Whether arguments ask for an option. -/
def has (a : Arguments) (key : Key) : Bool := (a.value key).isSet

end Arguments

/-- The option that a request gives. -/
def Request.key? : Request → Option Key
  | .flag f => some (.flag f)
  | .setting s _ => some (.setting s)
  | .file _ => none

/-- Whether a request can be carried out on any arguments, and gives one option a value there. -/
def Request.Assigns (r : Request) (key : Key) (v : Value) : Prop :=
  ∀ a : Arguments, ∃ b, a.apply r = .ok b ∧ b.files = a.files ∧ b.aliases = a.aliases ∧
    b.value = Function.update a.value key v

theorem Request.Assigns.of_apply {r : Request} {key : Key} {v : Value} {a b : Arguments}
    (hassigns : r.Assigns key v) (h : a.apply r = .ok b) :
    b.files = a.files ∧ b.aliases = a.aliases ∧ b.value = Function.update a.value key v := by
  rcases hassigns a with ⟨b', hb', hchanged⟩
  cases h.symm.trans hb'
  exact hchanged

section Steps

variable {a b : Arguments}

theorem value_files (a : Arguments) (files : List Path) :
    ({ a with files := files } : Arguments).value = a.value := by
  funext key
  rcases key with flag | setting
  · cases flag <;> rfl
  · cases setting <;> rfl

theorem value_aliases (a : Arguments) (aliases : List String) :
    ({ a with aliases := aliases } : Arguments).value =
      Function.update a.value (.setting .alias) (.texts aliases) := by
  funext key
  rcases key with flag | setting
  · cases flag <;> rfl
  · cases setting <;> rfl

theorem assigns_of_raise {flag : Flag} (h : a.raise flag = .ok b) :
    (Request.flag flag).Assigns (.flag flag) (.switch true) := by
  intro x
  cases flag
  -- help and the version are not carried out at all
  case help | version => cases h
  all_goals
    refine ⟨_, rfl, rfl, rfl, funext ?_⟩
    rintro (flag | setting)
    · cases flag <;> rfl
    · cases setting <;> rfl

/-- Whether a text is a value does not depend on the arguments.  Only the names of aliases are put
behind those that are there. -/
theorem assigns_of_set {setting : Setting} {text : String} (h : a.set setting text = .ok b)
    (halias : setting ≠ .alias) :
    (b.value (.setting setting)).isSet = true ∧
      (Request.setting setting text).Assigns (.setting setting) (b.value (.setting setting)) := by
  cases setting
  case «alias» => exact absurd rfl halias
  case logLevel =>
    cases h
    refine ⟨rfl, fun x => ⟨_, rfl, rfl, rfl, funext ?_⟩⟩
    rintro (flag | setting)
    · cases flag <;> rfl
    · cases setting <;> rfl
  all_goals
    -- the text is read without the arguments, and its value is put into one field
    rcases bind_eq_ok h with ⟨v, hread, hb⟩
    cases hb
    refine ⟨rfl, fun x => ?_⟩
    simp only [Arguments.apply, Arguments.set, hread]
    refine ⟨_, rfl, rfl, rfl, funext ?_⟩
    rintro (flag | setting)
    · cases flag <;> rfl
    · cases setting <;> rfl

/-- A request gives an option a value, or puts an alias or a path behind those that are there. -/
theorem cases_of_apply {r : Request} (h : a.apply r = .ok b) :
    (∃ key v, r.key? = some key ∧ v.isSet = true ∧ r.Assigns key v) ∨
      (∃ text, r = .setting .alias text ∧ b = { a with aliases := a.aliases ++ [text] }) ∨
      ∃ text path, r = .file text ∧ Arguments.readPath text = .ok path ∧
        b = { a with files := a.files ++ [path] } := by
  cases r with
  | flag flag => exact .inl ⟨.flag flag, .switch true, rfl, rfl, assigns_of_raise h⟩
  | setting setting text =>
    by_cases halias : setting = .alias
    · subst halias
      cases h
      exact .inr (.inl ⟨text, rfl, rfl⟩)
    · rcases assigns_of_set h halias with ⟨hset, hassigns⟩
      exact .inl ⟨.setting setting, _, rfl, hset, hassigns⟩
  | file text =>
    rcases bind_eq_ok h with ⟨path, hread, hb⟩
    cases hb
    exact .inr (.inr ⟨text, path, rfl, hread, rfl⟩)

/-- After a request one more option is asked for. -/
theorem has_of_apply {r : Request} (h : a.apply r = .ok b) (key : Key) :
    b.has key = true ↔ a.has key = true ∨ r.key? = some key := by
  rcases cases_of_apply h with ⟨own, v, hown, hset, hassigns⟩ | ⟨text, rfl, rfl⟩ |
    ⟨text, path, rfl, _, rfl⟩
  · -- the value that is given counts as asked for, and the others are as before
    rw [Arguments.has, (hassigns.of_apply h).2.2, hown]
    by_cases hkey : key = own
    · simp [hkey, hset]
    · simp [Function.update_of_ne hkey, Arguments.has, Ne.symm hkey]
  · rw [Arguments.has, value_aliases]
    by_cases hkey : key = .setting .alias
    · simp [hkey, Value.isSet, Request.key?]
    · simp [Function.update_of_ne hkey, Arguments.has, Request.key?, Ne.symm hkey]
  · simp [Arguments.has, value_files, Request.key?]

theorem has_of_carried {requests : List Request}
    (h : requests.foldlM Arguments.apply a = .ok b) (key : Key) :
    b.has key = true ↔ a.has key = true ∨ key ∈ requests.filterMap Request.key? := by
  induction requests generalizing a with
  | nil =>
    cases h
    simp
  | cons r rest ih =>
    rw [List.foldlM_cons] at h
    rcases bind_eq_ok h with ⟨a₁, hstep, hrest⟩
    rw [ih hrest, has_of_apply hstep, List.filterMap_cons]
    cases r.key? with
    | none => simp
    | some own => simp [or_assoc, eq_comm (a := own)]

end Steps

/-! ## Arguments over others -/

/-- Whether arguments `y` are what becomes of `x` over `base`: options that were given are as in
`x`, and the others are as in `base`. -/
structure Arguments.Over (given : List Key) (x base y : Arguments) : Prop where
  files : y.files = x.files
  aliases : y.aliases = x.aliases
  value : ∀ key, y.value key = if key ∈ given then x.value key else base.value key

section Over

open Arguments

variable {given : List Key} {x x' base y : Arguments}

theorem Arguments.Over.refl (hfiles : base.files = x.files) (haliases : base.aliases = x.aliases) :
    Over [] x base base :=
  ⟨hfiles, haliases, by simp⟩

/-- Arguments stay over others if both get the same value. -/
theorem Arguments.Over.update {key : Key} {v : Value} {x₁ y₁ : Arguments} (h : Over given x base y)
    (hx : x₁.value = Function.update x.value key v) (hy : y₁.value = Function.update y.value key v)
    (key' : Key) :
    y₁.value key' = if key' ∈ given ++ [key] then x₁.value key' else base.value key' := by
  rw [hx, hy]
  -- an option given twice has the later value, wherever the earlier one came from
  by_cases hkey : key' = key
  · simp [hkey]
  · simp [hkey, h.value key']

/-- A request that can be carried out on the upper arguments does the same on those over others. -/
theorem Arguments.Over.step {r : Request} (h : Over given x base y) (hx : x.apply r = .ok x') :
    ∃ y', y.apply r = .ok y' ∧ Over (given ++ r.key?.toList) x' base y' := by
  rcases cases_of_apply hx with ⟨key, v, hkey, _, hassigns⟩ | ⟨text, rfl, rfl⟩ |
    ⟨text, path, rfl, hread, rfl⟩
  · rcases hassigns.of_apply hx with ⟨hxfiles, hxaliases, hxvalue⟩
    rcases hassigns y with ⟨y', hy', hyfiles, hyaliases, hyvalue⟩
    refine ⟨y', hy', ?_, ?_, ?_⟩
    · rw [hyfiles, hxfiles, h.files]
    · rw [hyaliases, hxaliases, h.aliases]
    · rw [hkey]
      exact h.update hxvalue hyvalue
  · -- names add up, and both sides have the same ones already
    refine ⟨{ y with aliases := y.aliases ++ [text] }, rfl, h.files, ?_, ?_⟩
    · rw [h.aliases]
    · rw [h.aliases]
      exact h.update (value_aliases x _) (value_aliases y _)
  · refine ⟨{ y with files := y.files ++ [path] }, ?_, ?_, h.aliases, ?_⟩
    · simp only [Arguments.apply, addFile, hread]
      rfl
    · rw [h.files]
    · intro key
      simpa [Request.key?, value_files] using h.value key

theorem Arguments.Over.carried {requests : List Request} (h : Over given x base y)
    (hx : requests.foldlM apply x = .ok x') :
    ∃ y', requests.foldlM apply y = .ok y' ∧
      Over (given ++ requests.filterMap Request.key?) x' base y' := by
  induction requests generalizing given x y with
  | nil =>
    cases hx
    exact ⟨y, rfl, by simpa using h⟩
  | cons r rest ih =>
    rw [List.foldlM_cons] at hx
    rcases bind_eq_ok hx with ⟨x₁, hstep, hrest⟩
    rcases h.step hstep with ⟨y₁, hy₁, h₁⟩
    rcases ih h₁ hrest with ⟨y', hy', h'⟩
    refine ⟨y', ?_, ?_⟩
    · rw [List.foldlM_cons, hy₁]
      exact hy'
    · rw [List.append_assoc] at h'
      cases hkey : r.key? <;> simpa [List.filterMap_cons, hkey] using h'

/-- What was not given is as it was before. -/
theorem value_of_carried {requests : List Request} (h : requests.foldlM apply x = .ok x')
    {key : Key} (hkey : key ∉ requests.filterMap Request.key?) : x'.value key = x.value key := by
  -- arguments lie over themselves
  rcases (Over.refl rfl rfl).carried h with ⟨y, hy, hover⟩
  cases h.symm.trans hy
  rw [hover.value key, List.nil_append, if_neg hkey]

end Over

/-! ## Options that exclude each other -/

/-- Pairs of options that no command line may ask for together. -/
def exclusive : List (Key × Key) :=
  [(.flag .quiet, .flag .verbose), (.flag .noOutput, .setting .output)]

namespace Arguments

/-- Whether arguments ask for an option that excludes one which others ask for. -/
def Clash (a b : Arguments) : Prop :=
  ∃ pair ∈ exclusive, (a.has pair.1 = true ∧ b.has pair.2 = true) ∨
    (a.has pair.2 = true ∧ b.has pair.1 = true)

instance (a b : Arguments) : Decidable (a.Clash b) :=
  inferInstanceAs (Decidable (∃ pair ∈ exclusive, _))

/-- The check in terms of the options that are asked for. -/
theorem check_eq (a : Arguments) :
    a.check =
      if a.Clash a then .error .conflict
      else if a.files = [] ∧ a.has (.flag .showConfig) = false ∧
          a.has (.setting .completions) = false then .error .missingFiles
      else .ok a := by
  have hclash : a.Clash a ↔ (a.quiet && a.verbose) || (a.noOutput && a.output.isSome) := by
    simp [Clash, exclusive, has, value, Value.isSet, and_comm]
  simp only [check, hclash]
  simp [has, value, Value.isSet, and_assoc]

theorem check_eq_ok_iff (a : Arguments) :
    a.check = .ok a ↔ ¬ a.Clash a ∧
      (a.files ≠ [] ∨ a.has (.flag .showConfig) = true ∨ a.has (.setting .completions) = true) := by
  rw [check_eq]
  by_cases hclash : a.Clash a
  · simp [hclash]
  · rw [if_neg hclash]
    split
    · rename_i hidle
      simp [hidle]
    · rename_i hbusy
      rw [not_and_or, not_and_or, Bool.not_eq_false, Bool.not_eq_false] at hbusy
      exact ⟨fun _ => ⟨hclash, hbusy⟩, fun _ => rfl⟩

theorem Clash.mono {a b : Arguments} (h : ∀ key, a.has key = true → b.has key = true)
    (hclash : a.Clash a) : b.Clash b := by
  rcases hclash with ⟨pair, hmem, hboth⟩
  refine ⟨pair, hmem, hboth.imp ?_ ?_⟩
  · exact And.imp (h _) (h _)
  · exact And.imp (h _) (h _)

/-- What is asked for in two places clashes in one of them or between them. -/
theorem clash_iff_of_has {a b m : Arguments}
    (h : ∀ key, m.has key = true ↔ b.has key = true ∨ a.has key = true) :
    m.Clash m ↔ a.Clash a ∨ b.Clash b ∨ a.Clash b := by
  constructor
  · rintro ⟨pair, hmem, hboth⟩
    have hasked : m.has pair.1 = true ∧ m.has pair.2 = true := hboth.elim id And.symm
    rw [h, h] at hasked
    rcases hasked with ⟨hk | hk, hl | hl⟩
    · exact .inr (.inl ⟨pair, hmem, .inl ⟨hk, hl⟩⟩)
    · exact .inr (.inr ⟨pair, hmem, .inr ⟨hl, hk⟩⟩)
    · exact .inr (.inr ⟨pair, hmem, .inl ⟨hk, hl⟩⟩)
    · exact .inl ⟨pair, hmem, .inl ⟨hk, hl⟩⟩
  · rintro (hclash | hclash | ⟨pair, hmem, hboth⟩)
    · exact hclash.mono fun key hkey => (h key).2 (.inr hkey)
    · exact hclash.mono fun key hkey => (h key).2 (.inl hkey)
    · refine ⟨pair, hmem, ?_⟩
      rw [h, h]
      tauto

end Arguments

end Command

/-! ## Words without aliases -/

namespace Config

/-- The name behind the first flag for an alias. -/
def aliasName? : List String → Option String
  | [] => none
  | [_] => none
  | arg :: next :: rest => if isAliasFlag arg then some next else aliasName? (next :: rest)

theorem aliasName?_cons {arg : String} {rest : List String} (hrest : rest ≠ []) :
    aliasName? (arg :: rest) = if isAliasFlag arg then rest.head? else aliasName? rest := by
  cases rest with
  | nil => exact absurd rfl hrest
  | cons next rest => rfl

theorem aliasName?_append {front back : List String} (hback : back ≠ [])
    (hfront : ∀ word ∈ front, isAliasFlag word = false) :
    aliasName? (front ++ back) = aliasName? back := by
  induction front with
  | nil => rfl
  | cons word front ih =>
    rw [List.forall_mem_cons] at hfront
    rw [List.cons_append, aliasName?_cons (by simp [hback]), hfront.1]
    exact ih hfront.2

variable {c : Config}

theorem resolve_of_no_aliases (haliases : c.aliases = []) (name : String) :
    c.resolve name [] 0 = .error (.unknown name) := by
  simp [resolve, resolveWithin, alias?, haliases, depthLimit]

/-- Without aliases the first name that is found ends an expansion. -/
theorem expandWords_of_unknown {resolve : String → List String → Expansion} {seen : List String}
    (hresolve : ∀ name, resolve name seen = .error (.unknown name)) (words : List String) :
    expandWords resolve seen words = match aliasName? words with
      | none => .ok (words, seen)
      | some name => .error (.unknown name) := by
  induction words using aliasName?.induct with
  | case1 | case2 => rfl
  | case3 arg next rest hflag =>
    rw [expandWords, aliasName?, if_pos hflag, if_pos hflag, hresolve]
    rfl
  | case4 arg next rest hflag ih =>
    rw [expandWords, aliasName?, if_neg hflag, if_neg hflag, ih]
    cases aliasName? (next :: rest) <;> rfl

theorem process_of_no_aliases {program : String} {defaults given : List String}
    (haliases : c.aliases = []) (hdefaults : c.defaultWords = .ok defaults) :
    c.process (program :: given) = match aliasName? (program :: (defaults ++ given)) with
      | none => .ok (program :: (defaults ++ given))
      | some name => .error (.unknown name) := by
  have hprocess : c.process (program :: given) =
      expandWords (fun name seen => c.resolve name seen 0) [] (program :: (defaults ++ given)) >>=
        fun out => pure out.1 := by
    rw [process, hdefaults]
    rfl
  have hexpand : expandWords (fun name seen => c.resolve name seen 0) []
      (program :: (defaults ++ given)) = _ :=
    expandWords_of_unknown (resolve_of_no_aliases haliases) _
  rw [hprocess, hexpand]
  cases aliasName? (program :: (defaults ++ given)) <;> rfl

end Config

/-! ## Arguments behind default options -/

namespace Command

/-- Whether words are options with their values, none of which asks for an alias. -/
structure OptionsOnly (words : List String) (own : List Request) : Prop where
  requests : requestsFrom? none words = some own
  stopless : "--" ∉ words
  options : ∀ r ∈ own, ∃ key, r.key? = some key ∧ key ≠ .setting .alias

namespace OptionsOnly

variable {words : List String} {own : List Request}

theorem requests_append (h : OptionsOnly words own) (program : String) (back : List String) :
    requests? (program :: (words ++ back)) = (requestsFrom? none back).map (own ++ ·) :=
  requestsFrom?_append h.requests h.stopless back

theorem isAliasFlag_eq_false (h : OptionsOnly words own) :
    ∀ word ∈ words, Config.isAliasFlag word = false := by
  have hsilent : own.filterMap Request.alias? = [] := by
    rw [List.filterMap_eq_nil_iff]
    intro r hr
    rcases h.options r hr with ⟨key, hkey, halias⟩
    cases r with
    | setting setting text =>
      cases hkey
      rw [Request.alias?_setting, if_neg (by simpa using halias)]
    | flag | file => rfl
  have hall : words.takeWhile (· ≠ "--") = words := by
    rw [List.takeWhile_eq_self_iff]
    intro word hmem
    simpa using ne_of_mem_of_not_mem hmem h.stopless
  intro word hmem
  have hasks := ((requestsFrom?_alias h.requests).1 hsilent).2 word (by rwa [hall])
  by_contra hflag
  rw [asksForAlias, ofWord_of_isAliasFlag (by simpa using hflag)] at hasks
  cases hasks

/-- A name is asked for behind the defaults exactly if it is asked for without them. -/
theorem aliasName?_eq_none_iff (h : OptionsOnly words own) {given : List String}
    (hgiven : given ≠ []) (program : String) :
    Config.aliasName? (program :: (words ++ given)) = none ↔
      Config.aliasName? (program :: given) = none := by
  have hall : words ++ given ≠ [] := by simp [hgiven]
  rw [Config.aliasName?_cons hall, Config.aliasName?_cons hgiven,
    Config.aliasName?_append hgiven h.isAliasFlag_eq_false]
  split <;> simp [hgiven]

end OptionsOnly

/-- Options leave paths and aliases alone. -/
theorem kept_of_carried {requests : List Request} {a b : Arguments}
    (hoptions : ∀ r ∈ requests, ∃ key, r.key? = some key ∧ key ≠ .setting .alias)
    (h : requests.foldlM Arguments.apply a = .ok b) :
    b.files = a.files ∧ b.aliases = a.aliases := by
  induction requests generalizing a with
  | nil =>
    cases h
    exact ⟨rfl, rfl⟩
  | cons r rest ih =>
    rw [List.foldlM_cons] at h
    rcases bind_eq_ok h with ⟨a₁, hstep, hrest⟩
    rw [List.forall_mem_cons] at hoptions
    rcases hoptions with ⟨⟨key, hkey, halias⟩, hoptions⟩
    rcases ih hoptions hrest with ⟨hfiles, haliases⟩
    rcases cases_of_apply hstep with ⟨_, _, _, _, hassigns⟩ | ⟨text, rfl, _⟩ | ⟨text, _, rfl, _⟩
    · rcases hassigns.of_apply hstep with ⟨hfiles₁, haliases₁, _⟩
      exact ⟨hfiles.trans hfiles₁, haliases.trans haliases₁⟩
    · cases hkey
      exact absurd rfl halias
    · cases hkey

theorem ne_nil_of_parse {program : String} {given : List String} {a : Arguments}
    (h : parse (program :: given) = .ok a) : given ≠ [] := by
  rintro rfl
  cases h

/-- What default options come to, if they are accepted in front of some words. -/
theorem OptionsOnly.exists_base {words : List String} {own : List Request}
    (h : OptionsOnly words own) {program : String} {back : List String} {d : Arguments}
    (hd : parse (program :: (words ++ back)) = .ok d) :
    ∃ base, own.foldlM Arguments.apply .usual = .ok base ∧ base.files = [] ∧ base.aliases = [] ∧
      ¬ base.Clash base ∧
      ∀ key ∉ own.filterMap Request.key?, base.value key = Arguments.usual.value key := by
  rcases (parse_eq_ok_iff _ _).1 hd with ⟨requests, hrequests, hcarried, hcheck⟩
  rw [h.requests_append, Option.map_eq_some_iff] at hrequests
  rcases hrequests with ⟨others, _, rfl⟩
  rw [List.foldlM_append] at hcarried
  rcases bind_eq_ok hcarried with ⟨base, hbase, hrest⟩
  rcases kept_of_carried h.options hbase with ⟨hfiles, haliases⟩
  refine ⟨base, hbase, hfiles, haliases, ?_, ?_⟩
  · -- the words behind them ask for more
    intro hclash
    apply (Arguments.check_eq_ok_iff d).1 hcheck |>.1
    exact hclash.mono fun key hkey => (has_of_carried hrest key).2 (.inl hkey)
  · exact fun key hkey => value_of_carried hbase hkey

/-- Behind the default options of a configuration without aliases, the words of a command line stay
as they are unless they name an alias.  They are refused if they ask for an option that excludes one
of the defaults.  Otherwise they are accepted: paths, and options that are given, are as they are
without the defaults, and the other options are as the defaults have them. -/
theorem arguments_precede_defaults {c : Config} {program : String} {defaults given : List String}
    {own : List Request} {a d : Arguments} (haliases : c.aliases = [])
    (hdefaults : c.defaultWords = .ok defaults) (hoptions : OptionsOnly defaults own)
    (ha : parse (program :: given) = .ok a)
    (hd : parse (program :: (defaults ++ a.files.map Path.text)) = .ok d) :
    ∃ requests base, requests? (program :: given) = some requests ∧
      own.foldlM Arguments.apply .usual = .ok base ∧
      (∀ key ∉ own.filterMap Request.key?, base.value key = Arguments.usual.value key) ∧
      (∀ words, c.process (program :: given) = .ok words ↔
        Config.aliasName? (program :: given) = none ∧ words = program :: (defaults ++ given)) ∧
      (a.Clash base → parse (program :: (defaults ++ given)) = .error .conflict) ∧
      (¬ a.Clash base → ∃ m, parse (program :: (defaults ++ given)) = .ok m ∧
        Arguments.Over (requests.filterMap Request.key?) a base m) := by
  rcases (parse_eq_ok_iff _ a).1 ha with ⟨requests, hrequests, hcarried, hcheck⟩
  rcases (Arguments.check_eq_ok_iff a).1 hcheck with ⟨hclash, hbusy⟩
  rcases hoptions.exists_base hd with ⟨base, hbase, hfiles, hnames, hbaseClash, husual⟩
  rcases (Arguments.Over.refl hfiles hnames).carried hcarried with ⟨m, hm, hover⟩
  rw [List.nil_append] at hover
  have hhas : ∀ key, m.has key = true ↔ base.has key = true ∨ a.has key = true := by
    intro key
    rw [has_of_carried hm, has_of_carried hcarried, has_of_carried hbase]
    tauto
  -- what comes together clashes only between the two places
  have hboth : m.Clash m ↔ a.Clash base := by
    rw [Arguments.clash_iff_of_has hhas]
    simp [hclash, hbaseClash]
  have hparse : parse (program :: (defaults ++ given)) = m.check := by
    apply parse_eq_check (hoptions.requests_append program given |>.trans ?_)
    · rw [List.foldlM_append, hbase]
      exact hm
    · exact congrArg (Option.map _) hrequests
  refine ⟨requests, base, hrequests, hbase, husual, ?_, ?_, ?_⟩
  · intro words
    rw [Config.process_of_no_aliases haliases hdefaults,
      ← hoptions.aliasName?_eq_none_iff (ne_nil_of_parse ha)]
    cases Config.aliasName? (program :: (defaults ++ given)) <;> simp [eq_comm]
  · intro hconflict
    rw [hparse, Arguments.check_eq, if_pos (hboth.2 hconflict)]
  · intro hfree
    -- something to do is still there, since paths and options of the arguments are
    refine ⟨m, ?_, hover⟩
    rw [hparse, Arguments.check_eq_ok_iff, hboth, hover.files]
    refine ⟨hfree, hbusy.imp_right (Or.imp ?_ ?_)⟩
    · exact fun h => (hhas _).2 (.inr h)
    · exact fun h => (hhas _).2 (.inr h)

/-- A configuration for files that are not separated by commas. -/
def tunedConfig : Config := { defaults := some "-w 2 -d tab --strict", aliases := [] }

theorem arguments_precede_tuned :
    ∃ m, parse ["csvflow", "-w", "2", "-d", "tab", "--strict", "-w", "4", "a.csv"] = .ok m ∧
      tunedConfig.process ["csvflow", "-w", "4", "a.csv"] =
        .ok ["csvflow", "-w", "2", "-d", "tab", "--strict", "-w", "4", "a.csv"] ∧
      m.workers = 4 ∧ m.delimiter = 9 ∧ m.strict = true ∧ m.buffer = Arguments.usual.buffer ∧
      m.files = [⟨"a.csv"⟩] := by
  let own : List Request :=
    [.setting .workers "2", .setting .delimiter "tab", .flag .strict]
  let a : Arguments := { Arguments.usual with files := [⟨"a.csv"⟩], workers := 4 }
  let b : Arguments := { Arguments.usual with workers := 2, delimiter := 9, strict := true }
  have hoptions : OptionsOnly ["-w", "2", "-d", "tab", "--strict"] own :=
    ⟨by rfl, by decide, by simp [own, Request.key?]⟩
  have ha : parse ["csvflow", "-w", "4", "a.csv"] = .ok a := by rfl
  have hd : parse ["csvflow", "-w", "2", "-d", "tab", "--strict", "a.csv"] =
      .ok { b with files := [⟨"a.csv"⟩] } := by rfl
  rcases arguments_precede_defaults (c := tunedConfig) rfl (by rfl) hoptions ha hd with
    ⟨requests, base, hrequests, hbase, _, hprocess, _, hfree⟩
  have hgiven : requests = [.setting .workers "4", .file "a.csv"] :=
    Option.some.inj (hrequests.symm.trans (by rfl))
  have hdefaults : base = b := Except.ok.inj (hbase.symm.trans (by rfl))
  subst hgiven hdefaults
  rcases hfree (by decide) with ⟨m, hm, hover⟩
  refine ⟨m, hm, (hprocess _).2 ⟨by decide, rfl⟩, ?_, ?_, ?_, ?_, hover.files⟩
  · exact Value.number.inj (hover.value (.setting .workers))
  · exact Value.byte.inj (hover.value (.setting .delimiter))
  · exact Value.switch.inj (hover.value (.flag .strict))
  · exact Value.number.inj (hover.value (.setting .buffer))

/-- Who asks for silence is refused if the defaults ask for more talk. -/
theorem verbose_defaults_refuse_quiet :
    (∃ a d, OptionsOnly ["-v"] [.flag .verbose] ∧
      Config.defaultWords ⟨some "-v", []⟩ = .ok ["-v"] ∧
      parse ["csvflow", "-q", "a.csv"] = .ok a ∧ a.files.map Path.text = ["a.csv"] ∧
      parse ["csvflow", "-v", "a.csv"] = .ok d) ∧
    Config.process ⟨some "-v", []⟩ ["csvflow", "-q", "a.csv"] =
      .ok ["csvflow", "-v", "-q", "a.csv"] ∧
    parse ["csvflow", "-v", "-q", "a.csv"] = .error .conflict := by
  let a : Arguments := { Arguments.usual with files := [⟨"a.csv"⟩] }
  refine ⟨⟨{ a with quiet := true }, { a with verbose := true }, ⟨by rfl, by decide, ?_⟩, by rfl,
    by rfl, rfl, by rfl⟩, by rfl, by rfl⟩
  simp [Request.key?]

end Command
end RecordFlow
