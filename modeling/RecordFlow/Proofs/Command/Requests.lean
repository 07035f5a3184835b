import Mathlib.Data.List.Basic
import RecordFlow.Command.Parser

/-!
# Requests — the grammar of a command line

The parser takes words one by one and looks at a value when it goes on to something else.  What it
comes to can be said without its state: a word is of a certain kind (`Token`), words in a row make
requests or are no command line (`requests?`), and requests are carried out in the order in which
they were made (`Arguments.apply`).

`parse_eq_ok_iff` says that this is what the parser does: it accepts exactly the words that make
requests which can be carried out and go together, and gives what they come to.
-/

namespace RecordFlow
namespace Command

/-! ## Requests -/

/-- One thing that a command line asks for. -/
inductive Request where
  | flag (flag : Flag)
  | setting (setting : Setting) (text : String)
  | file (text : String)
deriving DecidableEq, Repr

def Arguments.apply (a : Arguments) : Request → Except UsageError Arguments
  | .flag flag => a.raise flag
  | .setting setting text => a.set setting text
  | .file text => a.addFile text

/-- What a word before two hyphens is. -/
inductive Token where
  /-- Two hyphens, behind which every word is a path. -/
  | stop
  | plain
  /-- An option: what it asks for by itself, and the setting that still needs a value. -/
  | option (own : List Request) (awaited : Option Setting)
  | unknown
deriving DecidableEq, Repr

namespace Token

/-- A word behind two hyphens. -/
def ofLong (cs : List Char) : Token :=
  let name := String.ofList (cs.takeWhile (· ≠ '='))
  let value := match cs.dropWhile (· ≠ '=') with
    | [] => none
    | _ :: rest => some (String.ofList rest)
  match longKey? name, value with
  | none, _ => .unknown
  | some (.flag flag), none => .option [.flag flag] none
  | some (.flag _), some _ => .unknown
  | some (.setting setting), none => .option [] (some setting)
  | some (.setting setting), some text => .option [.setting setting text] none

def behind (flag : Flag) : Token → Token
  | .option own awaited => .option (.flag flag :: own) awaited
  | t => t

/-- Letters behind a hyphen. -/
def ofShort : List Char → Token
  | [] => .option [] none
  | c :: rest =>
    match letterKey? c with
    | none => .unknown
    | some (.flag flag) => (ofShort rest).behind flag
    | some (.setting setting) =>
      if rest.isEmpty then .option [] (some setting)
      else .option [.setting setting (String.ofList (Parser.attached rest))] none

def ofWord (text : String) : Token :=
  match text.toList with
  | ['-', '-'] => .stop
  | '-' :: '-' :: rest => ofLong rest
  | '-' :: c :: rest => ofShort (c :: rest)
  | _ => .plain

/-- A word is two hyphens, goes on behind two hyphens or behind one, or is no option. -/
theorem cases_of_chars (cs : List Char) :
    cs = ['-', '-'] ∨ (∃ rest, rest ≠ [] ∧ cs = '-' :: '-' :: rest) ∨
      (∃ c rest, c ≠ '-' ∧ cs = '-' :: c :: rest) ∨ ∀ c rest, cs ≠ '-' :: c :: rest := by
  match cs with
  | [] | [_] => simp
  | c :: c' :: rest =>
    by_cases hc : c = '-'
    · subst hc
      by_cases hc' : c' = '-'
      · subst hc'
        by_cases hrest : rest = []
        · exact .inl (by rw [hrest])
        · exact .inr (.inl ⟨rest, hrest, rfl⟩)
      · exact .inr (.inr (.inl ⟨c', rest, hc', rfl⟩))
    · exact .inr (.inr (.inr (by simp [hc])))

theorem ofWord_of_long {word : String} {cs : List Char} (h : word.toList = '-' :: '-' :: cs) :
    ofWord word = if cs = [] then .stop else ofLong cs := by
  unfold ofWord
  rw [h]
  cases cs <;> rfl

theorem ofWord_of_short {word : String} {c : Char} {cs : List Char}
    (h : word.toList = '-' :: c :: cs) (hc : c ≠ '-') : ofWord word = ofShort (c :: cs) := by
  unfold ofWord
  rw [h]
  simp [hc]

theorem ofWord_of_plain {word : String} (h : ∀ c cs, word.toList ≠ '-' :: c :: cs) :
    ofWord word = .plain := by
  unfold ofWord
  split <;> simp_all

end Token

/-- The requests that words make, behind a setting that needs a value or none; nothing if they are
no command line. -/
def requestsFrom? : Option Setting → List String → Option (List Request)
  | none, [] => some []
  | some _, [] => none
  | some setting, word :: rest =>
    if Token.ofWord word = .plain then
      (requestsFrom? none rest).map (.setting setting word :: ·)
    else none
  | none, word :: rest =>
    match Token.ofWord word with
    | .stop => some (rest.map .file)
    | .plain => (requestsFrom? none rest).map (.file word :: ·)
    | .option own awaited => (requestsFrom? awaited rest).map (own ++ ·)
    | .unknown => none

/-- The requests of a command line, the first word of which is the name of the program. -/
def requests? (words : List String) : Option (List Request) := requestsFrom? none (words.drop 1)

/-- How requests begin: with the value of a setting, with paths only, with one path, or with what
an option asks for. -/
theorem cases_of_requestsFrom? {awaited : Option Setting} {word : String} {rest : List String}
    {requests : List Request} (h : requestsFrom? awaited (word :: rest) = some requests) :
    (∃ setting others, awaited = some setting ∧ Token.ofWord word = .plain ∧
        requestsFrom? none rest = some others ∧ requests = .setting setting word :: others) ∨
      (awaited = none ∧ Token.ofWord word = .stop ∧ requests = rest.map .file) ∨
      (∃ others, awaited = none ∧ Token.ofWord word = .plain ∧
        requestsFrom? none rest = some others ∧ requests = .file word :: others) ∨
      (∃ own awaited' others, awaited = none ∧ Token.ofWord word = .option own awaited' ∧
        requestsFrom? awaited' rest = some others ∧ requests = own ++ others) := by
  cases awaited with
  | some setting =>
    unfold requestsFrom? at h
    split at h
    · rename_i hplain
      rcases Option.map_eq_some_iff.1 h with ⟨others, hothers, rfl⟩
      exact .inl ⟨setting, others, rfl, hplain, hothers, rfl⟩
    · cases h
  | none =>
    unfold requestsFrom? at h
    split at h
    · rename_i hstop
      cases h
      exact .inr (.inl ⟨rfl, hstop, rfl⟩)
    · rename_i hplain
      rcases Option.map_eq_some_iff.1 h with ⟨others, hothers, rfl⟩
      exact .inr (.inr (.inl ⟨others, rfl, hplain, hothers, rfl⟩))
    · rename_i own awaited' hoption
      rcases Option.map_eq_some_iff.1 h with ⟨others, hothers, rfl⟩
      exact .inr (.inr (.inr ⟨own, awaited', others, rfl, hoption, hothers, rfl⟩))
    · cases h

/-! ## Tables and outcomes -/

/-- What is found under a name stands there. -/
theorem mem_of_lookup {α β : Type} [DecidableEq α] {table : List (α × β)} {name : α} {value : β}
    (h : (table.find? fun e => e.1 == name).map (·.2) = some value) : (name, value) ∈ table := by
  rcases Option.map_eq_some_iff.1 h with ⟨e, hfound, rfl⟩
  have hname : e.1 = name := by simpa using List.find?_some hfound
  rw [← hname]
  exact List.mem_of_find?_eq_some hfound

section Outcomes

variable {ε α β : Type}

theorem bind_eq_ok {x : Except ε α} {f : α → Except ε β} {b : β} (h : (x >>= f) = .ok b) :
    ∃ a, x = .ok a ∧ f a = .ok b := by
  cases x with
  | error e => cases h
  | ok a => exact ⟨a, rfl, h⟩

theorem toOption_eq_some_iff {x : Except ε α} {a : α} : x.toOption = some a ↔ x = .ok a := by
  cases x <;> simp [Except.toOption]

theorem toOption_bind (x : Except ε α) (f : α → Except ε β) :
    (x >>= f).toOption = x.toOption.bind fun a => (f a).toOption := by
  cases x <;> rfl

theorem toOption_bind_congr {x : Except ε α} {f g : α → Except ε β}
    (h : ∀ a, x = .ok a → (f a).toOption = (g a).toOption) :
    (x >>= f).toOption = (x >>= g).toOption := by
  cases x with
  | error e => rfl
  | ok a => exact h a rfl

/-- What follows may go by something that is known beforehand. -/
theorem toOption_bind_option {γ : Type} {x : Except ε α} {f : α → Except ε β} {o : Option γ}
    {g : α → γ → Except ε β}
    (h : ∀ a, x = .ok a → (f a).toOption = o.bind fun c => (g a c).toOption) :
    (x >>= f).toOption = o.bind fun c => (x >>= fun a => g a c).toOption := by
  cases x with
  | error e => cases o <;> rfl
  | ok a => exact h a rfl

end Outcomes

/-! ## What a parser still has to look at -/

namespace Parser

/-- The setting that still needs a value. -/
def awaited? (p : Parser) : Option Setting :=
  match p.pending with
  | .setting setting none => some setting
  | _ => none

/-- The requests that have been read but not looked at. -/
def owed (p : Parser) : List Request :=
  match p.pending with
  | .nothing => []
  | .files texts => texts.map .file
  | .setting _ none => []
  | .setting setting (some text) => [.setting setting text]

/-- What a parser comes to if some requests follow. -/
def future (p : Parser) (requests : List Request) : Except UsageError Arguments :=
  (p.owed ++ requests).foldlM Arguments.apply p.arguments

/-- What a parser comes to if nothing follows. -/
def settle (p : Parser) : Except UsageError Arguments := do
  let p ← p.resolve
  pure p.arguments

/-- Takes a request that is not owed. -/
def take (p : Parser) : Request → Except UsageError Parser
  | .flag flag => p.raise flag
  | .setting setting text => p.assign setting text
  | .file text => p.positional text

variable {p q : Parser}

theorem foldlM_addFile (texts : List String) (a : Arguments) :
    texts.foldlM Arguments.addFile a = (texts.map Request.file).foldlM Arguments.apply a := by
  induction texts generalizing a with
  | nil => rfl
  | cons text rest ih =>
    simp only [List.map_cons, List.foldlM_cons, Arguments.apply, ih]

/-- To look at what is pending is to carry out what is owed. -/
theorem resolve_bind {β : Type} (h : p.awaited? = none) (f : Parser → Except UsageError β) :
    (p.resolve >>= f) = p.owed.foldlM Arguments.apply p.arguments >>= fun a =>
      f { p with arguments := a, pending := .nothing } := by
  rcases p with ⟨a, pending, trailing⟩
  cases pending with
  | nothing => rfl
  | files texts =>
    simp only [resolve, owed, foldlM_addFile, bind_assoc, pure_bind]
  | setting setting value =>
    cases value with
    | none => simp [awaited?] at h
    | some text =>
      simp only [resolve, owed, List.foldlM_cons, List.foldlM_nil, Arguments.apply, bind_assoc,
        pure_bind]

/-- A setting without its value ends everything. -/
theorem resolve_of_awaited (h : p.awaited? ≠ none) : p.resolve = .error .invalidValue := by
  rcases p with ⟨a, pending, trailing⟩
  cases pending with
  | nothing => exact absurd rfl h
  | files texts => exact absurd rfl h
  | setting setting value =>
    cases value with
    | none => rfl
    | some text => exact absurd rfl h

theorem settle_eq (h : p.awaited? = none) : p.settle = p.future [] := by
  rw [settle, resolve_bind h, future, List.append_nil]
  exact bind_pure _

/-- A request that is taken is carried out behind what is owed. -/
theorem take_future (h : p.awaited? = none) (r : Request) (requests : List Request) :
    (p.take r >>= fun q => q.future requests) = p.future (r :: requests) := by
  have hfuture : p.future (r :: requests) =
      p.owed.foldlM Arguments.apply p.arguments >>= fun a =>
        a.apply r >>= fun a => requests.foldlM Arguments.apply a := by
    rw [future, List.foldlM_append]
    rfl
  cases r with
  | flag flag =>
    rw [hfuture]
    simp only [take, raise, bind_assoc, pure_bind, resolve_bind h]
    rfl
  | setting setting text =>
    rw [hfuture]
    simp only [take, assign, bind_assoc, pure_bind, resolve_bind h]
    rfl
  | file text =>
    by_cases hfiles : ∃ texts, p.pending = .files texts
    · -- one more path waits beside those that wait already
      rcases hfiles with ⟨texts, hpending⟩
      have howed : ({ p with pending := .files (texts ++ [text]) } : Parser).owed =
          p.owed ++ [.file text] := by
        simp [owed, hpending]
      simp only [take, positional, hpending, bind, Except.bind]
      rw [future, howed, List.append_assoc]
      rfl
    · have hpositional : p.positional text = p.resolve >>= fun p =>
          pure { p with pending := .files [text] } := by
        unfold positional
        split
        · rename_i texts hpending
          exact absurd ⟨texts, hpending⟩ hfiles
        · rfl
      rw [hfuture]
      simp only [take, hpositional, bind_assoc, pure_bind, resolve_bind h]
      rfl

theorem cases_of_resolve (h : p.resolve = .ok q) :
    p.awaited? = none ∧ q.pending = .nothing ∧ q.trailing = p.trailing := by
  have hready : p.awaited? = none := by
    by_contra hawaited
    rw [resolve_of_awaited hawaited] at h
    cases h
  have hbind := resolve_bind hready pure
  rw [bind_pure, h] at hbind
  rcases bind_eq_ok hbind.symm with ⟨a, _, hq⟩
  cases hq
  exact ⟨hready, rfl, rfl⟩

/-- Who takes a request waited for no value, and does not wait for one then. -/
theorem cases_of_take {r : Request} (h : p.take r = .ok q) :
    p.awaited? = none ∧ q.awaited? = none ∧ q.trailing = p.trailing := by
  cases r with
  | flag _ | setting _ _ =>
    rcases bind_eq_ok h with ⟨p₁, hresolve, hrest⟩
    rcases bind_eq_ok hrest with ⟨a, _, hq⟩
    rcases cases_of_resolve hresolve with ⟨hready, hnothing, htrailing⟩
    cases hq
    exact ⟨hready, by simp [awaited?, hnothing], htrailing⟩
  | file text =>
    simp only [take, positional] at h
    split at h
    · rename_i texts hpending
      cases h
      exact ⟨by simp [awaited?, hpending], rfl, rfl⟩
    · rcases bind_eq_ok h with ⟨p₁, hresolve, hq⟩
      rcases cases_of_resolve hresolve with ⟨hready, _, htrailing⟩
      cases hq
      exact ⟨hready, rfl, htrailing⟩

theorem await_future (h : p.awaited? = none) (setting : Setting) (requests : List Request) :
    (p.await setting >>= fun q => q.future requests) = p.future requests := by
  rw [await, future, List.foldlM_append]
  simp only [bind_assoc, pure_bind, resolve_bind h]
  rfl

theorem cases_of_await {setting : Setting} (h : p.await setting = .ok q) :
    p.awaited? = none ∧ q.awaited? = some setting ∧ q.trailing = p.trailing := by
  rcases bind_eq_ok h with ⟨p₁, hresolve, hq⟩
  rcases cases_of_resolve hresolve with ⟨hready, _, htrailing⟩
  cases hq
  exact ⟨hready, rfl, htrailing⟩

/-! ## Options -/

/-- Takes what an option asks for by itself, and waits for the value that it still needs. -/
def takeOption (p : Parser) (own : List Request) (awaited : Option Setting) :
    Except UsageError Parser := do
  let p ← own.foldlM take p
  match awaited with
  | none => pure p
  | some setting => p.await setting

theorem takeOption_cons (p : Parser) (r : Request) (own : List Request)
    (awaited : Option Setting) :
    p.takeOption (r :: own) awaited = p.take r >>= fun q => q.takeOption own awaited := by
  simp only [takeOption, List.foldlM_cons, bind_assoc]

theorem takeOption_singleton (p : Parser) (r : Request) : p.takeOption [r] none = p.take r := by
  simp [takeOption]

theorem takeOption_future (h : p.awaited? = none) (own : List Request) (awaited : Option Setting)
    (requests : List Request) :
    (p.takeOption own awaited >>= fun q => q.future requests).toOption =
      (p.future (own ++ requests)).toOption := by
  induction own generalizing p with
  | nil =>
    cases awaited with
    | none => rfl
    | some setting => exact congrArg Except.toOption (await_future h setting requests)
  | cons r own ih =>
    rw [takeOption_cons, bind_assoc, List.cons_append, ← take_future h]
    refine toOption_bind_congr fun q hq => ?_
    exact ih (cases_of_take hq).2.1

theorem cases_of_takeOption {own : List Request} {awaited : Option Setting}
    (h : p.takeOption own awaited = .ok q) :
    (own ≠ [] ∨ awaited ≠ none → p.awaited? = none) ∧
      (p.awaited? = none → q.awaited? = awaited) ∧ q.trailing = p.trailing := by
  induction own generalizing p with
  | nil =>
    cases awaited with
    | none =>
      cases h
      exact ⟨by simp, id, rfl⟩
    | some setting =>
      rcases cases_of_await h with ⟨hready, hawaits, htrailing⟩
      exact ⟨fun _ => hready, fun _ => hawaits, htrailing⟩
  | cons r own ih =>
    rw [takeOption_cons] at h
    rcases bind_eq_ok h with ⟨p₁, htake, hrest⟩
    rcases cases_of_take htake with ⟨hready, hready₁, htrailing₁⟩
    rcases ih hrest with ⟨_, hawaits, htrailing⟩
    exact ⟨fun _ => hready, fun _ => hawaits hready₁, htrailing.trans htrailing₁⟩

/-! ## Words -/

/-- What a parser makes of a word of some kind. -/
def follow (p : Parser) (text : String) : Token → Except UsageError Parser
  | .stop => .ok { p with trailing := true }
  | .plain => p.plain text
  | .option own awaited => p.takeOption own awaited
  | .unknown => .error .unknownArgument

theorem ofShort_cases (cs : List Char) :
    (∃ own awaited, Token.ofShort cs = .option own awaited ∧
      (cs ≠ [] → own ≠ [] ∨ awaited ≠ none)) ∨ Token.ofShort cs = .unknown := by
  induction cs with
  | nil => exact .inl ⟨[], none, rfl, fun h => absurd rfl h⟩
  | cons c rest ih =>
    unfold Token.ofShort
    cases letterKey? c with
    | none => exact .inr rfl
    | some key =>
      cases key with
      | flag flag =>
        rcases ih with ⟨own, awaited, hoption, _⟩ | hunknown
        · exact .inl ⟨.flag flag :: own, awaited, by simp [hoption, Token.behind], by simp⟩
        · exact .inr (by simp [hunknown, Token.behind])
      | setting setting =>
        by_cases hrest : rest.isEmpty
        · exact .inl ⟨[], some setting, by simp [hrest], by simp⟩
        · exact .inl ⟨_, none, by simp only [hrest]; rfl, by simp⟩

/-- A word behind two hyphens that is an option is a flag, a setting that needs a value, or a
setting with its value behind an equals sign. -/
theorem cases_of_ofLong {cs : List Char} {own : List Request} {awaited : Option Setting}
    (h : Token.ofLong cs = .option own awaited) :
    (∃ flag, longKey? (String.ofList cs) = some (.flag flag) ∧ '=' ∉ cs ∧
        own = [.flag flag] ∧ awaited = none) ∨
      (∃ setting, longKey? (String.ofList cs) = some (.setting setting) ∧ '=' ∉ cs ∧
        own = [] ∧ awaited = some setting) ∨
      (∃ setting name text, longKey? (String.ofList name) = some (.setting setting) ∧
        '=' ∉ name ∧ cs = name ++ '=' :: text ∧
        own = [.setting setting (String.ofList text)] ∧ awaited = none) := by
  have hname : '=' ∉ cs.takeWhile (· ≠ '=') := by
    intro hmem
    have := List.all_eq_true.1 (List.all_takeWhile (p := (· ≠ '=')) (l := cs)) _ hmem
    simp at this
  have hcut := (List.takeWhile_append_dropWhile (p := (· ≠ '=')) (l := cs)).symm
  have hhead := List.head?_dropWhile_not (· ≠ '=') cs
  unfold Token.ofLong at h
  dsimp only at h
  cases htext : cs.dropWhile (· ≠ '=') with
  | nil =>
    rw [htext, List.append_nil] at hcut
    rw [htext, ← hcut] at h
    rw [← hcut] at hname
    split at h
    · cases h
    · rename_i flag hkey _
      cases h
      exact .inl ⟨flag, hkey, hname, rfl, rfl⟩
    · cases h
    · rename_i setting hkey _
      cases h
      exact .inr (.inl ⟨setting, hkey, hname, rfl, rfl⟩)
    · rename_i hsome
      cases hsome
  | cons c text =>
    rw [htext] at hhead
    have hc : c = '=' := by simpa using hhead
    subst hc
    rw [htext] at hcut h
    split at h
    · cases h
    · rename_i hnone
      cases hnone
    · cases h
    · rename_i hnone
      cases hnone
    · rename_i setting _ hkey hsome
      cases h
      cases hsome
      exact .inr (.inr ⟨setting, _, text, hkey, hname, hcut, rfl, rfl⟩)

theorem short_eq (p : Parser) (text : String) (cs : List Char) :
    (p.short cs).toOption = (p.follow text (Token.ofShort cs)).toOption := by
  induction cs generalizing p with
  | nil => rfl
  | cons c rest ih =>
    unfold short Token.ofShort
    cases letterKey? c with
    | none => rfl
    | some key =>
      cases key with
      | flag flag =>
        -- the flag is taken, and the letters behind it follow
        simp only [toOption_bind, ih]
        rcases ofShort_cases rest with ⟨own, awaited, hoption, _⟩ | hunknown
        · rw [hoption, Token.behind, follow, takeOption_cons, toOption_bind]
          rfl
        · rw [hunknown]
          cases (p.raise flag) <;> rfl
      | setting setting =>
        by_cases hrest : rest.isEmpty
        · simp only [hrest, if_true]
          rfl
        · simp only [hrest, Bool.false_eq_true, if_false]
          rw [follow, takeOption_singleton]
          rfl

theorem long_eq (p : Parser) (text : String) (cs : List Char) :
    (p.long cs).toOption = (p.follow text (Token.ofLong cs)).toOption := by
  unfold long Token.ofLong
  dsimp only
  cases longKey? (String.ofList (cs.takeWhile (· ≠ '='))) with
  | none => rfl
  | some key =>
    cases key with
    | flag flag =>
      cases cs.dropWhile (· ≠ '=') with
      | nil => exact congrArg Except.toOption (p.takeOption_singleton (.flag flag)).symm
      | cons c rest => rfl
    | setting setting =>
      cases cs.dropWhile (· ≠ '=') with
      | nil => rfl
      | cons c rest =>
        exact congrArg Except.toOption (p.takeOption_singleton (.setting setting _)).symm

/-- An option asks for something, or needs a value. -/
theorem asks_of_option {text : String} {own : List Request} {awaited : Option Setting}
    (h : Token.ofWord text = .option own awaited) : own ≠ [] ∨ awaited ≠ none := by
  rcases Token.cases_of_chars text.toList with hstop | ⟨rest, hrest, hlong⟩ |
    ⟨c, rest, hc, hshort⟩ | hplain
  · rw [Token.ofWord_of_long hstop] at h
    cases h
  · rw [Token.ofWord_of_long hlong, if_neg hrest] at h
    rcases cases_of_ofLong h with ⟨_, _, _, rfl, _⟩ | ⟨_, _, _, _, rfl⟩ |
      ⟨_, _, _, _, _, _, rfl, _⟩ <;> simp
  · rw [Token.ofWord_of_short hshort hc] at h
    rcases ofShort_cases (c :: rest) with ⟨_, _, hoption, hasks⟩ | hunknown
    · cases hoption.symm.trans h
      exact hasks (List.cons_ne_nil _ _)
    · cases hunknown.symm.trans h
  · rw [Token.ofWord_of_plain hplain] at h
    cases h

theorem word_eq (h : p.trailing = false) (text : String) :
    (p.word text).toOption = (p.follow text (Token.ofWord text)).toOption := by
  rcases Token.cases_of_chars text.toList with hstop | ⟨rest, hrest, hlong⟩ |
    ⟨c, rest, hc, hshort⟩ | hplain
  · have hword : p.word text = .ok { p with trailing := true } := by
      rw [word, h, hstop]
      rfl
    rw [hword, Token.ofWord_of_long hstop]
    rfl
  · have hword : p.word text = p.long rest := by
      rw [word, h, hlong]
      cases rest with
      | nil => exact absurd rfl hrest
      | cons c rest => rfl
    rw [hword, Token.ofWord_of_long hlong, if_neg hrest]
    exact p.long_eq text rest
  · have hword : p.word text = p.short (c :: rest) := by
      unfold word
      rw [h, hshort]
      simp [hc]
    rw [hword, Token.ofWord_of_short hshort hc]
    exact p.short_eq text (c :: rest)
  · have hword : p.word text = p.plain text := by
      unfold word
      rw [h]
      split <;> simp_all
    rw [hword, Token.ofWord_of_plain hplain]
    rfl

theorem toOption_trailing (h : p.trailing = true) (words : List String) :
    (words.foldlM word p >>= settle).toOption =
      if p.awaited? = none then (p.future (words.map .file)).toOption else none := by
  induction words generalizing p with
  | nil =>
    rw [List.foldlM_nil, pure_bind, List.map_nil]
    by_cases hready : p.awaited? = none
    · rw [if_pos hready, settle_eq hready]
    · rw [if_neg hready, settle, resolve_of_awaited hready]
      rfl
  | cons text rest ih =>
    have hword : p.word text = p.take (.file text) := by
      rw [word, h]
      rfl
    rw [List.foldlM_cons, bind_assoc, hword, List.map_cons]
    by_cases hready : p.awaited? = none
    · rw [if_pos hready, ← take_future hready]
      refine toOption_bind_congr fun q hq => ?_
      rcases cases_of_take hq with ⟨_, hready', htrailing⟩
      rw [ih (htrailing.trans h), if_pos hready']
    · rw [if_neg hready]
      cases htake : p.take (.file text) with
      | error e => rfl
      | ok q => exact absurd (cases_of_take htake).1 hready

/-- Whether parsers come to what they owe and the requests that some words make, carried out in
turn. -/
def Reads (words : List String) : Prop :=
  ∀ p : Parser, p.trailing = false →
    (words.foldlM word p >>= settle).toOption =
      (requestsFrom? p.awaited? words).bind fun requests => (p.future requests).toOption

/-- Only a plain word can be the value that a setting waits for. -/
theorem reads_of_awaited {text : String} {rest : List String} (hrest : Reads rest)
    (h : p.trailing = false) {setting : Setting} (hawaited : p.awaited? = some setting) :
    (p.follow text (Token.ofWord text) >>= fun q => rest.foldlM word q >>= settle).toOption =
      (requestsFrom? (some setting) (text :: rest)).bind fun requests =>
        (p.future requests).toOption := by
  have hwaits : p.awaited? ≠ none := by simp [hawaited]
  have hpending : p.pending = .setting setting none := by
    unfold awaited? at hawaited
    split at hawaited
    · cases hawaited
      assumption
    · cases hawaited
  have hrefused : Token.ofWord text ≠ .plain →
      requestsFrom? (some setting) (text :: rest) = none := by
    intro hplain
    rw [requestsFrom?, if_neg hplain]
  cases htoken : Token.ofWord text with
  | stop =>
    -- behind two hyphens the value does not come any more
    have hwaits' : ({ p with trailing := true } : Parser).awaited? ≠ none := hwaits
    have htrailing := toOption_trailing (p := { p with trailing := true }) rfl rest
    rw [if_neg hwaits'] at htrailing
    rw [hrefused (by simp [htoken])]
    exact htrailing
  | plain =>
    have hfollow : p.follow text .plain =
        .ok { p with pending := .setting setting (some text) } := by
      simp [follow, plain, hpending]
    have hnext := hrest { p with pending := .setting setting (some text) } h
    have hfuture : ∀ requests,
        ({ p with pending := .setting setting (some text) } : Parser).future requests =
          p.future (.setting setting text :: requests) := by
      intro requests
      simp [future, owed, hpending]
    rw [hfollow, requestsFrom?, if_pos htoken, Option.bind_map]
    refine hnext.trans ?_
    simp only [hfuture]
    rfl
  | option own awaited =>
    rw [hrefused (by simp [htoken])]
    cases htake : p.takeOption own awaited with
    | error e =>
      rw [follow, htake]
      rfl
    | ok q => exact absurd ((cases_of_takeOption htake).1 (asks_of_option htoken)) hwaits
  | unknown =>
    rw [hrefused (by simp [htoken])]
    rfl

theorem reads_of_ready {text : String} {rest : List String} (hrest : Reads rest)
    (h : p.trailing = false) (hready : p.awaited? = none) :
    (p.follow text (Token.ofWord text) >>= fun q => rest.foldlM word q >>= settle).toOption =
      (requestsFrom? none (text :: rest)).bind fun requests => (p.future requests).toOption := by
  cases htoken : Token.ofWord text with
  | stop =>
    have hready' : ({ p with trailing := true } : Parser).awaited? = none := hready
    have htrailing := toOption_trailing (p := { p with trailing := true }) rfl rest
    rw [if_pos hready'] at htrailing
    rw [requestsFrom?, htoken]
    exact htrailing
  | plain =>
    have hplain : p.plain text = p.take (.file text) := by
      unfold plain
      split
      · rename_i setting hpending
        simp [awaited?, hpending] at hready
      · rfl
    rw [requestsFrom?, htoken, follow, hplain, Option.bind_map]
    -- the words behind it are read by whoever has taken this one
    refine (toOption_bind_option (o := requestsFrom? none rest)
      (g := fun q requests => q.future requests) ?_).trans ?_
    · intro q hq
      rcases cases_of_take hq with ⟨_, hready', htrailing⟩
      rw [hrest q (htrailing.trans h), hready']
    · simp only [take_future hready]
      rfl
  | option own awaited =>
    rw [requestsFrom?, htoken, follow, Option.bind_map]
    refine (toOption_bind_option (o := requestsFrom? awaited rest)
      (g := fun q requests => q.future requests) ?_).trans ?_
    · intro q hq
      rcases cases_of_takeOption hq with ⟨_, hawaits, htrailing⟩
      rw [hrest q (htrailing.trans h), hawaits hready]
    · simp only [takeOption_future hready]
      rfl
  | unknown =>
    rw [requestsFrom?, htoken]
    rfl

theorem reads (words : List String) : Reads words := by
  induction words with
  | nil =>
    intro p _
    rw [List.foldlM_nil, pure_bind]
    cases hawaited : p.awaited? with
    | none =>
      rw [settle_eq hawaited]
      rfl
    | some setting =>
      rw [settle, resolve_of_awaited (by simp [hawaited])]
      rfl
  | cons text rest ih =>
    intro p h
    rw [List.foldlM_cons, bind_assoc, toOption_bind, word_eq h, ← toOption_bind]
    cases hawaited : p.awaited? with
    | some setting => exact reads_of_awaited ih h hawaited
    | none => exact reads_of_ready ih h hawaited

end Parser

/-! ## Command lines -/

theorem Arguments.eq_of_check {a b : Arguments} (h : a.check = .ok b) : a = b := by
  unfold check at h
  split at h
  · cases h
  · split at h
    · cases h
    · cases h
      rfl

theorem parse_eq (words : List String) :
    parse words =
      ((words.drop 1).foldlM Parser.word .initial >>= Parser.settle) >>= Arguments.check := by
  simp only [parse, Parser.settle, bind_assoc, pure_bind]

theorem reads_initial (words : List String) :
    ((words.drop 1).foldlM Parser.word .initial >>= Parser.settle).toOption =
      (requests? words).bind fun requests => (requests.foldlM Arguments.apply .usual).toOption :=
  Parser.reads (words.drop 1) .initial rfl

/-- When requests can be carried out, what goes together is all that is left to look at. -/
theorem parse_eq_check {words : List String} {requests : List Request} {a : Arguments}
    (hrequests : requests? words = some requests)
    (hcarried : requests.foldlM Arguments.apply .usual = .ok a) : parse words = a.check := by
  have hreads := reads_initial words
  rw [hrequests, Option.bind_some, hcarried] at hreads
  rw [parse_eq, toOption_eq_some_iff.1 hreads]
  rfl

/-- The parser accepts the words that make requests which can be carried out and go together, and
gives what they come to. -/
theorem parse_eq_ok_iff (words : List String) (a : Arguments) :
    parse words = .ok a ↔ ∃ requests, requests? words = some requests ∧
      requests.foldlM Arguments.apply .usual = .ok a ∧ a.check = .ok a := by
  constructor
  · intro h
    rw [parse_eq] at h
    rcases bind_eq_ok h with ⟨b, hb, hcheck⟩
    cases Arguments.eq_of_check hcheck
    have hreads := reads_initial words
    rw [hb] at hreads
    rcases Option.bind_eq_some_iff.1 hreads.symm with ⟨requests, hrequests, hcarried⟩
    exact ⟨requests, hrequests, toOption_eq_some_iff.1 hcarried, hcheck⟩
  · rintro ⟨requests, hrequests, hcarried, hcheck⟩
    rw [parse_eq_check hrequests hcarried]
    exact hcheck

/-! ## Words before two hyphens -/

/-- The words behind the name of the program, up to two hyphens that stand alone. -/
def optionWords (words : List String) : List String := (words.drop 1).takeWhile (· ≠ "--")

/-- The two hyphens and the words behind them. -/
def pathWords (words : List String) : List String := (words.drop 1).dropWhile (· ≠ "--")

theorem words_eq (words : List String) :
    words = words.head?.toList ++ (optionWords words ++ pathWords words) := by
  rw [optionWords, pathWords, List.takeWhile_append_dropWhile]
  cases words <;> rfl

theorem ofLong_ne (cs : List Char) : Token.ofLong cs ≠ .plain ∧ Token.ofLong cs ≠ .stop := by
  unfold Token.ofLong
  dsimp only
  split <;> simp

theorem ofWord_eq_stop_iff {word : String} : Token.ofWord word = .stop ↔ word = "--" := by
  constructor
  · intro h
    rcases Token.cases_of_chars word.toList with hstop | ⟨rest, hrest, hlong⟩ |
      ⟨c, rest, hc, hshort⟩ | hplain
    · exact String.toList_inj.1 hstop
    · rw [Token.ofWord_of_long hlong, if_neg hrest] at h
      exact absurd h (ofLong_ne rest).2
    · rw [Token.ofWord_of_short hshort hc] at h
      rcases Parser.ofShort_cases (c :: rest) with ⟨_, _, hoption, _⟩ | hunknown
      · cases hoption.symm.trans h
      · cases hunknown.symm.trans h
    · rw [Token.ofWord_of_plain hplain] at h
      cases h
  · rintro rfl
    rfl

/-- Words behind complete words make requests of their own, unless two hyphens stand between. -/
theorem requestsFrom?_append {awaited : Option Setting} {front : List String}
    {own : List Request} (h : requestsFrom? awaited front = some own) (hstop : "--" ∉ front)
    (back : List String) :
    requestsFrom? awaited (front ++ back) = (requestsFrom? none back).map (own ++ ·) := by
  induction front generalizing awaited own with
  | nil =>
    cases awaited with
    | none =>
      cases h
      simp
    | some setting => cases h
  | cons word rest ih =>
    rw [List.mem_cons, not_or] at hstop
    rcases cases_of_requestsFrom? h with ⟨setting, others, rfl, hplain, hothers, rfl⟩ |
      ⟨rfl, hhyphens, rfl⟩ | ⟨others, rfl, hplain, hothers, rfl⟩ |
      ⟨own, awaited', others, rfl, hoption, hothers, rfl⟩
    · rw [List.cons_append, requestsFrom?, if_pos hplain, ih hothers hstop.2, Option.map_map]
      rfl
    · exact absurd (ofWord_eq_stop_iff.1 hhyphens).symm hstop.1
    · rw [List.cons_append, requestsFrom?, hplain, ih hothers hstop.2, Option.map_map]
      rfl
    · simp only [List.cons_append, requestsFrom?, hoption, ih hothers hstop.2, Option.map_map,
        Function.comp_def, List.append_assoc]

theorem takeWhile_cons {word : String} (h : Token.ofWord word ≠ .stop) (rest : List String) :
    (word :: rest).takeWhile (· ≠ "--") = word :: rest.takeWhile (· ≠ "--") := by
  apply List.takeWhile_cons_of_pos
  simpa using ofWord_eq_stop_iff.not.1 h

/-- Whether words do not end with an option that needs a value. -/
def Closed (words : List String) : Prop :=
  ∀ word ∈ words.getLast?, ∀ own setting, Token.ofWord word ≠ .option own (some setting)

theorem Closed.cons {word : String} {words : List String} (h : Closed words)
    (hword : words = [] → ∀ own setting, Token.ofWord word ≠ .option own (some setting)) :
    Closed (word :: words) := by
  intro last hlast
  cases words with
  | nil =>
    cases hlast
    exact hword rfl
  | cons next rest =>
    rw [List.getLast?_cons_cons] at hlast
    exact h last hlast

/-- In a command line a setting has its value before two hyphens. -/
theorem requestsFrom?_closed {awaited : Option Setting} {words : List String}
    {requests : List Request} (h : requestsFrom? awaited words = some requests) :
    (awaited ≠ none → words.takeWhile (· ≠ "--") ≠ []) ∧
      Closed (words.takeWhile (· ≠ "--")) := by
  induction words generalizing awaited requests with
  | nil =>
    cases awaited with
    | none => exact ⟨fun hne => absurd rfl hne, fun _ hlast => by cases hlast⟩
    | some setting => cases h
  | cons word rest ih =>
    rcases cases_of_requestsFrom? h with ⟨setting, others, rfl, hplain, hothers, rfl⟩ |
      ⟨rfl, hstop, rfl⟩ | ⟨others, rfl, hplain, hothers, rfl⟩ |
      ⟨own, awaited', others, rfl, hoption, hothers, rfl⟩
    · rw [takeWhile_cons (by simp [hplain])]
      refine ⟨fun _ => List.cons_ne_nil _ _, (ih hothers).2.cons ?_⟩
      simp [hplain]
    · rw [ofWord_eq_stop_iff.1 hstop]
      exact ⟨fun hne => absurd rfl hne, fun _ hlast => by cases hlast⟩
    · rw [takeWhile_cons (by simp [hplain])]
      refine ⟨fun _ => List.cons_ne_nil _ _, (ih hothers).2.cons ?_⟩
      simp [hplain]
    · -- the value of the option is among the words behind it
      rcases ih hothers with ⟨hvalue, hclosed⟩
      rw [takeWhile_cons (by simp [hoption])]
      refine ⟨fun _ => List.cons_ne_nil _ _, hclosed.cons ?_⟩
      intro hnil own' setting hsame
      cases hoption.symm.trans hsame
      exact hvalue (Option.some_ne_none _) hnil

/-! ## What requests say about the configuration -/

/-- The file that a request names for the configuration. -/
def Request.config? : Request → Option String
  | .setting .configFile text => some text
  | _ => none

/-- The alias that a request names. -/
def Request.alias? : Request → Option String
  | .setting .alias text => some text
  | _ => none

theorem Request.config?_setting (setting : Setting) (text : String) :
    (Request.setting setting text).config? =
      if setting = .configFile then some text else none := by
  cases setting <;> rfl

theorem Request.alias?_setting (setting : Setting) (text : String) :
    (Request.setting setting text).alias? = if setting = .alias then some text else none := by
  cases setting <;> rfl

namespace Arguments

variable {a b : Arguments}

theorem told_of_raise {flag : Flag} (h : a.raise flag = .ok b) :
    b.configFile = a.configFile ∧
      (b.ignoreConfig = true ↔ a.ignoreConfig = true ∨ flag = .ignoreConfig) ∧
      b.aliases = a.aliases := by
  cases flag <;> cases h <;> simp

theorem told_of_set {setting : Setting} {text : String} (h : a.set setting text = .ok b) :
    b.configFile = ((Request.setting setting text).config?.map Path.mk).or a.configFile ∧
      b.ignoreConfig = a.ignoreConfig ∧
      b.aliases = a.aliases ++ (Request.setting setting text).alias?.toList := by
  have hpath : ∀ path, readPath text = .ok path → path = ⟨text⟩ := by
    intro path h
    unfold readPath at h
    split at h
    · cases h
    · cases h
      rfl
  cases setting with
  | configFile =>
    rcases bind_eq_ok h with ⟨path, hread, hb⟩
    cases hb
    cases hpath path hread
    simp [Request.config?, Request.alias?]
  | «alias» =>
    cases h
    simp [Request.config?, Request.alias?]
  | logLevel =>
    cases h
    simp [Request.config?, Request.alias?]
  | _ =>
    rcases bind_eq_ok h with ⟨value, _, hb⟩
    cases hb
    simp [Request.config?, Request.alias?]

/-- A request changes what it is about. -/
theorem told_of_apply {r : Request} (h : a.apply r = .ok b) :
    b.configFile = (r.config?.map Path.mk).or a.configFile ∧
      (b.ignoreConfig = true ↔ a.ignoreConfig = true ∨ r = .flag .ignoreConfig) ∧
      b.aliases = a.aliases ++ r.alias?.toList := by
  cases r with
  | flag flag =>
    rcases told_of_raise h with ⟨hconfig, hignore, haliases⟩
    exact ⟨by simpa [Request.config?] using hconfig, by simpa using hignore,
      by simpa [Request.alias?] using haliases⟩
  | setting setting text =>
    rcases told_of_set h with ⟨hconfig, hignore, haliases⟩
    exact ⟨hconfig, by simp [hignore], haliases⟩
  | file text =>
    rcases bind_eq_ok h with ⟨path, _, hb⟩
    cases hb
    simp [Request.config?, Request.alias?]

/-- The last file that was named counts, the flag counts once it was raised, and aliases add up. -/
theorem told_of_carried {requests : List Request} (h : requests.foldlM apply a = .ok b) :
    b.configFile = ((requests.filterMap Request.config?).getLast?.map Path.mk).or a.configFile ∧
      (b.ignoreConfig = true ↔ a.ignoreConfig = true ∨ .flag .ignoreConfig ∈ requests) ∧
      b.aliases = a.aliases ++ requests.filterMap Request.alias? := by
  induction requests generalizing a with
  | nil =>
    cases h
    simp
  | cons r rest ih =>
    rw [List.foldlM_cons] at h
    rcases bind_eq_ok h with ⟨a₁, hstep, hrest⟩
    rcases told_of_apply hstep with ⟨hconfig₁, hignore₁, haliases₁⟩
    rcases ih hrest with ⟨hconfig, hignore, haliases⟩
    refine ⟨?_, ?_, ?_⟩
    · rw [hconfig, hconfig₁, List.filterMap_cons]
      cases r.config? with
      | none => rfl
      | some text =>
        cases hlast : (rest.filterMap Request.config?).getLast? <;>
          simp [List.getLast?_cons, hlast]
    · rw [hignore, hignore₁, List.mem_cons, or_assoc, eq_comm (a := r)]
    · rw [haliases, haliases₁, List.filterMap_cons, List.append_assoc]
      cases r.alias? <;> rfl

end Arguments

/-- What an accepted command line says about the configuration is what its requests say. -/
theorem told_of_parse {words : List String} {a : Arguments} (h : parse words = .ok a) :
    ∃ requests, requests? words = some requests ∧
      a.configFile = (requests.filterMap Request.config?).getLast?.map Path.mk ∧
      (a.ignoreConfig = true ↔ .flag .ignoreConfig ∈ requests) ∧
      a.aliases = requests.filterMap Request.alias? := by
  rcases (parse_eq_ok_iff words a).1 h with ⟨requests, hrequests, hcarried, _⟩
  rcases Arguments.told_of_carried hcarried with ⟨hconfig, hignore, haliases⟩
  exact ⟨requests, hrequests, by simpa [Arguments.usual] using hconfig,
    by simpa [Arguments.usual] using hignore, by simpa [Arguments.usual] using haliases⟩

end Command
end RecordFlow
