import Mathlib.Logic.Function.Basic
import RecordFlow.Semaphore

/-!
# Semaphore — holders that share one

Any number of holders call one semaphore.  A call that finds no permit waits; it goes on when a
permit has come free, or quits when its deadline has come or its scope is cancelled.  Scopes are
cancelled and time passes between any two calls.

* `Shared.step?` is one move of a holder, of a scope or of the clock,
* `Shared.Comes` lists what a move comes to, and `Books` what its answer does to the permits,
* `Shared.balanced_of_run?` keeps the permits that are out equal to those granted and not returned.
-/

namespace RecordFlow
namespace Semaphore

/-- How long a call waits for a permit. -/
inductive Patience where
  | endless
  | before (deadline : Nat)
  | under (scope : Nat)
deriving DecidableEq, Repr

/-- What a call is told when it ends. -/
inductive Answer where
  | granted
  | denied
  | refused (error : FlowError)
  | returned
  | crashed (text : String)
deriving DecidableEq, Repr

/-- What happens next around a semaphore. -/
inductive Move where
  | acquire (holder : Nat) (patience : Patience)
  | tryAcquire (holder : Nat)
  | release (holder : Nat)
  | goOn (holder : Nat)
  | quit (holder : Nat)
  | cancel (scope : Nat)
  | pass (time : Nat)
deriving DecidableEq, Repr

/-- A semaphore, the scopes and the clock its holders look at, and the holders that wait. -/
structure Shared where
  semaphore : Semaphore
  scopes : Nat → Scope
  now : Nat
  waiting : Nat → Option Patience

namespace Shared

/-- A semaphore that nobody has called. -/
def ofLimit (limit : Nat) (scopes : Nat → Scope) (now : Nat) : Shared :=
  ⟨Semaphore.ofLimit limit, scopes, now, fun _ => none⟩

/-- What comes of a call for a permit. -/
def request (s : Shared) : Patience → Request
  | .endless => s.semaphore.acquire
  | .before deadline =>
    if deadline ≤ s.now then s.semaphore.acquireAtDeadline else s.semaphore.acquire
  | .under scope => s.semaphore.acquireUnder (s.scopes scope)

/-- Why a call may stop waiting. -/
def excuse? (s : Shared) : Patience → Option FlowError
  | .endless => none
  | .before deadline => if deadline ≤ s.now then some .timeout else none
  | .under scope => if (s.scopes scope).cancelled then some .cancelled else none

/-- The holder is left waiting, or no more. -/
def setWaiting (s : Shared) (holder : Nat) (patience : Option Patience) : Shared :=
  { s with waiting := Function.update s.waiting holder patience }

/-- One move, with the answer to the call that ends with it.  A holder that waits makes no other
call, and one that does not wait neither goes on nor quits. -/
def step? (s : Shared) : Move → Option (Shared × Option Answer)
  | .acquire holder patience =>
    match s.waiting holder with
    | some _ => none
    | none =>
      match s.request patience with
      | .granted semaphore => some ({ s with semaphore }, some .granted)
      | .refused error => some (s, some (.refused error))
      | .waits => some (s.setWaiting holder (some patience), none)
  | .tryAcquire holder =>
    match s.waiting holder with
    | some _ => none
    | none =>
      match s.semaphore.tryAcquire? with
      | some semaphore => some ({ s with semaphore }, some .granted)
      | none => some (s, some .denied)
  | .release holder =>
    match s.waiting holder with
    | some _ => none
    | none =>
      match s.semaphore.release? with
      | some semaphore => some ({ s with semaphore }, some .returned)
      | none => some (s, some (.crashed releaseFault))
  | .goOn holder =>
    match s.waiting holder with
    | none => none
    | some _ =>
      match s.semaphore.tryAcquire? with
      | some semaphore => some ({ s with semaphore }.setWaiting holder none, some .granted)
      | none => none
  | .quit holder =>
    match s.waiting holder with
    | none => none
    | some patience =>
      (s.excuse? patience).map fun error => (s.setWaiting holder none, some (.refused error))
  | .cancel scope =>
    some ({ s with scopes := Function.update s.scopes scope (s.scopes scope).cancel.1 }, none)
  | .pass time => some ({ s with now := s.now + time }, none)

/-- The state after some moves, with the answers that are given on the way. -/
def run? (s : Shared) : List Move → Option (Shared × List Answer)
  | [] => some (s, [])
  | m :: moves =>
    match s.step? m with
    | none => none
    | some (t, answer?) => (t.run? moves).map fun (u, answers) => (u, answer?.toList ++ answers)

/-- The permits that the answers granted and did not see returned. -/
def outstanding (answers : List Answer) : Nat :=
  answers.count .granted - answers.count .returned

end Shared

/-! ## One move -/

/-- What an answer does to a semaphore: a grant takes a permit that is free, a return gives back one
that is out, and nothing else touches the permits. -/
inductive Books (s : Semaphore) : Option Answer → Semaphore → Prop
  | takes : s.held < s.limit → Books s (some .granted) { s with held := s.held + 1 }
  | denies : ¬ s.held < s.limit → Books s (some .denied) s
  | expires : Books s (some (.refused .timeout)) s
  | abandons : Books s (some (.refused .cancelled)) s
  | returns : s.held ≠ 0 → Books s (some .returned) { s with held := s.held - 1 }
  | crashes : s.held = 0 → Books s (some (.crashed releaseFault)) s
  | silent : Books s none s

theorem available_pos_iff {s : Semaphore} : 0 < s.available ↔ s.held < s.limit := by
  rw [available]
  omega

theorem tryAcquire?_of_lt {s : Semaphore} (h : s.held < s.limit) :
    s.tryAcquire? = some { s with held := s.held + 1 } :=
  tryAcquire?_eq_some_iff.2 ⟨h, rfl⟩

theorem tryAcquire?_eq_none_iff {s : Semaphore} : s.tryAcquire? = none ↔ ¬ s.held < s.limit := by
  simp [tryAcquire?]

theorem acquire_of_free {s : Semaphore} (h : s.held < s.limit) :
    s.acquire = .granted { s with held := s.held + 1 } := by
  rw [acquire, tryAcquire?_of_lt h]

theorem acquire_of_full {s : Semaphore} (h : ¬ s.held < s.limit) : s.acquire = .waits := by
  rw [acquire, tryAcquire?_eq_none_iff.2 h]

theorem acquireAtDeadline_of_free {s : Semaphore} (h : s.held < s.limit) :
    s.acquireAtDeadline = .granted { s with held := s.held + 1 } := by
  rw [acquireAtDeadline, tryAcquire?_of_lt h]

theorem acquireAtDeadline_of_full {s : Semaphore} (h : ¬ s.held < s.limit) :
    s.acquireAtDeadline = .refused .timeout := by
  rw [acquireAtDeadline, tryAcquire?_eq_none_iff.2 h]

theorem release?_of_ne {s : Semaphore} (h : s.held ≠ 0) :
    s.release? = some { s with held := s.held - 1 } :=
  release?_eq_some_iff.2 ⟨h, rfl⟩

theorem release?_eq_none_iff {s : Semaphore} : s.release? = none ↔ s.held = 0 := by
  simp [release?]

namespace Shared

variable {s t : Shared} {m : Move} {answer? : Option Answer}

/-- A call finds a permit that is free, unless its scope is cancelled. -/
theorem request_of_free {patience : Patience} (hfree : s.semaphore.held < s.semaphore.limit)
    (hscope : ∀ scope, patience = .under scope → (s.scopes scope).cancelled = false) :
    s.request patience = .granted { s.semaphore with held := s.semaphore.held + 1 } := by
  cases patience with
  | endless => exact acquire_of_free hfree
  | before deadline =>
    rw [request, acquire_of_free hfree, acquireAtDeadline_of_free hfree, ite_self]
  | under scope =>
    rw [request, acquireUnder, hscope scope rfl]
    exact acquire_of_free hfree

theorem request_of_cancelled {scope : Nat} (h : (s.scopes scope).cancelled = true) :
    s.request (.under scope) = .refused .cancelled := by
  rw [request, acquireUnder, if_pos h]

/-- A call that finds no permit waits, unless its deadline has come. -/
theorem request_of_full {patience : Patience} (hfull : ¬ s.semaphore.held < s.semaphore.limit)
    (hscope : ∀ scope, patience = .under scope → (s.scopes scope).cancelled = false) :
    s.request patience = .refused .timeout ∨ s.request patience = .waits := by
  cases patience with
  | endless => exact .inr (acquire_of_full hfull)
  | before deadline =>
    rw [request]
    split
    · exact .inl (acquireAtDeadline_of_full hfull)
    · exact .inr (acquire_of_full hfull)
  | under scope =>
    rw [request, acquireUnder, hscope scope rfl]
    exact .inr (acquire_of_full hfull)

/-- A request is granted by a permit that is free, and refused for its deadline or its scope. -/
theorem request_cases (s : Shared) (patience : Patience) :
    (s.semaphore.held < s.semaphore.limit ∧
      s.request patience = .granted { s.semaphore with held := s.semaphore.held + 1 }) ∨
    s.request patience = .refused .timeout ∨ s.request patience = .refused .cancelled ∨
    s.request patience = .waits := by
  by_cases hscope : ∀ scope, patience = .under scope → (s.scopes scope).cancelled = false
  · by_cases hfree : s.semaphore.held < s.semaphore.limit
    · exact .inl ⟨hfree, request_of_free hfree hscope⟩
    · rcases request_of_full hfree hscope with hexpired | hwaits
      · exact .inr (.inl hexpired)
      · exact .inr (.inr (.inr hwaits))
  · rcases not_forall.1 hscope with ⟨scope, hunder⟩
    rcases Classical.not_imp.1 hunder with ⟨rfl, hcancelled⟩
    exact .inr (.inr (.inl (request_of_cancelled (eq_true_of_ne_false hcancelled))))

/-- Waiting ends without a permit for the deadline or the scope. -/
theorem eq_of_excuse? {patience : Patience} {error : FlowError}
    (h : s.excuse? patience = some error) : error = .timeout ∨ error = .cancelled := by
  cases patience with
  | endless => cases h
  | before deadline =>
    rw [excuse?] at h
    split at h <;> cases h
    exact .inl rfl
  | under scope =>
    rw [excuse?] at h
    split at h <;> cases h
    exact .inr rfl

/-- What a move comes to, one constructor for each way it can end. -/
inductive Comes (s : Shared) : Shared → Option Answer → Prop
  | granted : s.semaphore.held < s.semaphore.limit →
    Comes s { s with semaphore.held := s.semaphore.held + 1 } (some .granted)
  | woken (holder : Nat) : s.semaphore.held < s.semaphore.limit →
    Comes s ({ s with semaphore.held := s.semaphore.held + 1 }.setWaiting holder none)
      (some .granted)
  | denied : ¬ s.semaphore.held < s.semaphore.limit → Comes s s (some .denied)
  | refused {error : FlowError} (holder : Nat) : error = .timeout ∨ error = .cancelled →
    Comes s (s.setWaiting holder none) (some (.refused error))
  | waits (holder : Nat) (patience : Patience) :
    Comes s (s.setWaiting holder (some patience)) none
  | returned : s.semaphore.held ≠ 0 →
    Comes s { s with semaphore.held := s.semaphore.held - 1 } (some .returned)
  | crashed : s.semaphore.held = 0 → Comes s s (some (.crashed releaseFault))
  | cancels (scopes : Nat → Scope) : Comes s { s with scopes } none
  | passes (now : Nat) : Comes s { s with now } none

/-- A holder that does not wait is left as it is. -/
theorem setWaiting_of_idle {holder : Nat} (h : s.waiting holder = none) :
    s.setWaiting holder none = s := by
  rw [setWaiting, ← h, Function.update_eq_self]

theorem comes_of_acquire {holder : Nat} {patience : Patience}
    (h : s.step? (.acquire holder patience) = some (t, answer?)) : Comes s t answer? := by
  rw [step?] at h
  split at h
  case h_1 => cases h
  case h_2 hidle =>
    have hrefused : ∀ {error : FlowError}, error = .timeout ∨ error = .cancelled →
        Comes s s (some (.refused error)) := by
      intro error herror
      simpa only [setWaiting_of_idle hidle] using Comes.refused (s := s) holder herror
    rcases request_cases s patience with ⟨hfree, hrequest⟩ | hrequest | hrequest | hrequest <;>
      rw [hrequest] at h <;> cases h
    · exact .granted hfree
    · exact hrefused (.inl rfl)
    · exact hrefused (.inr rfl)
    · exact .waits holder patience

theorem comes_of_tryAcquire {holder : Nat}
    (h : s.step? (.tryAcquire holder) = some (t, answer?)) : Comes s t answer? := by
  rw [step?] at h
  split at h
  case h_1 => cases h
  case h_2 =>
    split at h <;> cases h
    case h_1 htry =>
      rcases tryAcquire?_eq_some_iff.1 htry with ⟨hfree, rfl⟩
      exact .granted hfree
    case h_2 htry => exact .denied (tryAcquire?_eq_none_iff.1 htry)

theorem comes_of_release {holder : Nat}
    (h : s.step? (.release holder) = some (t, answer?)) : Comes s t answer? := by
  rw [step?] at h
  split at h
  case h_1 => cases h
  case h_2 =>
    split at h <;> cases h
    case h_1 hrelease =>
      rcases release?_eq_some_iff.1 hrelease with ⟨hout, rfl⟩
      exact .returned hout
    case h_2 hrelease => exact .crashed (release?_eq_none_iff.1 hrelease)

theorem comes_of_goOn {holder : Nat} (h : s.step? (.goOn holder) = some (t, answer?)) :
    Comes s t answer? := by
  rw [step?] at h
  split at h
  case h_1 => cases h
  case h_2 =>
    split at h <;> cases h
    case h_1 htry =>
      rcases tryAcquire?_eq_some_iff.1 htry with ⟨hfree, rfl⟩
      exact .woken holder hfree

theorem comes_of_quit {holder : Nat} (h : s.step? (.quit holder) = some (t, answer?)) :
    Comes s t answer? := by
  rw [step?] at h
  split at h
  case h_1 => cases h
  case h_2 patience _ =>
    rcases Option.map_eq_some_iff.1 h with ⟨error, hexcuse, heq⟩
    cases heq
    exact .refused holder (eq_of_excuse? hexcuse)

theorem comes_of_step? (h : s.step? m = some (t, answer?)) : Comes s t answer? := by
  cases m with
  | acquire holder patience => exact comes_of_acquire h
  | tryAcquire holder => exact comes_of_tryAcquire h
  | release holder => exact comes_of_release h
  | goOn holder => exact comes_of_goOn h
  | quit holder => exact comes_of_quit h
  | cancel scope =>
    cases h
    exact .cancels _
  | pass time =>
    cases h
    exact .passes _

/-- Every move keeps the books. -/
theorem books_of_step? (h : s.step? m = some (t, answer?)) :
    Books s.semaphore answer? t.semaphore := by
  cases comes_of_step? h with
  | granted hfree => exact .takes hfree
  | woken holder hfree => exact .takes hfree
  | denied hfull => exact .denies hfull
  | refused holder herror =>
    rcases herror with rfl | rfl
    · exact .expires
    · exact .abandons
  | returned hout => exact .returns hout
  | crashed hnone => exact .crashes hnone
  | waits | cancels | passes => exact .silent

/-- A permit is granted where one is free, and then one fewer is free. -/
theorem free_of_granted (h : s.step? m = some (t, some .granted)) :
    0 < s.semaphore.available ∧ t.semaphore.available + 1 = s.semaphore.available := by
  have hbooks := books_of_step? h
  generalize t.semaphore = after at hbooks ⊢
  cases hbooks with
  | takes hfree =>
    refine ⟨available_pos_iff.2 hfree, ?_⟩
    simp only [available]
    omega

/-- A call that ends with an error leaves all as it is, but that its holder waits no more. -/
theorem eq_of_refused {error : FlowError} (h : s.step? m = some (t, some (.refused error))) :
    ∃ holder, t = s.setWaiting holder none := by
  generalize hanswer : some (Answer.refused error) = answer? at h
  cases comes_of_step? h with
  | refused holder _ => exact ⟨holder, rfl⟩
  | _ => cases hanswer

/-! ## All moves -/

end Shared

/-- The permits that are out are those that were granted and not returned. -/
structure Balanced (limit : Nat) (answers : List Answer) (s : Semaphore) : Prop where
  limit : s.limit = max limit 1
  within : s.held ≤ s.limit
  held : s.held + answers.count .returned = answers.count .granted

/-- An answer that the books tell of keeps the balance. -/
theorem Books.balanced {s t : Semaphore} {limit : Nat} {answers : List Answer}
    {answer? : Option Answer} (hbooks : Books s answer? t) (h : Balanced limit answers s) :
    Balanced limit (answers ++ answer?.toList) t := by
  rcases h with ⟨hlimit, hwithin, hheld⟩
  cases hbooks with
  | takes hfree =>
    have hreturned : [Answer.granted].count Answer.returned = 0 := rfl
    have hgranted : [Answer.granted].count Answer.granted = 1 := rfl
    refine ⟨hlimit, hfree, ?_⟩
    rw [Option.toList_some, List.count_append, List.count_append, hreturned, hgranted, ← hheld]
    exact Nat.add_right_comm ..
  | returns hout =>
    have hreturned : [Answer.returned].count Answer.returned = 1 := rfl
    have hgranted : [Answer.returned].count Answer.granted = 0 := rfl
    refine ⟨hlimit, Nat.le_trans (Nat.sub_le ..) hwithin, ?_⟩
    rw [Option.toList_some, List.count_append, List.count_append, hreturned, hgranted, ← hheld]
    calc s.held - 1 + (answers.count Answer.returned + 1)
      _ = s.held - 1 + 1 + answers.count Answer.returned := by omega
      _ = s.held + answers.count Answer.returned := by rw [Nat.sub_add_cancel (by omega)]
  | _ => exact ⟨hlimit, hwithin, by simpa [List.count_append] using hheld⟩

namespace Shared

variable {s : Shared} {answers : List Answer}

/-- The balance is kept whoever calls, waits and gives up, in whatever order. -/
theorem balanced_of_run? {limit : Nat} {before : List Answer} {moves : List Move} {t : Shared}
    (h : s.run? moves = some (t, answers)) (hbalanced : Balanced limit before s.semaphore) :
    Balanced limit (before ++ answers) t.semaphore := by
  induction moves generalizing s before answers with
  | nil =>
    cases h
    rwa [List.append_nil]
  | cons m moves ih =>
    rw [run?] at h
    split at h
    case h_1 => cases h
    case h_2 u answer? hstep =>
      rcases Option.map_eq_some_iff.1 h with ⟨⟨_, after⟩, hrest, heq⟩
      cases heq
      rw [← List.append_assoc]
      exact ih hrest ((books_of_step? hstep).balanced hbalanced)

/-- A call that waits goes on where a permit is free. -/
theorem isSome_goOn_iff {holder : Nat} {patience : Patience}
    (hwaiting : s.waiting holder = some patience) :
    (s.step? (.goOn holder)).isSome ↔ 0 < s.semaphore.available := by
  rw [available_pos_iff]
  by_cases hfree : s.semaphore.held < s.semaphore.limit
  · simp [step?, hwaiting, tryAcquire?_of_lt hfree, hfree]
  · simp [step?, hwaiting, tryAcquire?_eq_none_iff.2 hfree, hfree]

/-- Any number of holders share a semaphore, where a limit of zero counts as one.  After any calls,
waits and failures of any of them:

* the permits that are free and those granted and not returned add up to the limit, so what is out
  is never more than the limit;
* a call is granted a permit only where one is free, and then one fewer is free;
* a call that waits goes on exactly when a permit is free;
* a call that fails for its deadline or its scope leaves everything as it is;
* a call that only tries is granted a permit when one is free, and denied one when none is;
* a call that finds a permit takes it, but under a cancelled scope it fails, free permits or not;
* a release fails exactly when no permit is out, and changes nothing then. -/
theorem permits_accounted (limit : Nat) (scopes : Nat → Scope) (now : Nat) (moves : List Move)
    (h : (ofLimit limit scopes now).run? moves = some (s, answers)) :
    (s.semaphore.held ≤ s.semaphore.limit ∧
      answers.count .returned ≤ answers.count .granted ∧
      s.semaphore.available + outstanding answers = max limit 1) ∧
    (∀ m t, s.step? m = some (t, some .granted) →
      0 < s.semaphore.available ∧ t.semaphore.available + 1 = s.semaphore.available) ∧
    (∀ holder patience, s.waiting holder = some patience →
      ((s.step? (.goOn holder)).isSome ↔ 0 < s.semaphore.available)) ∧
    (∀ m t error, s.step? m = some (t, some (.refused error)) →
      ∃ holder, t = s.setWaiting holder none) ∧
    ∀ holder, s.waiting holder = none →
      s.step? (.tryAcquire holder) =
        (if 0 < s.semaphore.available then
          some ({ s with semaphore.held := s.semaphore.held + 1 }, some .granted)
        else some (s, some .denied)) ∧
      (∀ patience, 0 < s.semaphore.available →
        (∀ scope, patience = .under scope → (s.scopes scope).cancelled = false) →
        s.step? (.acquire holder patience) =
          some ({ s with semaphore.held := s.semaphore.held + 1 }, some .granted)) ∧
      (∀ scope, (s.scopes scope).cancelled = true →
        s.step? (.acquire holder (.under scope)) = some (s, some (.refused .cancelled))) ∧
      s.step? (.release holder) =
        if outstanding answers = 0 then some (s, some (.crashed releaseFault))
        else some ({ s with semaphore.held := s.semaphore.held - 1 }, some .returned) := by
  have hbalanced : Balanced limit ([] ++ answers) s.semaphore :=
    balanced_of_run? h ⟨rfl, Nat.zero_le _, rfl⟩
  rcases hbalanced with ⟨hlimit, hwithin, hheld⟩
  rw [List.nil_append] at hheld
  have hout : outstanding answers = s.semaphore.held := by
    rw [outstanding, ← hheld, Nat.add_sub_cancel]
  refine ⟨⟨hwithin, ?_, ?_⟩, fun _ _ => free_of_granted, fun _ _ => isSome_goOn_iff,
    fun _ _ _ => eq_of_refused, fun holder hidle => ⟨?_, ?_, ?_, ?_⟩⟩
  · rw [← hheld]
    exact Nat.le_add_left ..
  · rw [hout, available, ← hlimit]
    exact Nat.sub_add_cancel hwithin
  · simp only [available_pos_iff]
    split
    case isTrue hfree => simp [step?, hidle, tryAcquire?_of_lt hfree]
    case isFalse hfull => simp [step?, hidle, tryAcquire?_eq_none_iff.2 hfull]
  · intro patience hfree hscope
    simp [step?, hidle, request_of_free (available_pos_iff.1 hfree) hscope]
  · intro scope hcancelled
    simp [step?, hidle, request, acquireUnder, hcancelled]
  · rw [hout]
    split
    case isTrue hnone => simp [step?, hidle, release?_eq_none_iff.2 hnone]
    case isFalse hsome => simp [step?, hidle, release?_of_ne hsome]

/-- Four holders share two permits: one waits until its deadline has come and one until its scope
is cancelled, and a permit that is returned is granted once more. -/
def fourHolders : List Move :=
  [.acquire 0 .endless, .acquire 1 (.under 7), .tryAcquire 2, .acquire 2 (.before 6),
    .acquire 3 (.under 7), .pass 1, .quit 2, .cancel 7, .quit 3, .release 0,
    .acquire 2 (.before 6), .release 3]

theorem permits_accounted_four : ∃ s,
    (ofLimit 2 (fun _ => .ongoing) 5).run? fourHolders =
      some (s, [.granted, .granted, .denied, .refused .timeout, .refused .cancelled, .returned,
        .granted, .returned]) ∧
    s.semaphore.available + 1 = 2 ∧
    s.step? (.acquire 3 (.under 7)) = some (s, some (.refused .cancelled)) ∧
    (s.step? (.tryAcquire 3)).map (·.2) = some (some .granted) := by
  have hrun : ∃ s, (ofLimit 2 (fun _ => .ongoing) 5).run? fourHolders =
      some (s, [.granted, .granted, .denied, .refused .timeout, .refused .cancelled, .returned,
        .granted, .returned]) ∧ s.waiting 3 = none ∧ (s.scopes 7).cancelled = true :=
    ⟨_, rfl, rfl, rfl⟩
  rcases hrun with ⟨s, hrun, hidle, hcancelled⟩
  rcases permits_accounted 2 _ 5 fourHolders hrun with ⟨⟨_, _, hsum⟩, _, _, _, hcalls⟩
  rcases hcalls 3 hidle with ⟨htry, _, hunder, _⟩
  have hfree : s.semaphore.available + 1 = 2 := hsum
  refine ⟨s, hrun, hfree, hunder 7 hcancelled, ?_⟩
  rw [htry, if_pos (by omega)]
  rfl

end Shared
end Semaphore
end RecordFlow
