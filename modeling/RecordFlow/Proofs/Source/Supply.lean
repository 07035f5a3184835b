import Mathlib.Algebra.Order.BigOperators.Group.Multiset
import Mathlib.Algebra.Order.Group.Multiset
import RecordFlow.Proofs.Places
import RecordFlow.Proofs.Source.Rows

/-!
# Supply — the rows that sources can still give

A task has some records in supply: those of the rows that it has not emitted yet.  Whatever disturbs
it, the supply only dwindles, and what the task emits it takes from there
(`Reading.supply_of_advance?`).  So the records that sources emit are rows of their files, and no
row is emitted twice, also when the scope is cancelled or the receivers leave.
-/

namespace RecordFlow
namespace Source

/-- The records of the rows of a source, well-formed or not. -/
def rowsOf : Except FlowError Opened → List Record
  | .error _ => []
  | .ok o => o.rows.map o.record

/-- The records that a task can still emit, if nothing comes between. -/
def Task.supply (options : Options) : Task → List Record
  | .opening (.error _) => []
  | .opening (.ok o) | .comparing o => (o.body options).filterMap Emission.record?
  | .reading rest => rest.filterMap Emission.record?
  | .offering e rest | .sending e rest => (e :: rest).filterMap Emission.record?
  | .closing _ | .finished => []

/-- A source starts with its well-formed rows, or fewer, in supply. -/
theorem supply_opening_sublist (options : Options) (source : Except FlowError Opened) :
    ((Task.opening source).supply options).Sublist (rowsOf source) := by
  cases source with
  | error error => exact List.Sublist.refl _
  | ok o =>
    have hrows := (o.bodyFrom_rows options o.rows (if o.header.isSome then 1 else 0)).1
    have hconsidered : (considered options (o.rows.map o.record)).Sublist
        (o.rows.map o.record) := by
      unfold considered
      split
      · exact List.takeWhile_sublist _
      · exact List.Sublist.refl _
    rw [Task.supply, Opened.body, hrows]
    exact List.filter_sublist.trans hconsidered

/-- What a move emits is taken from the supply. -/
theorem Task.Moves.supply {options : Options} {cancelled : Bool} {known : Agreement}
    {offer : Emission → Offer} {t t' : Task} {slot : Option Slot} {e : Option Emission}
    (hmove : t.Moves options cancelled known offer t' slot e) :
    ((e.bind Emission.record?).toList ++ t'.supply options).Sublist (t.supply options) := by
  cases hmove with
  | openFails | openShares | openAlone | agrees | ends => exact List.Sublist.refl _
  | differs => exact List.nil_sublist _
  | looks rest =>
    -- a task that goes on keeps its supply, and one that closes gives it up
    cases rest with
    | nil => exact List.Sublist.refl _
    | cons e rest =>
      cases cancelled with
      | true => exact List.nil_sublist _
      | false =>
        cases e with
        | failure error => exact List.nil_sublist _
        | record | rejected => exact List.Sublist.refl _
  | offers e rest =>
    cases cancelled with
    | true => cases e <;> exact List.nil_sublist _
    | false => exact List.Sublist.refl _
  | @delivers e rest _ =>
    cases e with
    | failure error => exact List.nil_sublist _
    | record | rejected => exact List.Sublist.refl _
  | @loses e | @quits e => cases e <;> exact List.nil_sublist _
  | reports => exact List.Sublist.refl _

namespace Reading

/-- The records that all tasks can still emit. -/
def supply (r : Reading) : Multiset Record :=
  (r.tasks.map fun t => (t.supply r.options : Multiset Record)).sum

theorem supply_place {r : Reading} {cancelled : Bool} {known : Agreement}
    {offer : Emission → Offer} {i : Nat} {t t' : Task} {slot : Option Slot} {e : Option Emission}
    (ht : r.tasks[i]? = some t) (hmove : t.Moves r.options cancelled known offer t' slot e) :
    ((e.bind Emission.record?).toList : Multiset Record) + (r.place i t' slot).supply ≤
      r.supply := by
  have hsum := sum_map_set (fun t : Task => (t.supply r.options : Multiset Record)) t' ht
  have htaken : ((e.bind Emission.record?).toList : Multiset Record) +
      (t'.supply r.options : Multiset Record) ≤ (t.supply r.options : Multiset Record) :=
    Multiset.coe_le.2 hmove.supply.subperm
  have hplaced : (r.place i t' slot).supply =
      ((r.tasks.set i t').map fun t => (t.supply r.options : Multiset Record)).sum := rfl
  -- the supply of the task that moved is counted on both sides
  refine le_of_add_le_add_right (a := (t.supply r.options : Multiset Record)) ?_
  calc ((e.bind Emission.record?).toList : Multiset Record) + (r.place i t' slot).supply +
        (t.supply r.options : Multiset Record)
      = r.supply + (((e.bind Emission.record?).toList : Multiset Record) +
          (t'.supply r.options : Multiset Record)) := by
        rw [hplaced, add_assoc, hsum, supply, add_left_comm]
    _ ≤ r.supply + (t.supply r.options : Multiset Record) := add_le_add le_rfl htaken

theorem supply_of_advance? {r r' : Reading} {scope : Scope} {offer : Emission → Offer} {i : Nat}
    {e : Option Emission} (h : r.advance? scope offer i = some (r', e)) :
    ((e.bind Emission.record?).toList : Multiset Record) + r'.supply ≤ r.supply := by
  rcases advance?_cases h with ⟨t, t', slot, ht, hmove, rfl⟩
  exact supply_place ht hmove

theorem supply_of_quit? {r r' : Reading} {scope : Scope} {i : Nat}
    (h : r.quit? scope i = some r') : r'.supply ≤ r.supply := by
  rcases quit?_cases (fun _ => .full) h with ⟨t, t', slot, ht, hmove, rfl⟩
  simpa using supply_place ht hmove

/-- Sources that have not been opened have no more than their rows in supply. -/
theorem supply_ofSources_le (options : Options) (sources : List (Except FlowError Opened)) :
    (ofSources options sources).supply ≤ (sources.flatMap rowsOf : Multiset Record) := by
  induction sources with
  | nil => exact le_rfl
  | cons source rest ih =>
    have hcons : (ofSources options (source :: rest)).supply =
        ((Task.opening source).supply options : Multiset Record) +
          (ofSources options rest).supply := rfl
    rw [hcons, List.flatMap_cons, ← Multiset.coe_add]
    exact add_le_add (Multiset.coe_le.2 (supply_opening_sublist options source).subperm) ih

end Reading
end Source
end RecordFlow
