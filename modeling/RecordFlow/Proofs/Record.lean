import Mathlib.Data.List.Induction
import Mathlib.Data.List.Nodup
import RecordFlow.Proofs.Header
import RecordFlow.Proofs.Json.RoundTrip
import RecordFlow.Proofs.Source.Rows

/-!
# Record — what the JSON form of a record tells

A header is checked by the keys of its names, which leave out case and outer blanks, and a record
uses the names as they are.  Names with different keys are different, so that no column of a record
with such a header is merged with another one (`Record.toJson_eq_told`), and each is found under its
name (`Record.fieldByName?_column`).
-/

namespace RecordFlow

/-! ## Headers -/

namespace Header

/-- A header that is accepted has a name, and no name twice. -/
theorem nodup_of_validate {names : List String} (hvalid : validate names = .ok ()) :
    names ≠ [] ∧ names.Nodup := by
  have hproper := (validate_eq_ok_iff names).1 hvalid
  refine ⟨hproper.nonempty, hproper.distinct.imp ?_⟩
  rintro name _ hkeys rfl
  exact hkeys rfl

end Header

/-! ## Objects -/

/-- Members with different keys are all kept, in their order. -/
theorem Json.ofMembers_of_nodup {members : List (String × Json)}
    (hnodup : (members.map (·.1)).Nodup) : ofMembers members = .object members := by
  have hkept : members.foldl (fun acc m => insert acc m.1 m.2) [] = members := by
    induction members using List.reverseRecOn with
    | nil => rfl
    | append_singleton members last ih =>
      rw [List.map_append, List.nodup_append] at hnodup
      have hnew : last.1 ∉ members.map (·.1) := fun hmem =>
        hnodup.2.2 _ hmem _ (List.mem_singleton.2 rfl) rfl
      rw [List.foldl_append, ih hnodup.1]
      exact insert_of_notMem last.2 hnew
  rw [ofMembers, hkept]

/-! ## Records -/

namespace Record

/-- The columns of a record as they are, or its fields when it has no header. -/
def told (r : Record) : Json :=
  match r.header with
  | some names => .object ((names.zip r.fields).map fun (name, field) => (name, .string field))
  | none => .array (r.fields.map .string)

theorem isWhole_told (r : Record) : r.told.isWhole = true := by
  unfold told
  cases r.header with
  | none =>
    refine (Json.wholeItems_iff _).2 fun item hitem => ?_
    rcases List.mem_map.1 hitem with ⟨field, _, rfl⟩
    rfl
  | some names =>
    refine (Json.wholeMembers_iff _).2 fun member hmember => ?_
    rcases List.mem_map.1 hmember with ⟨column, _, rfl⟩
    rfl

/-- A record is whole if it has no header, or one that is accepted. -/
def Headed (r : Record) : Prop := ∀ names, r.header = some names → Header.validate names = .ok ()

variable {r : Record}

theorem length_fields (hheaded : r.Headed) (hvalid : r.isValid = true) {names : List String}
    (hnames : r.header = some names) : names.length = r.fields.length := by
  have hcolumns : r.columns = names := by rw [columns, hnames, Option.getD_some]
  have hsome := (Header.nodup_of_validate (hheaded names hnames)).1
  rw [isValid_eq_isComplete, isComplete, hcolumns] at hvalid
  simpa [hsome] using (Bool.and_eq_true_iff.1 hvalid).2

/-- The JSON form of a record merges no columns and drops none. -/
theorem toJson_eq_told (hheaded : r.Headed) (hvalid : r.isValid = true) : r.toJson = r.told := by
  unfold toJson told
  cases hnames : r.header with
  | none => simp [columns, hnames]
  | some names =>
    rcases Header.nodup_of_validate (hheaded names hnames) with ⟨hsome, hnodup⟩
    have hcolumns : r.columns = names := by rw [columns, hnames, Option.getD_some]
    have hkeys : (((names.zip r.fields).map fun (name, field) =>
        (name, Json.string field)).map (·.1)).Nodup := by
      have hfirst : ((names.zip r.fields).map fun (name, field) =>
          (name, Json.string field)).map (·.1) = (names.zip r.fields).map Prod.fst := by
        rw [List.map_map]
        rfl
      rw [hfirst, List.map_fst_zip (length_fields hheaded hvalid hnames).le]
      exact hnodup
    rw [hcolumns, if_neg (by simpa using hsome)]
    exact Json.ofMembers_of_nodup hkeys

theorem fieldByName?_column (hheaded : r.Headed) {names : List String}
    (hnames : r.header = some names) {i : Nat} (hi : i < names.length) :
    r.fieldByName? (names.get ⟨i, hi⟩) = r.fields[i]? := by
  have hnodup := (Header.nodup_of_validate (hheaded names hnames)).2
  have hcolumns : r.columns = names := by rw [columns, hnames, Option.getD_some]
  have hmem : names.get ⟨i, hi⟩ ∈ names := List.get_mem names ⟨i, hi⟩
  have hindex : names.idxOf (names.get ⟨i, hi⟩) = i := List.get_idxOf hnodup ⟨i, hi⟩
  rw [fieldByName?, hcolumns, if_pos hmem, hindex, field?]

end Record
end RecordFlow
