import RecordFlow.Number.Binary64

/-!
# Json — values of the JSON data format

An object keeps its members in the order in which they were added.  `Json.insert` gives every key
one place: a key that is already there keeps its place and takes the new value.
-/

namespace RecordFlow

/-- A JSON value; numbers are natural or binary. -/
inductive Json where
  | null
  | bool (value : Bool)
  | natural (value : Nat)
  | number (value : Binary64)
  | string (value : String)
  | array (items : List Json)
  | object (members : List (String × Json))
deriving Inhabited

namespace Json

/-- Adds a member to a list of members, or replaces the value of its key in place. -/
def insert (members : List (String × Json)) (key : String) (value : Json) :
    List (String × Json) :=
  match members with
  | [] => [(key, value)]
  | (k, v) :: rest => if k = key then (key, value) :: rest else (k, v) :: insert rest key value

/-- The object with the given members, added from left to right. -/
def ofMembers (members : List (String × Json)) : Json :=
  .object (members.foldl (fun acc m => insert acc m.1 m.2) [])

/-! ## Laws -/

/-- A new key goes to the end. -/
theorem insert_of_notMem {members : List (String × Json)} {key : String} (value : Json)
    (h : key ∉ members.map (·.1)) : insert members key value = members ++ [(key, value)] := by
  induction members with
  | nil => rfl
  | cons member rest ih =>
    simp only [List.map_cons, List.mem_cons, not_or] at h
    have : member.1 ≠ key := fun e => h.1 e.symm
    simp [insert, this, ih h.2]

end Json
end RecordFlow
