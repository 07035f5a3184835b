import RecordFlow.Proofs.Json.Numeral

/-!
# Document — reading indented text

`Json.document?` is the value that a text says when its numbers may be any numbers of JSON.  What
`pretty` prints says the printed value, with white space behind it or without
(`Json.document?_pretty`); a number in it says what its own text says.

The reader of values is `Json.readValue` with another reader of numbers
(`Json.readValueWith_natural`), so that the two take everything else alike.
-/

namespace RecordFlow
namespace Json

/-! ## Reading with numbers of a kind -/

/-- Reads a value that is nested to a depth below the given one. -/
def readValueWith (number : Reader Json) : Nat → Reader Json
  | 0, _ => none
  | depth + 1, text =>
    match skipSpace text with
    | [] => none
    | c :: rest =>
      if c = '"' then (readString .plain none rest).map fun (cs, rest) =>
        (.string (String.ofList cs), rest)
      else if c = '[' then
        (readSequence (readValueWith number depth) ']' rest).map fun (items, rest) =>
          (.array items, rest)
      else if c = '\x7b' then
        (readSequence (readMember (readValueWith number depth)) '\x7d' rest).map
          fun (members, rest) => (.object members, rest)
      else if c = 'n' then (readWord "ull".toList rest).map fun (_, rest) => (.null, rest)
      else if c = 't' then (readWord "rue".toList rest).map fun (_, rest) => (.bool true, rest)
      else if c = 'f' then (readWord "alse".toList rest).map fun (_, rest) => (.bool false, rest)
      else number (c :: rest)

/-- The value that a text says; no text nests deeper than it is long. -/
def document? (text : String) : Option Json :=
  match readValueWith readNumber text.length text.toList with
  | none => none
  | some (json, rest) => if skipSpace rest = [] then some json else none

/-- The values that an object has for a key, none for another value. -/
def values (key : String) : Json → List Json
  | .object members => (members.filter fun member => member.1 = key).map Prod.snd
  | _ => []

/-! ## What a value says in a text -/

mutual

/-- A value with what the texts of its numbers say in place of them. -/
def told : Json → Json
  | .number x => numberTold x
  | .array items => .array (toldItems items)
  | .object members => .object (toldMembers members)
  | .null => .null
  | .bool b => .bool b
  | .natural n => .natural n
  | .string s => .string s
termination_by structural json => json

def toldItems : List Json → List Json
  | [] => []
  | item :: rest => told item :: toldItems rest
termination_by structural items => items

def toldMembers : List (String × Json) → List (String × Json)
  | [] => []
  | member :: rest => toldMember member :: toldMembers rest
termination_by structural members => members

def toldMember : String × Json → String × Json
  | (key, value) => (key, told value)
termination_by structural member => member

end

theorem toldItems_eq (items : List Json) : toldItems items = items.map told := by
  induction items with
  | nil => rfl
  | cons item rest ih => rw [toldItems, ih, List.map_cons]

theorem toldMembers_eq (members : List (String × Json)) :
    toldMembers members = members.map toldMember := by
  induction members with
  | nil => rfl
  | cons member rest ih => rw [toldMembers, ih, List.map_cons]

mutual

/-- A value without binary numbers says itself. -/
theorem told_of_isWhole : ∀ json : Json, json.isWhole = true → json.told = json
  | .number _, h => by cases h
  | .array items, h => by rw [told, toldItems_of_wholeItems items h]
  | .object members, h => by rw [told, toldMembers_of_wholeMembers members h]
  | .null, _ => rfl
  | .bool _, _ => rfl
  | .natural _, _ => rfl
  | .string _, _ => rfl
termination_by structural json => json

theorem toldItems_of_wholeItems :
    ∀ items : List Json, wholeItems items = true → toldItems items = items
  | [], _ => rfl
  | item :: rest, h => by
    simp only [wholeItems, Bool.and_eq_true] at h
    rw [toldItems, told_of_isWhole item h.1, toldItems_of_wholeItems rest h.2]
termination_by structural items => items

theorem toldMembers_of_wholeMembers :
    ∀ members : List (String × Json), wholeMembers members = true → toldMembers members = members
  | [], _ => rfl
  | member :: rest, h => by
    simp only [wholeMembers, Bool.and_eq_true] at h
    rw [toldMembers, toldMember_of_wholeMember member h.1, toldMembers_of_wholeMembers rest h.2]
termination_by structural members => members

theorem toldMember_of_wholeMember :
    ∀ member : String × Json, wholeMember member = true → toldMember member = member
  | (key, value), h => by rw [toldMember, told_of_isWhole value h]
termination_by structural member => member

end

/-! ## Items and members -/

theorem prettyItems_eq (level : Nat) (items : List Json) :
    prettyItems level items =
      commas (items.map fun item => lineBreak level ++ prettyChars level item) := by
  induction items with
  | nil => rfl
  | cons item rest ih =>
    cases rest with
    | nil => rfl
    | cons next rest =>
      rw [prettyItems, ih]
      · rfl
      · simp

theorem prettyMembers_eq (level : Nat) (members : List (String × Json)) :
    prettyMembers level members =
      commas (members.map fun member => lineBreak level ++ prettyMember level member) := by
  induction members with
  | nil => rfl
  | cons member rest ih =>
    cases rest with
    | nil => rfl
    | cons next rest =>
      rw [prettyMembers, ih]
      · rfl
      · simp

theorem isSpace_of_mem_lineBreak {level : Nat} {c : Char} (h : c ∈ lineBreak level) :
    isSpace c = true := by
  rcases List.mem_cons.1 h with rfl | h
  · decide
  · rw [List.eq_of_mem_replicate h]
    decide

section Readers

variable {level : Nat}

/-- The reader of values passes over white space. -/
theorem readValueWith_space (number : Reader Json) {space : List Char}
    (hspace : ∀ c ∈ space, isSpace c = true) (depth : Nat) (text : List Char) :
    readValueWith number depth (space ++ text) = readValueWith number depth text := by
  cases depth with
  | zero => rfl
  | succ depth => simp only [readValueWith, skipSpace_append hspace]

/-- A number is read where no other value begins. -/
theorem readValueWith_number (number : Reader Json) {c : Char} (h : c.isDigit = true ∨ c = '-')
    (depth : Nat) (cs : List Char) :
    readValueWith number (depth + 1) (c :: cs) = number (c :: cs) := by
  have hother : ∀ d : Char, d.isDigit = false → d ≠ '-' → c ≠ d := by
    rintro d hdigit hsign rfl
    rcases h with h | h
    · rw [hdigit] at h
      cases h
    · exact hsign h
  have hspace : isSpace c = false := by
    rcases h with h | rfl
    · exact isSpace_of_isDigit h
    · decide
  rw [readValueWith, skipSpace_cons hspace]
  simp only [hother '"' (by decide) (by decide), hother '[' (by decide) (by decide),
    hother '\x7b' (by decide) (by decide), hother 'n' (by decide) (by decide),
    hother 't' (by decide) (by decide), hother 'f' (by decide) (by decide), if_false]

/-- A reader of values that knows the value of a member reads the member. -/
theorem readMember_prettyMember {value : Reader Json} {member : String × Json}
    (hvalue : ∀ rest, Ends rest →
      value (' ' :: (prettyChars level member.2 ++ rest)) = some (member.2.told, rest))
    (rest : List Char) (hends : Ends rest) :
    readMember value (lineBreak level ++ prettyMember level member ++ rest) =
      some (toldMember member, rest) := by
  rcases member with ⟨key, json⟩
  have hkey := readQuoted_quote key (':' :: ' ' :: (prettyChars level json ++ rest))
  have hjson := hvalue rest hends
  -- the line break stands before the key
  have hskip : ∀ text, readQuoted (lineBreak level ++ text) = readQuoted text := by
    intro text
    simp only [readQuoted, skipSpace_append fun _ hc => isSpace_of_mem_lineBreak hc]
  rw [List.append_assoc]
  simp [readMember, prettyMember, hskip, hkey, skipSpace_cons, isSpace, hjson, toldMember]

/-- Items that stand on lines of their own are read, and so is what closes them on another one. -/
theorem readSequence_lines (level : Nat) {α β : Type} {item : Reader β}
    {written : α → List Char} {meant : α → β} {close : Char} (hclose : Closes close) {as : List α}
    (hitem : ∀ a ∈ as, ∀ rest, Ends rest →
      item (lineBreak (level + 1) ++ written a ++ rest) = some (meant a, rest))
    (hopens : ∀ a ∈ as, ∃ c cs, written a = c :: cs ∧ isSpace c = false ∧ c ≠ close)
    (rest : List Char) :
    readSequence item close (commas (as.map fun a => lineBreak (level + 1) ++ written a) ++
        (lineBreak level ++ close :: rest)) = some (as.map meant, rest) := by
  refine readSequence_commas hclose (fun _ hc => isSpace_of_mem_lineBreak hc) hitem ?_ rest
  intro a ha
  rcases hopens a ha with ⟨c, cs, htext, hspace, hne⟩
  refine ⟨c, cs, ?_, hne⟩
  rw [skipSpace_append fun _ hc => isSpace_of_mem_lineBreak hc, htext, skipSpace_cons hspace]

end Readers

/-! ## Values -/

/-- What a value begins with is no space and closes nothing. -/
theorem prettyChars_opens (level : Nat) (json : Json) :
    ∃ c cs, prettyChars level json = c :: cs ∧ isSpace c = false ∧ c ≠ ']' := by
  cases json with
  | null => exact ⟨'n', _, rfl, by decide, by decide⟩
  | bool b => cases b <;> exact ⟨_, _, rfl, by decide, by decide⟩
  | natural n =>
    rcases toDigits_eq_cons n with ⟨c, cs, htext, hdigit⟩
    exact ⟨c, cs, htext, isSpace_of_isDigit hdigit, by rintro rfl; cases hdigit⟩
  | number x =>
    cases x with
    | nan s => exact ⟨'n', _, rfl, by decide, by decide⟩
    | infinite s => exact ⟨'n', _, rfl, by decide, by decide⟩
    | finite s m q =>
      rcases exists_numeral_numberText s m q with ⟨n, hn⟩
      cases s with
      | true => exact ⟨'-', n.text, hn, by decide, by decide⟩
      | false =>
        rcases n.text_eq_cons with ⟨c, cs, htext, hdigit⟩
        exact ⟨c, cs, hn.trans htext, isSpace_of_isDigit hdigit, by rintro rfl; cases hdigit⟩
  | string s => exact ⟨'"', _, rfl, by decide, by decide⟩
  | array items => cases items <;> exact ⟨'[', _, rfl, by decide, by decide⟩
  | object members => cases members <;> exact ⟨'\x7b', _, rfl, by decide, by decide⟩

/-- The text of a number says what it says by itself, wherever it stands. -/
theorem readValueWith_numberText (depth : Nat) (x : Binary64) {rest : List Char}
    (hends : Ends rest) :
    readValueWith readNumber (depth + 1) (numberText x ++ rest) = some (numberTold x, rest) := by
  cases x with
  | nan s => simp [numberText, readValueWith, skipSpace_cons, isSpace, readWord]; rfl
  | infinite s => simp [numberText, readValueWith, skipSpace_cons, isSpace, readWord]; rfl
  | finite s m q =>
    have hread := readNumber_numberText s m q hends
    rcases exists_numeral_numberText s m q with ⟨n, hn⟩
    have hopens : ∃ c cs, numberText (.finite s m q) = c :: cs ∧ (c.isDigit = true ∨ c = '-') := by
      cases s with
      | true => exact ⟨'-', n.text, hn, .inr rfl⟩
      | false =>
        rcases n.text_eq_cons with ⟨c, cs, htext, hdigit⟩
        exact ⟨c, cs, hn.trans htext, .inl hdigit⟩
    rcases hopens with ⟨c, cs, htext, hc⟩
    rw [htext, List.cons_append] at hread ⊢
    rw [readValueWith_number readNumber hc, hread]

/-- The indented text of a value says that value wherever it stands. -/
theorem readValueWith_prettyChars (depth level : Nat) (json : Json)
    (hdepth : (prettyChars level json).length ≤ depth) {rest : List Char} (hends : Ends rest) :
    readValueWith readNumber depth (prettyChars level json ++ rest) = some (json.told, rest) := by
  -- on the depth: the texts of items and members are shorter than that of their container
  induction depth generalizing level json rest with
  | zero =>
    rcases prettyChars_opens level json with ⟨c, cs, htext, _⟩
    simp [htext] at hdepth
  | succ depth ih =>
    cases json with
    | null => simp [prettyChars, leafText, readValueWith, skipSpace_cons, isSpace, readWord, told]
    | bool b =>
      cases b <;>
        simp [prettyChars, leafText, readValueWith, skipSpace_cons, isSpace, readWord, told]
    | natural n =>
      have hread := readNumber_toDigits n hends
      rcases toDigits_eq_cons n with ⟨c, cs, htext, hdigit⟩
      rw [htext, List.cons_append] at hread
      rw [prettyChars, leafText, htext, List.cons_append, readValueWith_number _ (.inl hdigit),
        hread, told]
    | number x => exact readValueWith_numberText depth x hends
    | string s =>
      have hread := readString_flatMap s.toList rest
      simp [prettyChars, leafText, quote, readValueWith, skipSpace_cons, isSpace, hread, told]
    | array items =>
      by_cases hnone : items = []
      · subst hnone
        simp [prettyChars, readValueWith, skipSpace_cons, isSpace, readSequence, told, toldItems]
      · have htext : prettyChars level (.array items) =
            '[' :: (prettyItems (level + 1) items ++ lineBreak level ++ [']']) := by
          rw [prettyChars]
          exact hnone
        have hitem : ∀ item ∈ items, ∀ rest, Ends rest →
            readValueWith readNumber depth
              (lineBreak (level + 1) ++ prettyChars (level + 1) item ++ rest) =
                some (item.told, rest) := by
          intro item hmem rest hends
          have hshort := length_le_commas (List.mem_map_of_mem
            (f := fun item => lineBreak (level + 1) ++ prettyChars (level + 1) item) hmem)
          rw [List.append_assoc, readValueWith_space _ fun _ hc => isSpace_of_mem_lineBreak hc]
          refine ih (level + 1) item ?_ hends
          simp only [htext, prettyItems_eq, List.length_cons, List.length_append] at hdepth hshort
          omega
        have hread := readSequence_lines level ⟨by decide, by decide, by decide⟩ hitem
          (fun item _ => prettyChars_opens (level + 1) item) rest
        rw [htext]
        simp [prettyItems_eq, readValueWith, skipSpace_cons, isSpace, hread, told, toldItems_eq]
    | object members =>
      by_cases hnone : members = []
      · subst hnone
        simp [prettyChars, readValueWith, skipSpace_cons, isSpace, readSequence, told,
          toldMembers]
      · have htext : prettyChars level (.object members) =
            '\x7b' :: (prettyMembers (level + 1) members ++ lineBreak level ++ ['\x7d']) := by
          rw [prettyChars]
          exact hnone
        have hmember : ∀ member ∈ members, ∀ rest, Ends rest →
            readMember (readValueWith readNumber depth)
              (lineBreak (level + 1) ++ prettyMember (level + 1) member ++ rest) =
                some (toldMember member, rest) := by
          rintro ⟨key, value⟩ hmem rest hends
          refine readMember_prettyMember (fun rest hends => ?_) rest hends
          have hshort := length_le_commas (List.mem_map_of_mem
            (f := fun member => lineBreak (level + 1) ++ prettyMember (level + 1) member) hmem)
          have hspace : ∀ c ∈ [' '], isSpace c = true := List.forall_mem_singleton.2 rfl
          have hskip := readValueWith_space readNumber hspace depth
            (prettyChars (level + 1) value ++ rest)
          refine hskip.trans (ih (level + 1) value ?_ hends)
          rw [htext, prettyMembers_eq] at hdepth
          simp only [prettyMember, List.length_cons, List.length_append] at hdepth hshort
          omega
        have hopens : ∀ member ∈ members, ∃ c cs,
            prettyMember (level + 1) member = c :: cs ∧ isSpace c = false ∧ c ≠ '\x7d' := by
          rintro ⟨key, value⟩ _
          exact ⟨'"', _, rfl, by decide, by decide⟩
        have hread := readSequence_lines level ⟨by decide, by decide, by decide⟩ hmember
          hopens rest
        rw [htext]
        simp [prettyMembers_eq, readValueWith, skipSpace_cons, isSpace, hread, told,
          toldMembers_eq]

/-- What is printed, with white space behind it, is read as what it says. -/
theorem document?_pretty (json : Json) {space : List Char}
    (hspace : ∀ c ∈ space, isSpace c = true) :
    document? (json.pretty ++ String.ofList space) = some json.told := by
  have hends : Ends space := by
    cases space with
    | nil => rfl
    | cons c space => exact ends_cons (continuesNumber_of_isSpace (hspace c List.mem_cons_self)) _
  have htext : (json.pretty ++ String.ofList space).toList = prettyChars 0 json ++ space := by
    rw [String.toList_append, pretty, String.toList_ofList, String.toList_ofList]
  have hlength : (prettyChars 0 json).length ≤ (json.pretty ++ String.ofList space).length := by
    rw [← String.length_toList, htext, List.length_append]
    exact Nat.le_add_right _ _
  have hrest : skipSpace space = [] := by
    have hskip := skipSpace_append hspace []
    rwa [List.append_nil] at hskip
  rw [document?, htext, readValueWith_prettyChars _ 0 json hlength hends]
  exact if_pos hrest

end Json
end RecordFlow
