import RecordFlow.Proofs.Json.Reader

/-!
# Round trip — reading what was printed

The compact text of a value says that value (`Json.read?_render`), whatever characters its strings
have, and it is one line.  Numbers that are not natural are left aside.

Each reader takes what the printer has written off the front of a text and leaves the rest as it is.
A number is the only token whose end shows by what follows, so that the rest must not go on with a
digit (`Json.Ends`).
-/

namespace RecordFlow
namespace Json

/-! ## Values without binary numbers -/

mutual

/-- Whether all numbers in a value are natural. -/
def isWhole : Json → Bool
  | .number _ => false
  | .array items => wholeItems items
  | .object members => wholeMembers members
  | .null | .bool _ | .natural _ | .string _ => true
termination_by structural json => json

def wholeItems : List Json → Bool
  | [] => true
  | item :: rest => isWhole item && wholeItems rest
termination_by structural items => items

def wholeMembers : List (String × Json) → Bool
  | [] => true
  | member :: rest => wholeMember member && wholeMembers rest
termination_by structural members => members

def wholeMember : String × Json → Bool
  | (_, value) => isWhole value
termination_by structural member => member

end

theorem wholeItems_iff (items : List Json) :
    wholeItems items = true ↔ ∀ item ∈ items, item.isWhole = true := by
  induction items with
  | nil => simp [wholeItems]
  | cons item rest ih => simp [wholeItems, ih]

theorem wholeMembers_iff (members : List (String × Json)) :
    wholeMembers members = true ↔ ∀ member ∈ members, member.2.isWhole = true := by
  induction members with
  | nil => simp [wholeMembers]
  | cons member rest ih =>
    rcases member with ⟨key, value⟩
    simp [wholeMembers, wholeMember, ih]

/-! ## White space -/

/-- Whether a text does not go on with a number that stands before it. -/
def Ends (rest : List Char) : Prop := rest.head?.any continuesNumber = false

theorem ends_cons {c : Char} (h : continuesNumber c = false) (rest : List Char) :
    Ends (c :: rest) := by
  simp [Ends, h]

theorem skipSpace_cons {c : Char} (h : isSpace c = false) (rest : List Char) :
    skipSpace (c :: rest) = c :: rest := by
  simp [skipSpace, h]

/-! ## Strings -/

theorem hexValue?_hexDigit {n : Nat} (h : n < 16) : hexValue? (hexDigit n) = some n := by
  have hall : ∀ n < 16, hexValue? (hexDigit n) = some n := by decide
  exact hall n h

theorem joinUnit?_of_lt {unit : Nat} (h : unit < 0xD800) :
    joinUnit? none unit = some (.inr (Char.ofNat unit)) := by
  have hsurrogate : ¬ (0xD800 ≤ unit ∧ unit < 0xDC00) := by omega
  have hlow : ¬ (0xDC00 ≤ unit ∧ unit < 0xE000) := by omega
  simp [joinUnit?, hsurrogate, hlow]

/-- A control character without a letter of its own is written by its code. -/
theorem readString_unit {c : Char} (hcontrol : c.toNat < 32) (rest : List Char) :
    readString .plain none
        (['\\', 'u', '0', '0', hexDigit (c.toNat / 16), hexDigit (c.toNat % 16)] ++ rest) =
      push c (readString .plain none rest) := by
  have hhigh := hexValue?_hexDigit (n := c.toNat / 16) (by omega)
  have hlow := hexValue?_hexDigit (n := c.toNat % 16) (by omega)
  have hcode : 16 * (c.toNat / 16) + c.toNat % 16 = c.toNat := Nat.div_add_mod _ _
  have hzero : hexValue? '0' = some 0 := by decide
  have hjoin := @joinUnit?_of_lt c.toNat (by omega)
  simp [readString, hhigh, hlow, hzero, hcode, hjoin, Char.ofNat_toNat]

/-- A character is written by a letter that stands for it, by its code, or as it is. -/
theorem escapeChar_cases (c : Char) :
    (∃ letter, unescape? letter = some c ∧ escapeChar c = ['\\', letter]) ∨
    (c.toNat < 32 ∧ escapeChar c =
      ['\\', 'u', '0', '0', hexDigit (c.toNat / 16), hexDigit (c.toNat % 16)]) ∨
    (c ≠ '"' ∧ c ≠ '\\' ∧ 32 ≤ c.toNat ∧ escapeChar c = [c]) := by
  have hcharacter : ∀ {n : Nat}, c.toNat = n → Char.ofNat n = c := by
    rintro n rfl
    exact Char.ofNat_toNat c
  unfold escapeChar
  split
  · rename_i h
    exact .inl ⟨'"', by rw [h]; rfl, rfl⟩
  split
  · rename_i h
    exact .inl ⟨'\\', by rw [h]; rfl, rfl⟩
  split
  · rename_i h
    exact .inl ⟨'b', congrArg some (hcharacter h), rfl⟩
  split
  · rename_i h
    exact .inl ⟨'t', congrArg some (hcharacter h), rfl⟩
  split
  · rename_i h
    exact .inl ⟨'n', congrArg some (hcharacter h), rfl⟩
  split
  · rename_i h
    exact .inl ⟨'f', congrArg some (hcharacter h), rfl⟩
  split
  · rename_i h
    exact .inl ⟨'r', congrArg some (hcharacter h), rfl⟩
  split
  · rename_i hcontrol
    exact .inr (.inl ⟨hcontrol, rfl⟩)
  · rename_i hquote hbackslash _ _ _ _ _ hcontrol
    exact .inr (.inr ⟨hquote, hbackslash, Nat.le_of_not_lt hcontrol, rfl⟩)

/-- What stands for a character is read as that character. -/
theorem readString_escapeChar (c : Char) (rest : List Char) :
    readString .plain none (escapeChar c ++ rest) = push c (readString .plain none rest) := by
  rcases escapeChar_cases c with ⟨letter, hletter, h⟩ | ⟨hcontrol, h⟩ |
    ⟨hquote, hbackslash, hprinted, h⟩
  · have hplain : letter ≠ 'u' := by
      rintro rfl
      cases hletter
    simp [h, readString, hplain, hletter]
  · rw [h, readString_unit hcontrol]
  · have hcontrol : ¬ c.toNat < 32 := Nat.not_lt_of_le hprinted
    simp [h, readString, hquote, hbackslash, hcontrol]

theorem readString_flatMap (cs rest : List Char) :
    readString .plain none (cs.flatMap escapeChar ++ '"' :: rest) = some (cs, rest) := by
  induction cs with
  | nil => simp [readString]
  | cons c cs ih =>
    rw [List.flatMap_cons, List.append_assoc, readString_escapeChar, ih]
    rfl

theorem readQuoted_quote (s : String) (rest : List Char) :
    readQuoted (quote s ++ rest) = some (s, rest) := by
  have hread := readString_flatMap s.toList rest
  simp [readQuoted, quote, skipSpace_cons, isSpace, hread]

/-! ## Natural numbers -/

theorem isSpace_of_isDigit {c : Char} (hdigit : c.isDigit = true) : isSpace c = false := by
  cases hspace : isSpace c with
  | false => rfl
  | true =>
    simp only [isSpace, Bool.or_eq_true, beq_iff_eq] at hspace
    rcases hspace with ((rfl | rfl) | rfl) | rfl <;> cases hdigit

/-- Only zero begins with a zero. -/
theorem head?_toDigits_eq_zero {n : Nat} (h : (Nat.toDigits 10 n).head? = some '0') : n = 0 := by
  induction n using Nat.strongRecOn with
  | ind n ih =>
    by_cases hsmall : n < 10
    · rw [Nat.toDigits_of_lt_base hsmall] at h
      have hall : ∀ n < 10, [Nat.digitChar n].head? = some '0' → n = 0 := by decide
      exact hall n hsmall h
    · have hbase : 10 ≤ n := by omega
      rw [Nat.toDigits_of_base_le (by decide) hbase] at h
      have htens : (Nat.toDigits 10 (n / 10)).head? = some '0' := by
        cases htext : Nat.toDigits 10 (n / 10) with
        | nil => exact absurd htext Nat.toDigits_ne_nil
        | cons c cs => simpa [htext] using h
      have hzero := ih (n / 10) (by omega) htens
      omega

theorem isDigit_of_mem_digits {n : Nat} {c : Char} (h : c ∈ Nat.toDigits 10 n) :
    c.isDigit = true :=
  Nat.isDigit_of_mem_toDigits (by decide) (by decide) h

/-- A natural number begins with a digit. -/
theorem toDigits_eq_cons (n : Nat) : ∃ c cs, Nat.toDigits 10 n = c :: cs ∧ c.isDigit = true := by
  cases htext : Nat.toDigits 10 n with
  | nil => exact absurd htext Nat.toDigits_ne_nil
  | cons c cs => exact ⟨c, cs, rfl, isDigit_of_mem_digits (n := n) (by simp [htext])⟩

/-- Whether a text does not go on with a digit. -/
def NoDigit (rest : List Char) : Prop := rest.head?.any Char.isDigit = false

theorem noDigit_cons {c : Char} (h : c.isDigit = false) (rest : List Char) :
    NoDigit (c :: rest) := by
  simp [NoDigit, h]

theorem Ends.noDigit {rest : List Char} (hends : Ends rest) : NoDigit rest := by
  cases rest with
  | nil => rfl
  | cons c rest =>
    simp only [Ends, continuesNumber, List.head?_cons, Option.any_some, Bool.or_eq_false_iff]
      at hends
    exact noDigit_cons hends.1.1.1 rest

/-- Digits reach as far as none follows. -/
theorem split_at_digits {digits rest : List Char} (hdigits : ∀ c ∈ digits, c.isDigit = true)
    (hstop : NoDigit rest) :
    (digits ++ rest).takeWhile Char.isDigit = digits ∧
      (digits ++ rest).dropWhile Char.isDigit = rest := by
  have hrest : rest.takeWhile Char.isDigit = [] ∧ rest.dropWhile Char.isDigit = rest := by
    cases rest with
    | nil => exact ⟨rfl, rfl⟩
    | cons c rest =>
      have hother : c.isDigit = false := hstop
      simp [hother]
  constructor
  · rw [List.takeWhile_append_of_pos hdigits, hrest.1, List.append_nil]
  · rw [List.dropWhile_append_of_pos hdigits, hrest.2]

theorem readNatural_toDigits (n : Nat) {rest : List Char} (hends : Ends rest) :
    readNatural (Nat.toDigits 10 n ++ rest) = some (n, rest) := by
  rcases split_at_digits (fun _ => isDigit_of_mem_digits (n := n)) hends.noDigit with
    ⟨htake, hdrop⟩
  have hvain : ¬ ((Nat.toDigits 10 n).head? = some '0' ∧ Nat.toDigits 10 n ≠ ['0']) := by
    rintro ⟨hzero, hmore⟩
    rw [head?_toDigits_eq_zero hzero] at hmore
    exact hmore rfl
  have hvalue := Nat.ofDigitChars_toDigits (b := 10) (n := n) (by decide) (by decide)
  rw [Ends] at hends
  simp only [readNatural, htake, hdrop, hvain, hends, hvalue, Nat.toDigits_ne_nil, false_or,
    Bool.false_eq_true, if_false]

/-! ## Items and members -/

/-- Texts with commas between them. -/
def commas : List (List Char) → List Char
  | [] => []
  | [text] => text
  | text :: rest => text ++ ',' :: commas rest

theorem renderItems_eq (items : List Json) :
    renderItems items = commas (items.map renderChars) := by
  induction items with
  | nil => rfl
  | cons item rest ih =>
    cases rest with
    | nil => rfl
    | cons next rest =>
      rw [renderItems, ih]
      · rfl
      · simp

theorem renderMembers_eq (members : List (String × Json)) :
    renderMembers members = commas (members.map renderMember) := by
  induction members with
  | nil => rfl
  | cons member rest ih =>
    cases rest with
    | nil => rfl
    | cons next rest =>
      rw [renderMembers, ih]
      · rfl
      · simp

theorem length_le_commas {text : List Char} {texts : List (List Char)} (h : text ∈ texts) :
    text.length ≤ (commas texts).length := by
  fun_induction commas texts with
  | case1 => cases h
  | case2 only => exact Nat.le_of_eq (congrArg List.length (List.mem_singleton.1 h))
  | case3 first rest hmore ih =>
    rw [List.length_append, List.length_cons]
    rcases List.mem_cons.1 h with rfl | h
    · omega
    · have := ih h
      omega

theorem length_texts_le (texts : List (List Char)) :
    texts.length ≤ (commas texts).length + 1 := by
  fun_induction commas texts with
  | case1 => simp
  | case2 only => simp
  | case3 first rest hmore ih =>
    simp only [List.length_append, List.length_cons]
    omega

section Sequences

variable {α β : Type} {item : Reader β} {written : α → List Char} {meant : α → β} {close : Char}
  {space : List Char}

/-- What closes a container is no comma, no space and no part of a number. -/
structure Closes (close : Char) : Prop where
  ne_comma : close ≠ ','
  isSpace : isSpace close = false
  continues : continuesNumber close = false

theorem skipSpace_append (hspace : ∀ c ∈ space, isSpace c = true) (text : List Char) :
    skipSpace (space ++ text) = skipSpace text :=
  List.dropWhile_append_of_pos hspace

theorem continuesNumber_of_isSpace {c : Char} (h : isSpace c = true) :
    continuesNumber c = false := by
  simp only [isSpace, Bool.or_eq_true, beq_iff_eq] at h
  rcases h with ((rfl | rfl) | rfl) | rfl <;> decide

/-- A number ends before white space and before what closes a container. -/
theorem ends_close (hclose : Closes close) (hspace : ∀ c ∈ space, isSpace c = true)
    (rest : List Char) : Ends (space ++ close :: rest) := by
  cases space with
  | nil => exact ends_cons hclose.continues rest
  | cons c space => exact ends_cons (continuesNumber_of_isSpace (hspace c List.mem_cons_self)) _

theorem readItems_commas (hclose : Closes close) (hspace : ∀ c ∈ space, isSpace c = true)
    {as : List α} (hsome : as ≠ [])
    (hitem : ∀ a ∈ as, ∀ rest, Ends rest → item (written a ++ rest) = some (meant a, rest))
    {fuel : Nat} (hfuel : as.length ≤ fuel) (rest : List Char) :
    readItems item close fuel (commas (as.map written) ++ (space ++ close :: rest)) =
      some (as.map meant, rest) := by
  induction as generalizing fuel with
  | nil => exact absurd rfl hsome
  | cons a as ih =>
    obtain ⟨fuel, rfl⟩ : ∃ n, fuel = n + 1 := ⟨fuel - 1, by simp at hfuel; omega⟩
    cases as with
    | nil =>
      have hfirst := hitem a List.mem_cons_self _ (ends_close hclose hspace rest)
      simp [readItems, commas, hfirst, skipSpace_append hspace, skipSpace_cons hclose.isSpace,
        hclose.ne_comma]
    | cons b as =>
      have hrest := ih (by simp) (fun a ha => hitem a (List.mem_cons_of_mem _ ha))
        (by simpa using hfuel)
      have hcomma : Ends (',' :: (commas ((b :: as).map written) ++ (space ++ close :: rest))) :=
        ends_cons (by decide) _
      have hfirst := hitem a List.mem_cons_self _ hcomma
      simp only [List.map_cons, commas, List.append_assoc, List.cons_append] at hrest hfirst ⊢
      simp [readItems, hfirst, skipSpace_cons, isSpace, hrest]

theorem readSequence_commas (hclose : Closes close) (hspace : ∀ c ∈ space, isSpace c = true)
    {as : List α}
    (hitem : ∀ a ∈ as, ∀ rest, Ends rest → item (written a ++ rest) = some (meant a, rest))
    (hopens : ∀ a ∈ as, ∃ c cs, skipSpace (written a) = c :: cs ∧ c ≠ close)
    (rest : List Char) :
    readSequence item close (commas (as.map written) ++ (space ++ close :: rest)) =
      some (as.map meant, rest) := by
  cases as with
  | nil =>
    simp [readSequence, commas, skipSpace_append hspace, skipSpace_cons hclose.isSpace]
  | cons a as =>
    have hfuel : (a :: as).length ≤
        (commas ((a :: as).map written) ++ (space ++ close :: rest)).length := by
      have hcount := length_texts_le ((a :: as).map written)
      rw [List.length_map] at hcount
      rw [List.length_append, List.length_append, List.length_cons (a := close)]
      omega
    have hread := readItems_commas hclose hspace (by simp) hitem hfuel rest
    -- the first item shows that the container is not empty
    rcases hopens a List.mem_cons_self with ⟨c, cs, hc, hne⟩
    have hhead : ∃ more, commas ((a :: as).map written) ++ (space ++ close :: rest) =
        written a ++ more := by
      cases as <;> simp [commas]
    rcases hhead with ⟨more, hmore⟩
    have hskip : skipSpace (written a ++ more) = c :: (cs ++ more) := by
      unfold skipSpace at hc ⊢
      rw [List.dropWhile_append, hc]
      rfl
    rw [hmore] at hread ⊢
    rw [readSequence, hskip]
    simp only [hne, if_false]
    exact hread

end Sequences

/-! ## Values -/

/-- What a value begins with is no space and closes nothing. -/
theorem renderChars_opens {json : Json} (hwhole : json.isWhole = true) :
    ∃ c cs, renderChars json = c :: cs ∧ isSpace c = false ∧ c ≠ ']' := by
  cases json with
  | null => exact ⟨'n', _, rfl, by decide, by decide⟩
  | bool b => cases b <;> exact ⟨_, _, rfl, by decide, by decide⟩
  | natural n =>
    rcases toDigits_eq_cons n with ⟨c, cs, htext, hdigit⟩
    exact ⟨c, cs, htext, isSpace_of_isDigit hdigit, by rintro rfl; cases hdigit⟩
  | number x => cases hwhole
  | string s => exact ⟨'"', _, rfl, by decide, by decide⟩
  | array items => exact ⟨'[', _, rfl, by decide, by decide⟩
  | object members => exact ⟨'\x7b', _, rfl, by decide, by decide⟩

/-- A reader of values that knows the values of some members reads the members. -/
theorem readMember_renderMember {value : Reader Json} {member : String × Json}
    (hvalue : ∀ rest, Ends rest → value (renderChars member.2 ++ rest) = some (member.2, rest))
    (rest : List Char) (hends : Ends rest) :
    readMember value (renderMember member ++ rest) = some (member, rest) := by
  rcases member with ⟨key, json⟩
  have hkey := readQuoted_quote key (':' :: (renderChars json ++ rest))
  have hjson := hvalue rest hends
  simp [readMember, renderMember, hkey, skipSpace_cons, isSpace, hjson]

/-- A number is read where no other value begins. -/
theorem readValue_digit {c : Char} (hdigit : c.isDigit = true) (depth : Nat) (cs : List Char) :
    readValue (depth + 1) (c :: cs) =
      (readNatural (c :: cs)).map fun (n, rest) => (.natural n, rest) := by
  have hother : ∀ d : Char, d.isDigit = false → c ≠ d := by
    rintro d hd rfl
    rw [hdigit] at hd
    cases hd
  rw [readValue, skipSpace_cons (isSpace_of_isDigit hdigit)]
  simp only [hother _ (by decide : '"'.isDigit = false),
    hother _ (by decide : '['.isDigit = false), hother _ (by decide : '\x7b'.isDigit = false),
    hother _ (by decide : 'n'.isDigit = false), hother _ (by decide : 't'.isDigit = false),
    hother _ (by decide : 'f'.isDigit = false), if_false]

/-- The text of a value says that value wherever it stands. -/
theorem readValue_renderChars (depth : Nat) {json : Json} (hwhole : json.isWhole = true)
    (hdepth : (renderChars json).length ≤ depth) {rest : List Char} (hends : Ends rest) :
    readValue depth (renderChars json ++ rest) = some (json, rest) := by
  -- on the depth: the texts of items and members are shorter than that of their container
  induction depth generalizing json rest with
  | zero =>
    rcases renderChars_opens hwhole with ⟨c, cs, htext, _⟩
    simp [htext] at hdepth
  | succ depth ih =>
    cases json with
    | null => simp [renderChars, leafText, readValue, skipSpace_cons, isSpace, readWord]
    | bool b =>
      cases b <;> simp [renderChars, leafText, readValue, skipSpace_cons, isSpace, readWord]
    | natural n =>
      have hread := readNatural_toDigits n hends
      rcases toDigits_eq_cons n with ⟨c, cs, htext, hdigit⟩
      rw [htext] at hread
      rw [renderChars, leafText, htext, List.cons_append, readValue_digit hdigit,
        ← List.cons_append, hread]
      rfl
    | number x => cases hwhole
    | string s =>
      have hread := readString_flatMap s.toList rest
      simp [renderChars, leafText, quote, readValue, skipSpace_cons, isSpace, hread]
    | array items =>
      have hitems := (wholeItems_iff items).1 hwhole
      have hitem : ∀ item ∈ items, ∀ rest, Ends rest →
          readValue depth (renderChars item ++ rest) = some (item, rest) := by
        intro item hmem rest hends
        have hshort := length_le_commas (List.mem_map_of_mem (f := renderChars) hmem)
        refine ih (hitems item hmem) ?_ hends
        simp only [renderChars, renderItems_eq, List.length_cons, List.length_append] at hdepth
        omega
      have hopens : ∀ item ∈ items, ∃ c cs, skipSpace (renderChars item) = c :: cs ∧
          c ≠ ']' := by
        intro item hmem
        rcases renderChars_opens (hitems item hmem) with ⟨c, cs, htext, hspace, hne⟩
        exact ⟨c, cs, by rw [htext, skipSpace_cons hspace], hne⟩
      have hread : readSequence (readValue depth) ']'
          (commas (items.map renderChars) ++ ([] ++ ']' :: rest)) = some (items.map id, rest) :=
        readSequence_commas ⟨by decide, by decide, by decide⟩ (by simp) hitem hopens rest
      rw [List.map_id, List.nil_append] at hread
      simp [renderChars, renderItems_eq, readValue, skipSpace_cons, isSpace, hread]
    | object members =>
      have hmembers := (wholeMembers_iff members).1 hwhole
      have hmember : ∀ member ∈ members, ∀ rest, Ends rest →
          readMember (readValue depth) (renderMember member ++ rest) = some (member, rest) := by
        intro member hmem rest hends
        refine readMember_renderMember (fun rest hends => ?_) rest hends
        have hshort := length_le_commas (List.mem_map_of_mem (f := renderMember) hmem)
        refine ih (hmembers member hmem) ?_ hends
        simp only [renderChars, renderMembers_eq, List.length_cons, List.length_append] at hdepth
        rw [renderMember, List.length_append, List.length_cons] at hshort
        omega
      have hopens : ∀ member ∈ members, ∃ c cs, skipSpace (renderMember member) = c :: cs ∧
          c ≠ '\x7d' := by
        rintro ⟨key, value⟩ _
        exact ⟨'"', _, skipSpace_cons (by decide) _, by decide⟩
      have hread : readSequence (readMember (readValue depth)) '\x7d'
          (commas (members.map renderMember) ++ ([] ++ '\x7d' :: rest)) =
            some (members.map id, rest) :=
        readSequence_commas ⟨by decide, by decide, by decide⟩ (by simp) hmember hopens rest
      rw [List.map_id, List.nil_append] at hread
      simp [renderChars, renderMembers_eq, readValue, skipSpace_cons, isSpace, hread]

/-- What is printed is read as what it was. -/
theorem read?_render {json : Json} (hwhole : json.isWhole = true) :
    read? json.render = some json := by
  have hends : Ends [] := rfl
  have hread := readValue_renderChars json.render.length hwhole
    (Nat.le_of_eq (by rw [render, String.length_ofList])) hends
  rw [List.append_nil] at hread
  rw [read?, render, String.toList_ofList, ← render, hread]
  rfl

-- a text that the printer would not write
example : read? " [ \"\\u0041\\ud83d\\ude00\" , 10 ]" =
    some (.array [.string "A😀", .natural 10]) := by rfl

/-! ## Lines -/

theorem lineBreak_notMem_quote (s : String) : '\n' ∉ quote s := by
  have hhex : ∀ n < 16, '\n' ≠ hexDigit n := by decide
  have hescaped : ∀ c, '\n' ∉ escapeChar c := by
    intro c
    rcases escapeChar_cases c with ⟨letter, hletter, h⟩ | ⟨hcontrol, h⟩ | ⟨_, _, hprinted, h⟩
    · have hplain : '\n' ≠ letter := by
        rintro rfl
        cases hletter
      simp [h, hplain]
    · have hhigh := hhex (c.toNat / 16) (by omega)
      have hlow := hhex (c.toNat % 16) (by omega)
      simp [h, hhigh, hlow]
    · have hplain : '\n' ≠ c := by
        rintro rfl
        exact absurd hprinted (by decide)
      simp [h, hplain]
  simp [quote, hescaped]

theorem lineBreak_notMem_commas {texts : List (List Char)} (h : ∀ text ∈ texts, '\n' ∉ text) :
    '\n' ∉ commas texts := by
  fun_induction commas texts with
  | case1 => simp
  | case2 only => exact h only (List.mem_singleton.2 rfl)
  | case3 first rest hmore ih =>
    have hfirst := h first List.mem_cons_self
    have hrest := ih fun text htext => h text (List.mem_cons_of_mem _ htext)
    simp [hfirst, hrest]

/-- The compact text of a value is one line. -/
theorem lineBreak_notMem_renderChars {json : Json} (hwhole : json.isWhole = true) :
    '\n' ∉ renderChars json := by
  -- on the length of the text, which is longer than those of items and members
  induction hlength : (renderChars json).length using Nat.strongRecOn generalizing json with
  | ind length ih =>
    subst hlength
    cases json with
    | null => decide
    | bool b => cases b <;> decide
    | natural n =>
      intro hmem
      have hdigit := isDigit_of_mem_digits hmem
      cases hdigit
    | number x => cases hwhole
    | string s => exact lineBreak_notMem_quote s
    | array items =>
      have hitems : '\n' ∉ commas (items.map renderChars) := by
        refine lineBreak_notMem_commas fun text htext => ?_
        have hshort := length_le_commas htext
        rcases List.mem_map.1 htext with ⟨item, hmem, rfl⟩
        refine ih _ ?_ ((wholeItems_iff items).1 hwhole item hmem) rfl
        rw [renderChars, renderItems_eq, List.length_cons, List.length_append]
        omega
      simp [renderChars, renderItems_eq, hitems]
    | object members =>
      have hmembers : '\n' ∉ commas (members.map renderMember) := by
        refine lineBreak_notMem_commas fun text htext => ?_
        have hshort := length_le_commas htext
        rcases List.mem_map.1 htext with ⟨⟨key, value⟩, hmem, rfl⟩
        have hvalue : '\n' ∉ renderChars value := by
          refine ih _ ?_ ((wholeMembers_iff members).1 hwhole _ hmem) rfl
          rw [renderMember, List.length_append, List.length_cons] at hshort
          rw [renderChars, renderMembers_eq, List.length_cons, List.length_append]
          omega
        simp [renderMember, lineBreak_notMem_quote, hvalue]
      simp [renderChars, renderMembers_eq, hmembers]

end Json
end RecordFlow
