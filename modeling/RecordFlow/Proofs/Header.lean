import Mathlib.Data.List.Nodup
import Mathlib.Data.List.TakeWhile
import Mathlib.Tactic.Push
import RecordFlow.Header

/-!
# Header — which names are accepted

`Header.validate` goes through the names from the left with the keys that it has seen, and ends at
the first name that breaks a rule.  `Header.Proper` says the same rules of all names at once,
without an order.  The names that are accepted are the proper ones (`validate_eq_ok_iff`), and names
that are refused are refused at the first column up to which they are no longer proper
(`validate_eq_error_iff`).
-/

namespace RecordFlow

/-- Nothing is left of a text exactly when all its characters are blank. -/
theorem Blank.isBlankText_iff (text : String) :
    Blank.isBlankText text = true ↔ Blank.trim text = "" := by
  have hempty : Blank.trim text = "" ↔ Blank.trimChars text.toList = [] := by
    rw [Blank.trim, ← String.toList_inj, String.toList_ofList, String.toList_empty]
  rw [hempty, Blank.isBlankText, List.all_eq_true, Blank.trimChars, List.reverse_eq_nil_iff,
    List.dropWhile_eq_nil_iff]
  constructor
  · intro hall
    have hfront : text.toList.dropWhile Blank.isBlank = [] := List.dropWhile_eq_nil_iff.2 hall
    simp [hfront]
  · intro hkept
    -- what the front leaves begins with no blank, and so it is empty
    have hnone : text.toList.dropWhile Blank.isBlank = [] := by
      by_contra hne
      have hhead := List.head_dropWhile_not Blank.isBlank hne
      have hblank := hkept _ (List.mem_reverse.2 (List.head_mem hne))
      rw [hblank] at hhead
      cases hhead
    exact List.dropWhile_eq_nil_iff.1 hnone

namespace Header

/-! ## The rules, of all names at once -/

/-- The rules for the names of a header. -/
structure Proper (names : List String) : Prop where
  nonempty : names ≠ []
  named : ∀ name ∈ names, Blank.trim name ≠ ""
  /-- The blanks around a name are subject to this rule, though not to the others. -/
  plain : ∀ name ∈ names, ∀ c ∈ name.toList,
    Letter.isAlphanumeric c = true ∨ c = ' ' ∨ c = '_' ∨ c = '-'
  distinct : names.Pairwise fun a b =>
    Lowercase.text (Blank.trim a) ≠ Lowercase.text (Blank.trim b)

/-- Why a name is refused behind the names `before`. -/
inductive Refuses (before : List String) (name : String) : String → Prop where
  | blank : Blank.trim name = "" → Refuses before name "empty header name"
  | duplicate : Blank.trim name ≠ "" →
      (∃ earlier ∈ before,
        Lowercase.text (Blank.trim earlier) = Lowercase.text (Blank.trim name)) →
      Refuses before name "duplicate header name"
  | characters : Blank.trim name ≠ "" →
      (∀ earlier ∈ before,
        Lowercase.text (Blank.trim earlier) ≠ Lowercase.text (Blank.trim name)) →
      (∃ c ∈ name.toList, ¬ (Letter.isAlphanumeric c = true ∨ c = ' ' ∨ c = '_' ∨ c = '-')) →
      Refuses before name "header name contains invalid characters"

/-- The rules are the same for the names in another order. -/
theorem Proper.perm {names names' : List String} (h : Proper names) (hperm : names.Perm names') :
    Proper names' where
  nonempty := fun hnil => h.nonempty (List.perm_nil.1 (hnil ▸ hperm))
  named := fun name hname => h.named name (hperm.mem_iff.2 hname)
  plain := fun name hname => h.plain name (hperm.mem_iff.2 hname)
  distinct := h.distinct.perm hperm Ne.symm

theorem Proper.take {names : List String} (h : Proper names) {k : Nat} (hk : 0 < k) :
    Proper (names.take k) where
  nonempty := by
    rw [Ne, List.take_eq_nil_iff]
    rintro (rfl | hnil)
    · exact absurd hk (Nat.lt_irrefl 0)
    · exact h.nonempty hnil
  named := fun name hname => h.named name (List.mem_of_mem_take hname)
  plain := fun name hname => h.plain name (List.mem_of_mem_take hname)
  distinct := h.distinct.sublist (List.take_sublist k names)

/-! ## One name -/

theorem isName_iff (name : String) :
    isName name = true ↔ ∀ c ∈ name.toList,
      Letter.isAlphanumeric c = true ∨ c = ' ' ∨ c = '_' ∨ c = '-' := by
  simp [isName, isNameChar, or_assoc, or_comm]

theorem fault?_eq_none_iff (seen : List String) (name : String) :
    fault? seen name = none ↔
      Blank.trim name ≠ "" ∧ key name ∉ seen ∧ isName name = true := by
  rw [Ne, ← Blank.isBlankText_iff]
  unfold fault?
  by_cases hblank : Blank.isBlankText name = true
  · simp [hblank]
  · by_cases hseen : key name ∈ seen
    · simp [hblank, hseen]
    · simp [hblank, hseen]

/-- The rule that a name breaks is the reason for which it is refused. -/
theorem refuses_iff {before : List String} {seen : List String} (name reason : String)
    (hseen : ∀ k, k ∈ seen ↔ k ∈ before.map key) :
    Refuses before name reason ↔
      ∃ fault, fault? seen name = some fault ∧ reason = fault.message := by
  have hbefore : key name ∈ seen ↔ ∃ earlier ∈ before,
      Lowercase.text (Blank.trim earlier) = Lowercase.text (Blank.trim name) := by
    rw [hseen, List.mem_map]
    rfl
  constructor
  · intro hrefuses
    cases hrefuses with
    | blank hblank =>
      have hisBlank := (Blank.isBlankText_iff name).2 hblank
      exact ⟨.blank, by simp [fault?, hisBlank], rfl⟩
    | duplicate hnamed hearlier =>
      have hisBlank := mt (Blank.isBlankText_iff name).1 hnamed
      exact ⟨.duplicate, by simp [fault?, hisBlank, hbefore.2 hearlier], rfl⟩
    | characters hnamed hearlier hchar =>
      have hisBlank := mt (Blank.isBlankText_iff name).1 hnamed
      have hnew : key name ∉ seen := fun hmem => by
        rcases hbefore.1 hmem with ⟨earlier, hmem, hsame⟩
        exact hearlier earlier hmem hsame
      have hnot : ¬ isName name = true := fun hname => by
        rcases hchar with ⟨c, hc, hother⟩
        exact hother ((isName_iff name).1 hname c hc)
      exact ⟨.characters, by simp [fault?, hisBlank, hnew, hnot], rfl⟩
  · rintro ⟨fault, hfault, rfl⟩
    unfold fault? at hfault
    by_cases hblank : Blank.isBlankText name = true
    · rw [if_pos hblank] at hfault
      cases hfault
      exact .blank ((Blank.isBlankText_iff name).1 hblank)
    · have hnamed := mt (Blank.isBlankText_iff name).2 hblank
      rw [if_neg hblank] at hfault
      by_cases hmem : key name ∈ seen
      · rw [if_pos hmem] at hfault
        cases hfault
        exact .duplicate hnamed (hbefore.1 hmem)
      · rw [if_neg hmem] at hfault
        by_cases hname : isName name = true
        · rw [if_pos hname] at hfault
          cases hfault
        · rw [if_neg hname] at hfault
          cases hfault
          refine .characters hnamed ?_ ?_
          · exact fun earlier hearlier hsame => hmem (hbefore.2 ⟨earlier, hearlier, hsame⟩)
          · rw [isName_iff] at hname
            push Not at hname
            simpa using hname

/-! ## The walk through the names -/

/-- The walk goes through names that break no rule, and whose keys are new and different. -/
theorem validateFrom_eq_ok_iff (column : Nat) (seen names : List String) :
    validateFrom column seen names = .ok () ↔
      (∀ name ∈ names, Blank.trim name ≠ "" ∧ isName name = true) ∧
        (names.map key).Nodup ∧ ∀ name ∈ names, key name ∉ seen := by
  -- the keys behind a name are checked against the key of that name too
  induction names generalizing column seen with
  | nil => simp [validateFrom]
  | cons name rest ih =>
    have hstep : validateFrom column seen (name :: rest) = .ok () ↔
        fault? seen name = none ∧ validateFrom (column + 1) (key name :: seen) rest = .ok () := by
      rw [validateFrom]
      cases fault? seen name <;> simp
    have hkeys : (∀ next ∈ rest, key next ∉ key name :: seen) ↔
        key name ∉ rest.map key ∧ ∀ next ∈ rest, key next ∉ seen := by
      simp only [List.mem_cons, not_or, List.mem_map, not_exists, not_and]
      exact ⟨fun h => ⟨fun next hnext => (h next hnext).1, fun next hnext => (h next hnext).2⟩,
        fun h next hnext => ⟨h.1 next hnext, h.2 next hnext⟩⟩
    rw [hstep, fault?_eq_none_iff, ih, hkeys, List.map_cons, List.nodup_cons]
    simp only [List.forall_mem_cons]
    constructor
    · rintro ⟨⟨hnamed, hnew, hname⟩, hnames, hnodup, hfirst, hothers⟩
      exact ⟨⟨⟨hnamed, hname⟩, hnames⟩, ⟨hfirst, hnodup⟩, hnew, hothers⟩
    · rintro ⟨⟨⟨hnamed, hname⟩, hnames⟩, ⟨hfirst, hnodup⟩, hnew, hothers⟩
      exact ⟨⟨hnamed, hnew, hname⟩, hnames, hnodup, hfirst, hothers⟩

/-- The walk ends at a name that breaks a rule behind names that do not. -/
theorem validateFrom_eq_error_iff {column : Nat} {seen names : List String} {error : FlowError} :
    validateFrom column seen names = .error error ↔
      ∃ before name after fault, names = before ++ name :: after ∧
        validateFrom column seen before = .ok () ∧
        fault? ((before.map key).reverse ++ seen) name = some fault ∧
        error = columnError (column + before.length) name fault := by
  induction names generalizing column seen with
  | nil => simp [validateFrom]
  | cons name rest ih =>
    rw [validateFrom]
    cases hfault : fault? seen name with
    | some fault =>
      constructor
      · intro herror
        cases herror
        exact ⟨[], name, rest, fault, rfl, rfl, hfault, rfl⟩
      · -- a walk that goes on would have gone through this name
        rintro ⟨before, next, after, fault', hnames, hbefore, hfault', rfl⟩
        cases before with
        | nil =>
          cases hnames
          rw [List.map_nil, List.reverse_nil, List.nil_append, hfault] at hfault'
          cases hfault'
          rfl
        | cons first before =>
          cases hnames
          rw [validateFrom, hfault] at hbefore
          cases hbefore
    | none =>
      show validateFrom (column + 1) (key name :: seen) rest = .error error ↔ _
      rw [ih]
      constructor
      · rintro ⟨before, next, after, fault, rfl, hbefore, hnext, rfl⟩
        refine ⟨name :: before, next, after, fault, rfl, ?_, ?_, ?_⟩
        · rw [validateFrom, hfault]
          exact hbefore
        · simpa using hnext
        · rw [List.length_cons, Nat.add_right_comm, Nat.add_assoc]
      · rintro ⟨before, next, after, fault, hnames, hbefore, hnext, rfl⟩
        cases before with
        | nil =>
          cases hnames
          rw [List.map_nil, List.reverse_nil, List.nil_append, hfault] at hnext
          cases hnext
        | cons first before =>
          cases hnames
          rw [validateFrom, hfault] at hbefore
          refine ⟨before, next, after, fault, rfl, hbefore, by simpa using hnext, ?_⟩
          rw [List.length_cons, Nat.add_right_comm, Nat.add_assoc]

/-! ## All names -/

/-- The walk goes to the end of names that are proper. -/
theorem validateFrom_initial_iff (names : List String) :
    validateFrom 1 [] names = .ok () ↔ names = [] ∨ Proper names := by
  rw [validateFrom_eq_ok_iff]
  constructor
  · rintro ⟨hnames, hkeys, -⟩
    by_cases hnil : names = []
    · exact .inl hnil
    · refine .inr ⟨hnil, fun name hname => (hnames name hname).1, ?_, List.pairwise_map.1 hkeys⟩
      exact fun name hname => (isName_iff name).1 (hnames name hname).2
  · rintro (rfl | hproper)
    · simp
    · refine ⟨fun name hname => ⟨hproper.named name hname, ?_⟩, ?_, by simp⟩
      · exact (isName_iff name).2 (hproper.plain name hname)
      · exact List.pairwise_map.2 hproper.distinct

theorem validate_eq_ok_iff (names : List String) : validate names = .ok () ↔ Proper names := by
  unfold validate
  by_cases hnil : names = []
  · subst hnil
    exact iff_of_false (fun h => by cases h) (fun h => h.nonempty rfl)
  · rw [if_neg (by simpa using hnil), validateFrom_initial_iff, or_iff_right hnil]

/-- Names are refused at a name up to which they are not proper, and before which they were. -/
theorem validate_eq_error_iff {names : List String} (hnames : names ≠ []) (error : FlowError) :
    validate names = .error error ↔
      ∃ (i : Nat) (name reason : String), names[i]? = some name ∧
        ¬ Proper (names.take (i + 1)) ∧ (∀ k, 0 < k → k ≤ i → Proper (names.take k)) ∧
        Refuses (names.take i) name reason ∧
        error = .validation s!"column {i + 1}" name reason := by
  have hwalk : validate names = validateFrom 1 [] names := if_neg (by simpa using hnames)
  have hkeys : ∀ before : List String, ∀ k,
      k ∈ (before.map key).reverse ++ [] ↔ k ∈ before.map key := by simp
  rw [hwalk, validateFrom_eq_error_iff]
  constructor
  · rintro ⟨before, name, after, fault, rfl, hbefore, hfault, rfl⟩
    have hupTo : (before ++ name :: after).take (before.length + 1) = before ++ [name] := by
      simp [List.take_append, List.take_of_length_le]
    have hstops : validateFrom 1 [] (before ++ [name]) = .error _ :=
      validateFrom_eq_error_iff.2 ⟨before, name, [], fault, rfl, hbefore, hfault, rfl⟩
    refine ⟨before.length, name, fault.message, by simp, ?_, ?_, ?_, ?_⟩
    · rw [hupTo]
      intro hproper
      rw [(validateFrom_initial_iff _).2 (.inr hproper)] at hstops
      cases hstops
    · intro k hpos hk
      rw [List.take_append_of_le_length hk]
      rcases (validateFrom_initial_iff before).1 hbefore with rfl | hproper
      · exact absurd hpos (Nat.not_lt.2 hk)
      · exact hproper.take hpos
    · rw [List.take_left]
      exact (refuses_iff name _ (hkeys before)).2 ⟨fault, hfault, rfl⟩
    · rw [Nat.add_comm]
      rfl
  · rintro ⟨i, name, reason, hname, -, hbefore, hrefuses, rfl⟩
    rcases (refuses_iff name reason (hkeys (names.take i))).1 hrefuses with ⟨fault, hfault, rfl⟩
    rcases List.getElem?_eq_some_iff.1 hname with ⟨hi, rfl⟩
    have hlength : (names.take i).length = i := List.length_take_of_le (Nat.le_of_lt hi)
    refine ⟨names.take i, names[i], names.drop (i + 1), fault, ?_, ?_, hfault, ?_⟩
    · rw [← List.drop_eq_getElem_cons hi, List.take_append_drop]
    · rw [validateFrom_initial_iff]
      rcases Nat.eq_zero_or_pos i with rfl | hpos
      · exact .inl rfl
      · exact .inr (hbefore i hpos (Nat.le_refl i))
    · rw [hlength, Nat.add_comm]
      rfl

/-- Names are accepted by their rules alone, in whatever order they stand, and names that are
refused are refused at the first column up to which they break the rules.  The error tells that
column, the name as it is, and the first of the reasons, which are in the order blank, duplicate,
characters. -/
theorem accepted_by_rules (names : List String) :
    (validate names = .ok () ↔ Proper names) ∧
    (∀ names', names.Perm names' → (validate names = .ok () ↔ validate names' = .ok ())) ∧
    (names ≠ [] → ∀ error, validate names = .error error ↔
      ∃ (i : Nat) (name reason : String), names[i]? = some name ∧
        ¬ Proper (names.take (i + 1)) ∧ (∀ k, 0 < k → k ≤ i → Proper (names.take k)) ∧
        Refuses (names.take i) name reason ∧
        error = .validation s!"column {i + 1}" name reason) := by
  refine ⟨validate_eq_ok_iff names, ?_, fun hnames error => validate_eq_error_iff hnames error⟩
  intro names' hperm
  rw [validate_eq_ok_iff, validate_eq_ok_iff]
  exact ⟨fun h => h.perm hperm, fun h => h.perm hperm.symm⟩

/-- The third name is the first one again but for case and blanks, and the tabulator in front of it
is no character of a name; the fourth one is blank. -/
def tabbedNames : List String := ["id", "größe", "\tID", " "]

theorem tabbedNames_by_rules :
    ¬ Proper tabbedNames ∧ Proper ["größe", "id"] ∧
      validate ["id", "größe"] = .ok () ∧
      validate tabbedNames = .error (.validation "column 3" "\tID" "duplicate header name") := by
  have htwo : validate ["größe", "id"] = .ok () := by decide +kernel
  have hproper : Proper ["größe", "id"] := (accepted_by_rules _).1.1 htwo
  have hordered : validate ["id", "größe"] = .ok () :=
    ((accepted_by_rules ["größe", "id"]).2.1 _ (List.Perm.swap ..)).1 htwo
  have hbreaks : ∀ names : List String, validate names ≠ .ok () → ¬ Proper names :=
    fun names hrefused hproper => hrefused ((accepted_by_rules names).1.2 hproper)
  refine ⟨hbreaks _ (by decide +kernel), hproper, hordered, ?_⟩
  apply ((accepted_by_rules tabbedNames).2.2 (by decide) _).2
  refine ⟨2, "\tID", _, rfl, hbreaks _ (by decide +kernel), ?_, ?_, rfl⟩
  · intro k hpos hk
    have hsame : tabbedNames.take k = (tabbedNames.take 2).take k := by
      rw [List.take_take, Nat.min_eq_left hk]
    rw [hsame]
    exact ((accepted_by_rules _).1.1 hordered).take hpos
  · exact .duplicate (by decide +kernel) ⟨"id", by decide, by decide +kernel⟩

end Header
end RecordFlow
