import RecordFlow.Proofs.Csv.Scanner

/-!
# Csv — what the tokenizer gives

Whatever its bytes are, a row has a field (`fields_ne_nil_of_mem_tokenize`), and how many bytes come
at once is of no account but for the byte order mark (`tokenize_congr`): that may not come at once,
or alone, or with more.
-/

namespace RecordFlow
namespace Csv

variable {delimiter b : UInt8} {s : Scanner} {raw : RawRow} {row : Row}

/-! ## Every row has a field -/

namespace Scanner

theorem fields_row_ne_nil (s : Scanner) : s.row.fields ≠ [] := by
  simp [row]

/-- A row that a byte ends has a field, in whichever mode the scanner was. -/
theorem fields_ne_nil_of_step (h : (s.step delimiter b).2 = some raw) : raw.fields ≠ [] := by
  rcases step_cases delimiter s b with ⟨_, _, hstep⟩ | ⟨_, hstep, _⟩ | hstep <;> rw [hstep] at h
  · cases h
  · cases h
  · cases h
    exact (s.count b).fields_row_ne_nil

theorem fields_ne_nil_of_finish? (h : s.finish? = some raw) : raw.fields ≠ [] := by
  unfold finish? at h
  split at h
  · cases h
  · cases h
  · cases h
    exact s.fields_row_ne_nil

theorem fields_ne_nil_of_mem_run {acc : List RawRow} {bytes : List UInt8}
    (hacc : ∀ raw ∈ acc, raw.fields ≠ []) :
    ∀ raw ∈ (s.run delimiter acc bytes).2, raw.fields ≠ [] := by
  induction bytes generalizing s acc with
  | nil => exact hacc
  | cons b rest ih =>
    unfold run
    split
    · rename_i s' raw hstep
      apply ih
      intro raw' hmem
      rcases List.mem_cons.1 hmem with rfl | hmem
      · exact fields_ne_nil_of_step (congrArg Prod.snd hstep)
      · exact hacc raw' hmem
    · exact ih hacc

end Scanner

theorem length_decodeFields {index : Nat} {fields : List (List UInt8)} {texts : List String}
    (h : decodeFields index fields = .ok texts) : texts.length = fields.length := by
  induction fields generalizing index texts with
  | nil =>
    cases h
    rfl
  | cons field rest ih =>
    unfold decodeFields at h
    split at h
    · cases h
    · cases hrest : decodeFields (index + 1) rest with
      | error e =>
        rw [hrest] at h
        cases h
      | ok others =>
        rw [hrest] at h
        cases h
        rw [List.length_cons, List.length_cons, ih hrest]

theorem fields_ne_nil_of_decodeRow (h : decodeRow raw = .ok row) (hraw : raw.fields ≠ []) :
    row.fields ≠ [] := by
  unfold decodeRow at h
  cases hfields : decodeFields 0 raw.fields with
  | error e => simp [hfields] at h
  | ok texts =>
    have htexts : texts = row.fields := by
      have hrow : ⟨texts, raw.position.line⟩ = row := by simpa [hfields] using h
      exact congrArg Row.fields hrow
    intro hnil
    apply hraw
    apply List.eq_nil_of_length_eq_zero
    rw [← length_decodeFields hfields, htexts, hnil, List.length_nil]

theorem fields_ne_nil_of_mem_decodeRows {fault : Option FlowError} {raws : List RawRow}
    (hraws : ∀ raw ∈ raws, raw.fields ≠ []) :
    ∀ row ∈ (decodeRows fault raws).rows, row.fields ≠ [] := by
  induction raws with
  | nil =>
    intro row hrow
    cases hrow
  | cons raw rest ih =>
    intro row hrow
    unfold decodeRows at hrow
    split at hrow
    · cases hrow
    · rename_i first hfirst
      rcases List.mem_cons.1 hrow with rfl | hrow
      · exact fields_ne_nil_of_decodeRow hfirst (hraws raw List.mem_cons_self)
      · exact ih (fun raw hraw => hraws raw (List.mem_cons_of_mem _ hraw)) row hrow

/-- Every row of a text has a field. -/
theorem fields_ne_nil_of_mem_tokenize {lead : Nat} {bytes : List UInt8} {fault : Option FlowError}
    (h : row ∈ (tokenize delimiter lead bytes fault).rows) : row.fields ≠ [] := by
  unfold tokenize at h
  split at h
  · cases h
  refine fields_ne_nil_of_mem_decodeRows ?_ row h
  intro raw hraw
  have hrun : ∀ skipped, ∀ raw ∈ ((Scanner.initial skipped).run delimiter []
      (bytes.drop skipped)).2, raw.fields ≠ [] := by
    intro skipped
    apply Scanner.fields_ne_nil_of_mem_run
    simp
  rw [List.mem_reverse] at hraw
  split at hraw
  · rename_i last hlast
    rcases List.mem_cons.1 hraw with rfl | hraw
    · exact Scanner.fields_ne_nil_of_finish? hlast
    · exact hrun _ raw hraw
  · exact hrun _ raw hraw

/-! ## What comes at once -/

/-- How many bytes come at once tells nothing but whether there is a byte order mark among them, and
whether there is more. -/
theorem tokenize_congr {lead lead' : Nat} {bytes : List UInt8}
    (hmarked : isMarked lead bytes = isMarked lead' bytes)
    (hstops : stopsAtMark lead bytes = stopsAtMark lead' bytes)
    (delimiter : UInt8) (fault : Option FlowError) :
    tokenize delimiter lead bytes fault = tokenize delimiter lead' bytes fault := by
  unfold tokenize
  rw [hmarked, hstops]

/-- Without a byte order mark it tells nothing. -/
theorem tokenize_of_unmarked {lead lead' : Nat} {bytes : List UInt8}
    (hunmarked : byteOrderMark.isPrefixOf bytes = false) (delimiter : UInt8)
    (fault : Option FlowError) :
    tokenize delimiter lead bytes fault = tokenize delimiter lead' bytes fault := by
  apply tokenize_congr
  · simp [isMarked, hunmarked]
  · simp [stopsAtMark, isMarked, hunmarked]

/-- A byte order mark that does not come at once belongs to the text. -/
theorem tokenize_of_lt {lead : Nat} (hlead : lead < 3) (delimiter : UInt8) (bytes : List UInt8)
    (fault : Option FlowError) :
    tokenize delimiter lead bytes fault = tokenize delimiter 0 bytes fault := by
  have hlate : ∀ n < 3, isMarked n bytes = false := by
    intro n hn
    have hfew : ¬ 3 ≤ n := by omega
    simp [isMarked, hfew]
  apply tokenize_congr
  · rw [hlate lead hlead, hlate 0 (by decide)]
  · simp [stopsAtMark, hlate lead hlead, hlate 0 (by decide)]

/-- A text without bytes has no rows. -/
theorem tokenize_nil (delimiter : UInt8) (lead : Nat) :
    tokenize delimiter lead [] none = ⟨[], none⟩ := rfl

/-- A byte order mark that comes alone ends the text. -/
theorem tokenize_of_eq {bytes : List UInt8} (hmarked : byteOrderMark.isPrefixOf bytes = true)
    (delimiter : UInt8) (fault : Option FlowError) :
    tokenize delimiter 3 bytes fault = ⟨[], none⟩ := by
  have hstops : stopsAtMark 3 bytes = true := by simp [stopsAtMark, isMarked, hmarked]
  rw [tokenize, if_pos hstops]

/-- A text that is just a byte order mark has no rows if that comes at once. -/
theorem tokenize_mark {lead : Nat} (hlead : 3 ≤ lead) (delimiter : UInt8) :
    tokenize delimiter lead byteOrderMark none = ⟨[], none⟩ := by
  rcases Nat.eq_or_lt_of_le hlead with rfl | hmore
  · rfl
  · have hmarked : isMarked lead byteOrderMark = true := by simp [isMarked, hlead]
    have hgoes : stopsAtMark lead byteOrderMark = false := by
      have hne : ¬ lead = 3 := by omega
      simp [stopsAtMark, hne]
    simp only [tokenize, hgoes, hmarked, Bool.false_eq_true, if_false, if_true]
    rfl

/-- A byte order mark with more behind it is passed over, however much comes at once. -/
theorem tokenize_of_gt {lead : Nat} (hlead : 3 < lead) (delimiter : UInt8) (bytes : List UInt8)
    (fault : Option FlowError) :
    tokenize delimiter lead bytes fault = tokenize delimiter 4 bytes fault := by
  have hcomes : isMarked lead bytes = isMarked 4 bytes := by simp [isMarked, Nat.le_of_lt hlead]
  apply tokenize_congr hcomes
  have hmore : ¬ lead = 3 := by omega
  simp [stopsAtMark, hmore]

end Csv
end RecordFlow
