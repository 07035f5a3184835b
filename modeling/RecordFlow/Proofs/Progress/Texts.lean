import RecordFlow.Progress.Tracker

/-!
# Texts — which counters the texts on progress show

A text shows a number if the number stands in it behind a label and ends there (`Shows`).  Each of
the three texts has labels of its own for the counters and the total of its sample; records that
were skipped and a total are shown only above zero, and a line of progress has no place for the
records that were skipped.
-/

namespace RecordFlow

/-! ## Numbers behind labels -/

/-- Whether a number ends in front of a text. -/
def EndsNumber (text : String) : Prop := text.toList.head?.any Char.isDigit = false

/-- Whether a text has a number behind a label. -/
def Shows (label : String) (n : Nat) (text : String) : Prop :=
  ∃ front back, text = front ++ label ++ toString n ++ back ∧ EndsNumber back

/-- A number ends in front of a word that starts with another character. -/
theorem endsNumber_append {word : String} {c : Char} (h : word.toList.head? = some c)
    (hc : c.isDigit = false) (rest : String) : EndsNumber (word ++ rest) := by
  unfold EndsNumber
  rw [String.toList_append, List.head?_append, h]
  exact hc

section Parts

variable {label text : String} {n : Nat}

/-- What a text shows is shown by any text that ends in it. -/
theorem Shows.append_left (h : Shows label n text) (front : String) :
    Shows label n (front ++ text) := by
  rcases h with ⟨before, back, rfl, hback⟩
  exact ⟨front ++ before, back, by simp only [String.append_assoc], hback⟩

theorem shows_append {back : String} (h : EndsNumber back) :
    Shows label n (label ++ (toString n ++ back)) :=
  ⟨"", back, by rw [String.empty_append, String.append_assoc], h⟩

end Parts

namespace Stats

/-! ## Lines under a title -/

section Titled

variable {label line : String} {lines : List String} {n : Nat}

/-- A text under a title has each of its lines, with its end. -/
theorem titled_of_mem (title : String) (h : line ∈ lines) :
    ∃ front back, titled title lines = front ++ line ++ "\n" ++ back := by
  rcases List.append_of_mem h with ⟨before, after, rfl⟩
  have hlines : ["", rule, title, rule] ++ (before ++ line :: after) ++ [rule] =
      (["", rule, title, rule] ++ before) ++ (line :: (after ++ [rule])) := by simp
  refine ⟨String.intercalate "\n" (["", rule, title, rule] ++ before) ++ "\n",
    String.intercalate "\n" (after ++ [rule]) ++ "\n", ?_⟩
  -- the rule at the end comes behind every line
  unfold titled
  simp only
  rw [hlines, String.intercalate_append_of_ne_nil (by simp) (by simp),
    String.intercalate_cons_of_ne_nil (by simp)]
  simp only [String.append_assoc]

/-- A line that begins with a label and a number shows the number. -/
theorem shows_titled (title rest : String) (h : label ++ toString n ++ rest ∈ lines)
    (hrest : EndsNumber (rest ++ "\n")) : Shows label n (titled title lines) := by
  rcases titled_of_mem title h with ⟨front, back, htext⟩
  refine ⟨front, rest ++ "\n" ++ back, ?_, ?_⟩
  · rw [htext]
    simp only [String.append_assoc]
  · unfold EndsNumber at hrest ⊢
    rw [String.toList_append, List.head?_append]
    cases hhead : (rest ++ "\n").toList.head? with
    | none => simp at hhead
    | some c =>
      rw [hhead] at hrest
      exact hrest

theorem shows_of_line (title : String) (h : label ++ toString n ∈ lines) :
    Shows label n (titled title lines) := by
  refine shows_titled title "" ?_ (by rfl)
  rwa [String.append_empty]

theorem shows_of_share (title : String) (rate : Binary64) (h : label ++ share n rate ∈ lines) :
    Shows label n (titled title lines) := by
  refine shows_titled title (" (" ++ (Fixed.text 1 rate ++ "%)")) ?_ ?_
  · simpa only [share, String.append_assoc] using h
  · rw [String.append_assoc]
    exact endsNumber_append rfl rfl _

end Titled

/-! ## The three texts -/

/-- The counters that a closing block shows, behind their labels. -/
def closingLabels (s : Sample) : List (String × Nat) :=
  [("Total Processed:  ", s.counts.processed), ("Successful:       ", s.counts.success),
    ("Failed:           ", s.counts.failed)] ++
  if 0 < s.counts.skipped then [("Skipped:          ", s.counts.skipped)] else []

/-- What a block of progress shows. -/
def verboseLabels (s : Sample) : List (String × Nat) :=
  [("Processed:   ", s.counts.processed), ("Success:     ", s.counts.success),
    ("Failed:      ", s.counts.failed)] ++
  (if 0 < s.total then [("Total:       ", s.total)] else []) ++
  if 0 < s.counts.skipped then [("Skipped:     ", s.counts.skipped)] else []

def compactLabels (s : Sample) : List (String × Nat) :=
  [(" | Success: ", s.counts.success), (" | Failed: ", s.counts.failed)] ++
  if 0 < s.total then
    [("Progress: ", s.counts.processed), ("/", s.total)]
  else [("Processed: ", s.counts.processed)]

theorem closing_shows (s : Stats) : ∀ l ∈ closingLabels s.toSample, Shows l.1 l.2 s.closing := by
  intro l hl
  rcases List.mem_append.1 hl with hl | hl
  · have hcounters : l = ("Total Processed:  ", s.counts.processed) ∨
        l = ("Successful:       ", s.counts.success) ∨
        l = ("Failed:           ", s.counts.failed) := by simpa using hl
    rcases hcounters with rfl | rfl | rfl
    · exact shows_of_line _ (by simp)
    · exact shows_of_share _ s.successRate (by simp [successText])
    · exact shows_of_share _ s.failureRate (by simp [failedText])
  · have hskipped : 0 < s.counts.skipped ∧ l = ("Skipped:          ", s.counts.skipped) := by
      simpa using hl
    rcases hskipped with ⟨hsome, rfl⟩
    exact shows_of_line _ (by simp [ifAny, hsome])

theorem verbose_shows (s : Stats) : ∀ l ∈ verboseLabels s.toSample, Shows l.1 l.2 s.verbose := by
  intro l hl
  rcases List.mem_append.1 hl with hl | hl
  · rcases List.mem_append.1 hl with hl | hl
    · have hcounters : l = ("Processed:   ", s.counts.processed) ∨
          l = ("Success:     ", s.counts.success) ∨ l = ("Failed:      ", s.counts.failed) := by
        simpa using hl
      rcases hcounters with rfl | rfl | rfl
      · exact shows_of_line _ (by simp)
      · exact shows_of_share _ s.successRate (by simp [successText])
      · exact shows_of_share _ s.failureRate (by simp [failedText])
    · have htotal : 0 < s.total ∧ l = ("Total:       ", s.total) := by simpa using hl
      rcases htotal with ⟨hsome, rfl⟩
      exact shows_of_line _ (by simp [ifAny, hsome])
  · have hskipped : 0 < s.counts.skipped ∧ l = ("Skipped:     ", s.counts.skipped) := by
      simpa using hl
    rcases hskipped with ⟨hsome, rfl⟩
    exact shows_of_line _ (by simp [ifAny, hsome])

/-- A line shows what has been processed in front of the other counters, beside the total if that is
known. -/
theorem compact_shows (s : Stats) (redraw : Bool) :
    ∀ l ∈ compactLabels s.toSample, Shows l.1 l.2 (s.compact redraw) := by
  -- in each case the pieces in front of the label are passed over
  have hends : ∀ word rest : String, word.toList.head? = some ' ' → EndsNumber (word ++ rest) :=
    fun _ rest h => endsNumber_append h rfl rest
  intro l hl
  have hlabels := List.mem_append.1 hl
  unfold compact
  by_cases htotal : 0 < s.total
  · have hlabels : (l = (" | Success: ", s.counts.success) ∨ l = (" | Failed: ", s.counts.failed)) ∨
        l = ("Progress: ", s.counts.processed) ∨ l = ("/", s.total) := by
      simpa [htotal] using hlabels
    simp only [htotal, if_true, String.append_assoc]
    rcases hlabels with (rfl | rfl) | rfl | rfl
    · iterate 11 apply Shows.append_left
      exact shows_append (hends _ _ rfl)
    · iterate 13 apply Shows.append_left
      exact shows_append (hends _ _ rfl)
    · iterate 4 apply Shows.append_left
      exact shows_append (endsNumber_append (c := '/') rfl rfl _)
    · iterate 6 apply Shows.append_left
      exact shows_append (hends _ _ rfl)
  · have hlabels : (l = (" | Success: ", s.counts.success) ∨ l = (" | Failed: ", s.counts.failed)) ∨
        l = ("Processed: ", s.counts.processed) := by
      simpa [htotal] using hlabels
    simp only [htotal, if_false, String.append_assoc]
    rcases hlabels with (rfl | rfl) | rfl
    · iterate 6 apply Shows.append_left
      exact shows_append (hends _ _ rfl)
    · iterate 8 apply Shows.append_left
      exact shows_append (hends _ _ rfl)
    · iterate 4 apply Shows.append_left
      exact shows_append (hends _ _ rfl)

end Stats
end RecordFlow
