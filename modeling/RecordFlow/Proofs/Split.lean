/-!
# Split — what a piece of a text has from it

A text that is split at a separator has its characters in the pieces: each of them comes from the
text (`Split.mem_of_mem`), and none of them is the separator (`Split.notMem_of_mem`).
-/

namespace RecordFlow
namespace Split

variable {separator c : Char} {cs piece : List Char}

/-- No separator is left in a piece. -/
theorem notMem_of_mem (h : piece ∈ cs.splitOn separator) : separator ∉ piece := by
  induction cs generalizing piece with
  | nil =>
    rw [List.splitOn_nil, List.mem_singleton] at h
    rw [h]
    exact List.not_mem_nil
  | cons first rest ih =>
    rw [List.splitOn_cons_eq_if_modifyHead] at h
    split at h
    case isTrue =>
      rcases List.mem_cons.1 h with rfl | hrest
      · exact List.not_mem_nil
      · exact ih hrest
    case isFalse hother =>
      -- a character that does not separate joins the piece behind it
      rcases List.exists_cons_of_ne_nil (List.splitOn_ne_nil separator rest) with
        ⟨joined, others, hpieces⟩
      rw [hpieces, List.modifyHead_cons] at h
      rcases List.mem_cons.1 h with rfl | hothers
      · intro hmem
        rcases List.mem_cons.1 hmem with rfl | hjoined
        · exact hother (beq_self_eq_true _)
        · exact ih (hpieces ▸ List.mem_cons_self) hjoined
      · exact ih (hpieces ▸ List.mem_cons_of_mem _ hothers)

theorem mem_intercalate {pieces : List (List Char)} (h : piece ∈ pieces) (hc : c ∈ piece) :
    c ∈ [separator].intercalate pieces := by
  induction pieces with
  | nil => cases h
  | cons first rest ih =>
    cases rest with
    | nil =>
      rw [List.mem_singleton.1 h] at hc
      simpa using hc
    | cons second rest =>
      rw [List.intercalate_cons_cons]
      simp only [List.mem_append]
      rcases List.mem_cons.1 h with rfl | hrest
      · exact .inl (.inl hc)
      · exact .inr (ih hrest)

/-- The pieces with the separators between them are the text. -/
theorem mem_of_mem (h : piece ∈ cs.splitOn separator) (hc : c ∈ piece) : c ∈ cs := by
  have htext : [separator].intercalate (cs.splitOn separator) = cs :=
    List.intercalate_splitOn separator
  rw [← htext]
  exact mem_intercalate h hc

end Split
end RecordFlow
