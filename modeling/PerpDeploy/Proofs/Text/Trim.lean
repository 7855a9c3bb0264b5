/-
What trimming leaves of a text: the part between the blanks at its two ends. It is determined by
that, and it is empty exactly for a text of blanks.
-/

import Mathlib.Data.List.DropRight
import PerpDeploy.Text.Blank

namespace PerpDeploy.Text

/-- Around the core of a text there are blanks only, and the core neither starts nor ends with
one. -/
structure Trimmed (text core : String) : Prop where
  framed : ∃ front back, text.toList = front ++ (core.toList ++ back) ∧
    (∀ c ∈ front, isBlank c = true) ∧ ∀ c ∈ back, isBlank c = true
  starts : ∀ c ∈ core.toList.head?, isBlank c = false
  ends : ∀ c ∈ core.toList.getLast?, isBlank c = false

theorem toList_trim (text : String) :
    (trim text).toList = (text.toList.dropWhile isBlank).rdropWhile isBlank := by
  rw [trim, String.toList_ofList]
  rfl

theorem trimmed_trim (text : String) : Trimmed text (trim text) where
  framed := by
    refine ⟨text.toList.takeWhile isBlank, (text.toList.dropWhile isBlank).rtakeWhile isBlank, ?_,
      fun c => List.mem_takeWhile_imp, fun c => List.mem_rtakeWhile_imp⟩
    rw [toList_trim, List.rdropWhile_append_rtakeWhile, List.takeWhile_append_dropWhile]
  starts c first := by
    obtain ⟨back, split⟩ := List.rdropWhile_prefix isBlank (text.toList.dropWhile isBlank)
    rw [← toList_trim] at split
    have same : (text.toList.dropWhile isBlank).head? = some c := by
      rw [← split, List.head?_append, Option.mem_def.mp first, Option.some_or]
    have stopped := List.head?_dropWhile_not isBlank text.toList
    rw [same] at stopped
    exact stopped
  ends c last := by
    rw [toList_trim] at last
    obtain ⟨nonempty, rfl⟩ := List.mem_getLast?_eq_getLast last
    exact Bool.eq_false_iff.mpr (List.rdropWhile_last_not isBlank _ nonempty)

theorem Trimmed.eq_trim {text core : String} (trimmed : Trimmed text core) :
    trim text = core := by
  obtain ⟨front, back, split, leading, trailing⟩ := trimmed.framed
  apply String.toList_inj.mp
  rw [toList_trim, split, List.dropWhile_append_of_pos leading]
  cases chars : core.toList with
  | nil =>
      rw [List.nil_append, List.dropWhile_eq_nil_iff.mpr trailing, List.rdropWhile_nil]
  | cons first rest =>
      have starts : isBlank first = false := trimmed.starts first (by rw [chars]; rfl)
      have stays : (first :: rest).rdropWhile isBlank = first :: rest := by
        rw [List.rdropWhile_eq_self_iff]
        intro nonempty
        rw [trimmed.ends _ (by rw [chars]; exact List.getLast?_eq_some_getLast nonempty)]
        exact Bool.false_ne_true
      rw [List.cons_append, List.dropWhile_cons_of_neg (by rw [starts]; exact Bool.false_ne_true),
        ← List.cons_append, List.rdropWhile, List.reverse_append, List.dropWhile_append_of_pos]
      · exact stays
      · exact fun c member => trailing c (List.mem_reverse.mp member)

theorem trim_eq_iff {text core : String} : trim text = core ↔ Trimmed text core := by
  constructor
  · rintro rfl
    exact trimmed_trim text
  · exact Trimmed.eq_trim

theorem trim_eq_empty_iff {text : String} :
    trim text = "" ↔ ∀ c ∈ text.toList, isBlank c = true := by
  rw [trim_eq_iff]
  constructor
  · rintro ⟨⟨front, back, split, leading, trailing⟩, -, -⟩ c member
    rw [split, String.toList_empty, List.nil_append, List.mem_append] at member
    exact member.elim (leading c) (trailing c)
  · intro blank
    exact
      { framed := ⟨text.toList, [], by simp, blank, List.forall_mem_nil _⟩
        starts := by simp
        ends := by simp }

end PerpDeploy.Text
