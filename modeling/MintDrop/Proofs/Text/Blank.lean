import Mathlib.Data.List.TakeWhile
import Mathlib.Tactic.Common
import MintDrop.Text.Blank

/-!
# Blanks around a text

`Text.Padded` says that a text is another one with blanks before and after it.  Every text is what trimming leaves of it
with blanks around (`padded_trim`), and a text that neither begins nor ends with a blank is what trimming leaves
(`trimChars_around`).
-/

namespace MintDrop.Text

variable {before cs after : List Char}

theorem trimLeft_of_head? (h : ∀ c ∈ cs.head?, isBlank c = false) : trimLeft cs = cs := by
  cases cs with
  | nil => rfl
  | cons c cs => rw [trimLeft, List.dropWhile_cons_of_neg (by simp [h c rfl])]

theorem trimLeft_append (h : ∀ c ∈ before, isBlank c) : trimLeft (before ++ cs) = trimLeft cs :=
  List.dropWhile_append_of_pos h

theorem exists_trimLeft (cs : List Char) : ∃ before, (∀ c ∈ before, isBlank c) ∧ cs = before ++ trimLeft cs :=
  ⟨cs.takeWhile isBlank, fun _ hc => List.mem_takeWhile_imp hc, List.takeWhile_append_dropWhile.symm⟩

/-- Blanks around characters that neither begin nor end with one are taken away, and nothing else. -/
theorem trimChars_around (hblank : ∀ c ∈ before ++ after, isBlank c) (hhead : ∀ c ∈ cs.head?, isBlank c = false)
    (hlast : ∀ c ∈ cs.getLast?, isBlank c = false) : trimChars (before ++ cs ++ after) = cs := by
  obtain ⟨hbefore, hafter⟩ := List.forall_mem_append.1 hblank
  have hreverse : ∀ c ∈ after.reverse, isBlank c := fun c hc => hafter c (List.mem_reverse.1 hc)
  rw [trimChars, List.append_assoc, trimLeft_append hbefore]
  cases cs with
  | nil =>
      rw [List.nil_append, ← List.append_nil after, trimLeft_append hafter]
      rfl
  | cons c cs =>
      have hstart : trimLeft (c :: cs ++ after) = c :: cs ++ after := trimLeft_of_head? fun d hd => hhead d hd
      rw [hstart, List.reverse_append, trimLeft_append hreverse, trimLeft_of_head?, List.reverse_reverse]
      rwa [List.head?_reverse]

/-! ### Texts -/

/-- Whether a text is another one with blanks before and after it. -/
def Padded (s t : String) : Prop :=
  ∃ before after : List Char, (∀ c ∈ before ++ after, isBlank c) ∧ s.toList = before ++ t.toList ++ after

theorem padded_trim (s : String) : Padded s (trim s) := by
  obtain ⟨before, hbefore, hstart⟩ := exists_trimLeft s.toList
  obtain ⟨after, hafter, hend⟩ := exists_trimLeft (trimLeft s.toList).reverse
  refine ⟨before, after.reverse, fun c hc => ?_, ?_⟩
  · rcases List.mem_append.1 hc with hc | hc
    · exact hbefore c hc
    · exact hafter c (List.mem_reverse.1 hc)
  · have hmiddle := congrArg List.reverse hend
    rw [List.reverse_reverse, List.reverse_append] at hmiddle
    rw [trim, String.toList_ofList, trimChars, List.append_assoc, ← hmiddle]
    exact hstart

/-- Of a text without blanks around which there are some, those are taken away. -/
theorem trim_eq_iff_padded {s t : String} (h : ∀ c ∈ t.toList, isBlank c = false) : trim s = t ↔ Padded s t := by
  constructor
  · rintro rfl
    exact padded_trim s
  · rintro ⟨before, after, hblank, hs⟩
    rw [trim, hs, trimChars_around hblank (fun c hc => h c (List.mem_of_mem_head? hc))
      (fun c hc => h c (List.mem_of_getLast? hc)), String.ofList_toList]

theorem trim_eq_self {s : String} (h : ∀ c ∈ s.toList, isBlank c = false) : trim s = s :=
  (trim_eq_iff_padded h).2 ⟨[], [], fun _ hc => (by cases hc), by simp⟩

end MintDrop.Text
