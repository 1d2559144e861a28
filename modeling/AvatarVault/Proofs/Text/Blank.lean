import Mathlib.Data.List.TakeWhile
import AvatarVault.Text.Blank
/-!
Blanks around a text: a text is what is left of it and blanks at either end (`exists_blanks`), and
blanks around a text without blanks are all that is taken off (`trimChars_append`).
-/
namespace AvatarVault

/-- A text is what is left of it and the blanks at either end. -/
theorem exists_blanks (cs : List Char) :
    ∃ before after, (∀ c ∈ before ++ after, isBlank c = true) ∧
      cs = before ++ trimChars cs ++ after := by
  have back : cs.dropWhile isBlank
      = trimChars cs ++ ((cs.dropWhile isBlank).reverse.takeWhile isBlank).reverse := by
    rw [trimChars, ← List.reverse_append, List.takeWhile_append_dropWhile, List.reverse_reverse]
  refine ⟨cs.takeWhile isBlank, ((cs.dropWhile isBlank).reverse.takeWhile isBlank).reverse, ?_, ?_⟩
  · intro c mem
    rcases List.mem_append.mp mem with mem | mem
    · exact List.mem_takeWhile_imp mem
    · exact List.mem_takeWhile_imp (List.mem_reverse.mp mem)
  · rw [List.append_assoc, ← back, List.takeWhile_append_dropWhile]

theorem dropWhile_isBlank {cs : List Char} (solid : ∀ c ∈ cs, isBlank c = false) :
    cs.dropWhile isBlank = cs := by
  cases cs with
  | nil => rfl
  | cons c cs => exact List.dropWhile_cons_of_neg (by simp [solid c List.mem_cons_self])

/-- Blanks around a text without blanks are all that is taken off. -/
theorem trimChars_append {before cs after : List Char}
    (around : ∀ c ∈ before ++ after, isBlank c = true) (solid : ∀ c ∈ cs, isBlank c = false) :
    trimChars (before ++ cs ++ after) = cs := by
  have first : ∀ c ∈ before, isBlank c = true := fun c mem => around c (List.mem_append_left _ mem)
  have last : ∀ c ∈ after, isBlank c = true := fun c mem => around c (List.mem_append_right _ mem)
  rw [trimChars, List.append_assoc, List.dropWhile_append_of_pos first]
  cases cs with
  | nil => simp [List.dropWhile_eq_nil_iff.mpr last]
  | cons c cs =>
    rw [List.cons_append, List.dropWhile_cons_of_neg (by simp [solid c List.mem_cons_self]),
      ← List.cons_append, List.reverse_append,
      List.dropWhile_append_of_pos (fun d mem => last d (List.mem_reverse.mp mem)),
      dropWhile_isBlank (fun d mem => solid d (List.mem_reverse.mp mem)), List.reverse_reverse]

end AvatarVault
