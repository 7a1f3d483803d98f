import RequestFilter.Text.Reading

/-! # Pieces of texts

What a reader takes off a text, where a run of characters of one class ends, what a
text is that is put together from pieces with something between them, and what the
text of a number consists of.
-/

namespace RequestFilter

/-- A reader gives a value and leaves a rest. -/
def Text.Reads {α : Type} {text : List Char} (read : Option (α × Rest text)) (value : α)
    (rest : List Char) : Prop :=
  ∃ last : Rest text, read = some (value, last) ∧ last.val = rest

/-- The characters of a class that a text begins with, up to the first that is none. -/
theorem takeWhile_append_of_ends {inside : Char → Bool} {run rest : List Char}
    (within : ∀ c ∈ run, inside c = true) (ends : ∀ c ∈ rest.head?, inside c = false) :
    (run ++ rest).takeWhile inside = run := by
  rw [List.takeWhile_append_of_pos within]
  cases rest with
  | nil => rw [List.takeWhile_nil, List.append_nil]
  | cons c rest =>
      have stop : ¬inside c = true := Bool.eq_false_iff.mp (ends c rfl)
      rw [List.takeWhile_cons_of_neg stop, List.append_nil]

/-- What follows a run of characters of a class. -/
theorem dropWhile_append_of_ends {inside : Char → Bool} {run rest : List Char}
    (within : ∀ c ∈ run, inside c = true) (ends : ∀ c ∈ rest.head?, inside c = false) :
    (run ++ rest).dropWhile inside = rest := by
  rw [List.dropWhile_append_of_pos within]
  cases rest with
  | nil => rfl
  | cons c rest => exact List.dropWhile_cons_of_neg (Bool.eq_false_iff.mp (ends c rfl))

theorem toList_intercalate_cons (separator first : String) (items : List String) :
    (separator.intercalate (first :: items)).toList =
      first.toList ++ items.flatMap fun item => separator.toList ++ item.toList := by
  induction items generalizing first with
  | nil => rw [String.intercalate_singleton, List.flatMap_nil, List.append_nil]
  | cons item items ih =>
      rw [String.intercalate_cons_cons, String.toList_append, String.toList_append, ih,
        List.flatMap_cons, List.append_assoc, List.append_assoc]

theorem isDigit_of_mem_toString {number : Nat} :
    ∀ c ∈ (toString number).toList, c.isDigit = true := by
  intro c member
  rw [Nat.toString_eq_repr, Nat.toList_repr] at member
  exact Nat.isDigit_of_mem_toDigits (by decide) (by decide) member

theorem toString_ne_nil (number : Nat) : (toString number).toList ≠ [] := by
  rw [Nat.toString_eq_repr, Nat.toList_repr]
  exact Nat.toDigits_ne_nil

end RequestFilter
