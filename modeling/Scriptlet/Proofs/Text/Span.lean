/-! # Characters of a class

Words, numbers and comments go as far as characters of their class do.  Such a piece is taken off a
text as a whole, if what follows it does not start with another character of the class.

Main statements: `takeWhile_append_longest` for a piece that is given, `head?_dropWhile` for what
follows a piece that is taken. -/

namespace Scriptlet.Text

variable {belongs : Char → Bool}

/-- Characters of a class are taken off a text, and what follows them stays, if it does not go on with
the class. -/
theorem takeWhile_append_longest {raw rest : List Char}
    (all : ∀ character ∈ raw, belongs character = true)
    (longest : ∀ next ∈ rest.head?, belongs next = false) :
    (raw ++ rest).takeWhile belongs = raw ∧ (raw ++ rest).dropWhile belongs = rest := by
  rw [List.takeWhile_append_of_pos all, List.dropWhile_append_of_pos all]
  cases rest with
  | nil => simp
  | cons next rest => simp [longest next rfl]

/-- What follows the characters of a class does not start with one of them. -/
theorem head?_dropWhile {text : List Char} :
    ∀ next ∈ (text.dropWhile belongs).head?, belongs next = false := by
  intro next mem
  have := List.head?_dropWhile_not belongs text
  rw [Option.mem_def.mp mem] at this
  simpa using this

end Scriptlet.Text
