/-!
# Parts of a text

* `split`: the parts of a text between separators; there is always one more part than there are
  separators.
* `intercalate_splitChars`: put together again, the parts give the text.
-/

namespace Boundary.Text

/-- The parts of the characters between separators. -/
def splitChars (separator : Char) : List Char → List (List Char)
  | [] => [[]]
  | c :: rest =>
    if c = separator then [] :: splitChars separator rest
    else
      match splitChars separator rest with
      | [] => [[c]]
      | part :: parts => (c :: part) :: parts

/-- The parts of a text between separators. -/
def split (separator : Char) (s : String) : List String :=
  (splitChars separator s.toList).map String.ofList

theorem splitChars_ne_nil (separator : Char) (cs : List Char) : splitChars separator cs ≠ [] := by
  fun_cases splitChars separator cs <;> simp

/-- Put together again, the parts give the text. -/
theorem intercalate_splitChars (separator : Char) (cs : List Char) :
    [separator].intercalate (splitChars separator cs) = cs := by
  fun_induction splitChars separator cs with
  | case1 => rfl
  | case2 rest ih =>
    obtain ⟨part, parts, e⟩ := List.exists_cons_of_ne_nil (splitChars_ne_nil separator rest)
    rw [e] at ih ⊢
    simp [List.intercalate_cons_cons, ih]
  | case3 c rest h e ih => exact absurd e (splitChars_ne_nil separator rest)
  | case4 c rest h part parts e ih =>
    rw [e] at ih
    cases parts with
    | nil => simpa using ih
    | cons p ps => simpa [List.intercalate_cons_cons] using ih

theorem not_mem_of_mem_splitChars {separator : Char} {cs part : List Char}
    (h : part ∈ splitChars separator cs) : separator ∉ part := by
  fun_induction splitChars separator cs generalizing part with
  | case1 => simp_all
  | case2 rest ih =>
    rcases List.mem_cons.1 h with rfl | h
    · simp
    · exact ih h
  | case3 c rest hc e ih => exact absurd e (splitChars_ne_nil separator rest)
  | case4 c rest hc part' parts e ih =>
    rw [e] at ih
    rcases List.mem_cons.1 h with rfl | h
    · simpa [Ne.symm hc] using ih (List.mem_cons_self ..)
    · exact ih (List.mem_cons_of_mem _ h)

end Boundary.Text
