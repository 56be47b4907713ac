import Boundary.Text.Case

/-!
# Words of a name

A name is cut into words at underscores and at humps, where a capital letter starts a new word.

* `segments`: the parts between underscores.
* `humps`: the words of one segment. Digits stay with the word before them, and of several capitals
  before a small letter the last one starts the next word.
* `words`: the words of a whole name.
* `flatten_humps`, `flatten_words`: no character but the underscores is lost.
-/

namespace Boundary.Naming

open Boundary.Text

/-- The parts of a text between underscores. -/
def segments : List Char → List (List Char)
  | [] => [[]]
  | c :: rest =>
    if c = '_' then [] :: segments rest
    else
      match segments rest with
      | s :: ss => (c :: s) :: ss
      | [] => [[c]]

/-- Whether a new word starts at `c`, between the character `before` and perhaps one behind. -/
def startsWord (before c : Char) (behind : Option Char) : Bool :=
  isUpper c &&
    (isLower before || before.isDigit || (isUpper before && behind.any isLower))

/-- The words of a segment. -/
def humps : List Char → List (List Char)
  | [] => []
  | [c] => [[c]]
  | a :: b :: rest =>
    if startsWord a b rest.head? then [a] :: humps (b :: rest)
    else
      match humps (b :: rest) with
      | w :: ws => (a :: w) :: ws
      | [] => [[a]]

/-- A name without the mark of a raw identifier. -/
def bareChars : List Char → List Char
  | 'r' :: '#' :: rest => rest
  | cs => cs

/-- The words of a name. -/
def words (cs : List Char) : List (List Char) := (segments (bareChars cs)).flatMap humps

theorem segments_ne_nil (cs : List Char) : segments cs ≠ [] := by
  fun_cases segments cs <;> simp_all

theorem humps_eq_nil_iff (cs : List Char) : humps cs = [] ↔ cs = [] := by
  fun_cases humps cs <;> simp_all

theorem flatten_humps (cs : List Char) : (humps cs).flatten = cs := by
  fun_induction humps cs with
  | case1 => rfl
  | case2 => rfl
  | case3 a b rest h ih => simpa using ih
  | case4 a b rest h w ws hw ih => simpa [hw] using ih
  | case5 a b rest h hw ih => simp [humps_eq_nil_iff] at hw

theorem flatten_segments (cs : List Char) : (segments cs).flatten = cs.filter (· ≠ '_') := by
  fun_induction segments cs with
  | case1 => rfl
  | case2 rest ih => simpa using ih
  | case3 c rest hc s ss hs ih => simpa [hc, hs] using ih
  | case4 c rest hc hs ih => exact absurd hs (segments_ne_nil rest)

/-- The words of a name, put together, are the name without its underscores. -/
theorem flatten_words (cs : List Char) :
    (words cs).flatten = (bareChars cs).filter (· ≠ '_') := by
  rw [words, ← flatten_segments]
  induction segments (bareChars cs) with
  | nil => rfl
  | cons s ss ih => simp [List.flatMap_cons, flatten_humps, ih]

end Boundary.Naming
