/-!
# Sets of characters by ranges

The classes of characters that the Unicode standard defines by tables are given here as lists of
ranges of code points.

* `Span`: the code points `first`, `first + step`, … up to `last`.
* `CharSet.contains`: membership in a list of spans.
* `CharSet.contains_iff`, `Span.covers_iff`: membership spelled out as arithmetic on the code point.
* `decidableAllChars`, `decidableSomeChar`: conditions on listed characters are decided along the
  list, and not by going through all characters that there are.
-/

namespace Boundary.Text

/-- The code points from `first` to `last` that differ from `first` by a multiple of `step`. -/
structure Span where
  first : Nat
  last : Nat
  step : Nat := 1
deriving Repr, DecidableEq, Inhabited

/-- Whether the code point `n` lies on the span. -/
def Span.covers (s : Span) (n : Nat) : Bool :=
  s.first ≤ n && n ≤ s.last && (n - s.first) % s.step == 0

theorem Span.covers_iff (s : Span) (n : Nat) :
    s.covers n = true ↔ s.first ≤ n ∧ n ≤ s.last ∧ (n - s.first) % s.step = 0 := by
  simp [Span.covers, and_assoc]

/-- A set of characters: those whose code point lies on one of the spans. -/
abbrev CharSet := List Span

/-- Whether the character belongs to the set. -/
def CharSet.contains (set : CharSet) (c : Char) : Bool :=
  List.any set (·.covers c.toNat)

theorem CharSet.contains_iff (set : CharSet) (c : Char) :
    set.contains c = true ↔ ∃ s ∈ set, s.covers c.toNat = true := by
  simp [CharSet.contains]

/-! ### Conditions on listed characters -/

instance (priority := 2000) decidableAllChars (p : Char → Prop) [DecidablePred p]
    (cs : List Char) : Decidable (∀ c, c ∈ cs → p c) :=
  List.decidableBAll p cs

instance (priority := 2000) decidableSomeChar (p : Char → Prop) [DecidablePred p]
    (cs : List Char) : Decidable (∃ c, c ∈ cs ∧ p c) :=
  List.decidableBEx p cs

instance (priority := 2000) decidableAllOptionChar (p : Char → Prop) [DecidablePred p]
    (c? : Option Char) : Decidable (∀ c, c ∈ c? → p c) :=
  Option.decidableForallMem c?

instance (priority := 2000) decidableSomeOptionChar (p : Char → Prop) [DecidablePred p]
    (c? : Option Char) : Decidable (∃ c, c ∈ c? ∧ p c) :=
  Option.decidableExistsMem c?

end Boundary.Text
