import Boundary.Proofs.Naming.Word
import Boundary.Proofs.Text.Split

/-!
# Lists of arguments in source

A list of arguments ends at the bracket that closes it; commas between brackets that are opened in
it belong to an argument.

* `arguments`: the arguments that some characters start with, and what stands behind them.
* `Closed`: a text that stays in one argument wherever it stands.
* `Enclosed`: a text that stays in one argument between brackets.
* `arguments_intercalate`: arguments that are put together are found again.
* `Application`, `application`: a name with a list of arguments behind it.
-/

namespace Boundary.Text

/-- The brackets that open. -/
def opening : List Char := ['(', '{', '[']

/-- The brackets that close. -/
def closing : List Char := [')', '}', ']']

/-- The arguments up to the bracket that closes the list, where `depth` brackets are open in the
argument under way, of which `part` has been read, and what stands behind the list. -/
def argumentsFrom (depth : Nat) (part : List Char) : List Char → List (List Char) × List Char
  | [] => ([part], [])
  | c :: rest =>
    if c ∈ opening then argumentsFrom (depth + 1) (part ++ [c]) rest
    else if c ∈ closing then
      if depth = 0 then ([part], rest) else argumentsFrom (depth - 1) (part ++ [c]) rest
    else if c = ',' ∧ depth = 0 then
      let (parts, back) := argumentsFrom 0 [] rest
      (part :: parts, back)
    else argumentsFrom depth (part ++ [c]) rest

/-- The arguments that some characters start with, without the blanks between them, and what stands
behind them. -/
def arguments (cs : List Char) : List String × List Char :=
  let (parts, back) := argumentsFrom 0 [] cs
  (parts.map fun part => trimStart (String.ofList part), back)

/-! ## Texts that stay together -/

/-- A text that belongs to the argument under way, wherever it stands. -/
def Closed (s : String) : Prop :=
  ∀ depth part rest,
    argumentsFrom depth part (s.toList ++ rest) = argumentsFrom depth (part ++ s.toList) rest

/-- A text that belongs to the argument under way if a bracket is open. -/
def Enclosed (s : String) : Prop :=
  ∀ depth part rest, argumentsFrom (depth + 1) part (s.toList ++ rest) =
    argumentsFrom (depth + 1) (part ++ s.toList) rest

theorem Closed.append {a b : String} (ha : Closed a) (hb : Closed b) : Closed (a ++ b) := by
  intro depth part rest
  rw [String.toList_append, List.append_assoc, ha, hb, List.append_assoc]

theorem Enclosed.append {a b : String} (ha : Enclosed a) (hb : Enclosed b) : Enclosed (a ++ b) := by
  intro depth part rest
  rw [String.toList_append, List.append_assoc, ha, hb, List.append_assoc]

theorem Closed.enclosed {s : String} (h : Closed s) : Enclosed s := fun depth => h (depth + 1)

/-- The signs that mean something in a list of arguments. -/
def listSigns : List Char := ',' :: opening ++ closing

theorem argumentsFrom_cons_of_notMem {c : Char} (hc : c ∉ listSigns) (depth : Nat)
    (part rest : List Char) :
    argumentsFrom depth part (c :: rest) = argumentsFrom depth (part ++ [c]) rest := by
  simp only [listSigns, List.cons_append, List.mem_cons, List.mem_append, not_or] at hc
  rw [argumentsFrom, if_neg hc.2.1, if_neg hc.2.2, if_neg fun h => hc.1 h.1]

theorem closed_of_notMem {s : String} (h : ∀ c ∈ s.toList, c ∉ listSigns) : Closed s := by
  intro depth part rest
  generalize s.toList = cs at h
  induction cs generalizing part with
  | nil => simp
  | cons c cs ih =>
    rw [List.cons_append, argumentsFrom_cons_of_notMem (h c (by simp)),
      ih _ fun d hd => h d (by simp [hd]), List.append_assoc, List.singleton_append]

theorem Closed.ofList {cs : List Char} (h : ∀ c ∈ cs, c ∉ listSigns) : Closed (String.ofList cs) :=
  closed_of_notMem (by rwa [String.toList_ofList])

theorem closed_of_isWord {s : String} (h : Naming.IsWord s) : Closed s := by
  have hsigns : ∀ c ∈ listSigns, Naming.isWordChar c = false := by decide
  exact closed_of_notMem fun c hc hmem => h.notMem (hsigns c hmem) hc

theorem trimStart_of_isWord {s : String} (h : Naming.IsWord s) : trimStart s = s := by
  refine trimStart_eq_self ?_
  rintro c hc rfl
  exact h.notMem (by decide) (List.mem_of_mem_head? hc)

/-- What stands between brackets stays together. -/
theorem Enclosed.brackets {s : String} (h : Enclosed s) {open_ close : Char}
    (hopen : open_ ∈ opening)
    (hclose : close ∈ closing) : Closed (String.ofList [open_] ++ s ++ String.ofList [close]) := by
  have hdisjoint : ∀ c ∈ closing, c ∉ opening := by decide
  intro depth part rest
  have htext : (String.ofList [open_] ++ s ++ String.ofList [close]).toList =
      open_ :: (s.toList ++ [close]) := by
    simp
  rw [htext, List.cons_append, argumentsFrom, if_pos hopen, List.append_assoc, h,
    List.singleton_append, argumentsFrom, if_neg (hdisjoint close hclose), if_pos hclose,
    if_neg (by omega)]
  simp

/-- A comma between brackets stays in its argument. -/
theorem enclosed_comma : Enclosed "," := by
  have hopen : ',' ∉ opening := by decide
  have hclose : ',' ∉ closing := by decide
  intro depth part rest
  show argumentsFrom (depth + 1) part (',' :: rest) = _
  rw [argumentsFrom, if_neg hopen, if_neg hclose, if_neg (by omega)]
  rfl

/-! ## Lists that have been put together -/

private theorem argumentsFrom_intercalate (part : List Char) (first : String) (args : List String)
    (back : List Char) (h : ∀ a ∈ first :: args, Closed a) :
    argumentsFrom 0 part ((", ".intercalate (first :: args)).toList ++ ')' :: back) =
      ((part ++ first.toList) :: args.map fun a => ' ' :: a.toList, back) := by
  have hopen : ∀ c ∈ [',', ')'], c ∉ opening := by decide
  induction args generalizing first part with
  | nil =>
    rw [String.intercalate_singleton, h first (by simp), argumentsFrom,
      if_neg (hopen ')' (by decide)), if_pos (by decide), if_pos rfl]
    rfl
  | cons second rest ih =>
    have htext : (", ".intercalate (first :: second :: rest)).toList ++ ')' :: back =
        first.toList ++
          ',' :: ' ' :: ((", ".intercalate (second :: rest)).toList ++ ')' :: back) := by
      rw [String.intercalate_cons_cons]
      simp
    have hrest := ih [' '] second fun a ha => h a (by simp_all)
    rw [htext, h first (by simp), argumentsFrom, if_neg (hopen ',' (by decide)),
      if_neg (by decide), if_pos ⟨rfl, rfl⟩, argumentsFrom_cons_of_notMem (by decide),
      List.nil_append, hrest]
    rfl

/-- **Arguments that are put together are found again**, if each of them stays together. Blanks that
an argument starts with get lost. -/
theorem arguments_intercalate {args : List String} (hne : args ≠ []) (back : List Char)
    (hclosed : ∀ a ∈ args, Closed a) :
    arguments ((", ".intercalate args).toList ++ ')' :: back) = (args.map trimStart, back) := by
  obtain ⟨first, rest, rfl⟩ := List.exists_cons_of_ne_nil hne
  have hparts := argumentsFrom_intercalate [] first rest back hclosed
  have hblank (a : String) : trimStart (" " ++ a) = trimStart a := trimStart_append (by simp) a
  rw [arguments, hparts]
  simp [hblank, Function.comp_def]

/-! ## Names with arguments -/

/-- A name with a list of arguments, and what stands behind it. -/
structure Application where
  name : String
  args : List String
  back : List Char
deriving Repr, DecidableEq

/-- The name that some characters start with, with its arguments. -/
def application (cs : List Char) : Application :=
  let (args, back) := arguments ((cs.dropWhile (· ≠ '(')).drop 1)
  ⟨String.ofList (cs.takeWhile (· ≠ '(')), args, back⟩

theorem application_eq {name : String} {args : List String} (hname : '(' ∉ name.toList)
    (hne : args ≠ []) (back : List Char) (hclosed : ∀ a ∈ args, Closed a) :
    application (name.toList ++ '(' :: ((", ".intercalate args).toList ++ ')' :: back)) =
      ⟨name, args.map trimStart, back⟩ := by
  have hbefore : ∀ c ∈ name.toList, decide (c ≠ '(') = true := by
    intro c hc
    simpa using ne_of_mem_of_not_mem hc hname
  rw [application, List.takeWhile_append_of_pos hbefore, List.dropWhile_append_of_pos hbefore,
    List.takeWhile_cons_of_neg (by simp), List.dropWhile_cons_of_neg (by simp),
    List.drop_one, List.tail_cons, arguments_intercalate hne back hclosed,
    List.append_nil, String.ofList_toList]

end Boundary.Text
