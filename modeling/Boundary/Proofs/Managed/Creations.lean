import Mathlib.Data.List.DropRight
import Boundary.Proofs.Managed.Levels
import Boundary.Proofs.Managed.Support
import Boundary.Proofs.Managed.Types

/-!
# What managed code creates

The names of the types that managed code creates values of, read off its lines: those that stand
behind the word `new`.

* `creations`, `creationsOf`: the names in a line, and those in some code.
* `Settled`: what stands around a blank decides which option is created there.
* `CreatesOnly`: wherever a text stands, it creates certain options only.
* `OnlyCreates`: the same of code.
-/

namespace Boundary.Managed

open Source Text

/-! ## Reading -/

/-- The word that stands before the name of a type that a value is created of. -/
def newWord : List Char := ['n', 'e', 'w']

/-- What stands before and behind each blank, where `before` stands before everything. -/
def aroundBlanks (before : List Char) : List Char → List (List Char × List Char)
  | [] => []
  | c :: rest =>
    if c = ' ' then (before, rest) :: aroundBlanks (before ++ [c]) rest
    else aroundBlanks (before ++ [c]) rest

/-- The names behind the word `new` in a line. Nothing in a comment is created. -/
def creations (line : String) : List String :=
  if ['/', '/'] <+: line.toList then []
  else (aroundBlanks [] line.toList).filterMap fun (before, behind) =>
    if before.rtakeWhile Naming.isWordChar = newWord then
      some (String.ofList (behind.takeWhile Naming.isWordChar))
    else none

/-- The names of the types that some code creates values of. -/
def creationsOf (code : List Code) : List String := (Code.textsAll code).flatMap creations

theorem mem_aroundBlanks_iff {before cs x y : List Char} :
    (x, y) ∈ aroundBlanks before cs ↔ ∃ front, cs = front ++ ' ' :: y ∧ x = before ++ front := by
  induction cs generalizing before with
  | nil => simp [aroundBlanks]
  | cons c rest ih =>
    have hbehind : (∃ front, rest = front ++ ' ' :: y ∧ x = before ++ [c] ++ front) ↔
        ∃ front, c :: rest = c :: front ++ ' ' :: y ∧ x = before ++ c :: front := by
      simp
    unfold aroundBlanks
    split
    · rename_i hc
      subst hc
      rw [List.mem_cons, ih, hbehind, Prod.mk.injEq]
      constructor
      · rintro (⟨rfl, rfl⟩ | ⟨front, hcs, hx⟩)
        · exact ⟨[], rfl, (List.append_nil _).symm⟩
        · exact ⟨_, hcs, hx⟩
      · rintro ⟨front, hcs, hx⟩
        cases front with
        | nil =>
          obtain ⟨-, rfl⟩ := List.cons.inj hcs
          exact .inl ⟨by simpa using hx, rfl⟩
        | cons d front =>
          obtain ⟨rfl, hrest⟩ := List.cons.inj hcs
          exact .inr ⟨front, by rw [hrest]; rfl, hx⟩
    · rename_i hc
      rw [ih, hbehind]
      constructor
      · rintro ⟨front, hcs, hx⟩
        exact ⟨_, hcs, hx⟩
      · rintro ⟨front, hcs, hx⟩
        cases front with
        | nil => exact absurd (List.cons.inj hcs).1 hc
        | cons d front =>
          obtain ⟨rfl, hrest⟩ := List.cons.inj hcs
          exact ⟨front, by rw [hrest]; rfl, hx⟩

theorem mem_creations_iff {line name : String} (h : ¬ ['/', '/'] <+: line.toList) :
    name ∈ creations line ↔ ∃ before behind, line.toList = before ++ ' ' :: behind ∧
      before.rtakeWhile Naming.isWordChar = newWord ∧
      name = String.ofList (behind.takeWhile Naming.isWordChar) := by
  rw [creations, if_neg h, List.mem_filterMap]
  constructor
  · rintro ⟨⟨before, behind⟩, hmem, hname⟩
    obtain ⟨front, hline, hbefore⟩ := mem_aroundBlanks_iff.mp hmem
    rw [List.nil_append] at hbefore
    subst hbefore
    dsimp only at hname
    split at hname
    · rename_i hnew
      exact ⟨before, behind, hline, hnew, (Option.some.inj hname).symm⟩
    · cases hname
  · rintro ⟨before, behind, hline, hnew, hname⟩
    exact ⟨(before, behind), mem_aroundBlanks_iff.mpr ⟨before, hline, rfl⟩,
      by simp only [hnew, hname, if_true]⟩

/-! ## Texts that create certain options only -/

/-- Whatever stands before these signs, they do not end in the word `new`. -/
def EndsOther (x : List Char) : Prop :=
  ∀ front : List Char, (front ++ x).rtakeWhile Naming.isWordChar ≠ newWord

/-- Whatever stands behind these signs, they do not start like the name of an option. -/
def StartsNoOption (y : List Char) : Prop := ∀ back, ¬ optionPrefix.toList <+: y ++ back

/-- What stands before or behind a blank decides that no option is created there, or else which
one. -/
inductive Settled (p : String → Prop) (x y : List Char) : Prop
  | otherWord (h : EndsOther x)
  | noOption (h : StartsNoOption y)
  | named {name : String} {c : Char} {back : List Char} (hy : y = name.toList ++ c :: back)
    (hname : Naming.IsWord name) (hend : Naming.isWordChar c = false)
    (hp : optionPrefix.toList <+: name.toList → p name)

/-- Wherever the text stands, the options that it creates are certain ones. -/
def CreatesOnly (p : String → Prop) (t : String) : Prop :=
  ∀ x y, t.toList = x ++ ' ' :: y → Settled p x y

/-- The options that some code creates are certain ones. -/
def OnlyCreates (p : String → Prop) (code : List Code) : Prop :=
  ∀ name ∈ creationsOf code, optionPrefix.toList <+: name.toList → p name

variable {p : String → Prop}

/-- What stands further away does not matter. -/
theorem Settled.extend {x y : List Char} (h : Settled p x y) (front back : List Char) :
    Settled p (front ++ x) (y ++ back) := by
  cases h with
  | otherWord hx => exact .otherWord fun first => List.append_assoc first front x ▸ hx _
  | noOption hy => exact .noOption fun last => (List.append_assoc y back last).symm ▸ hy _
  | named hy hname hend hp =>
    rename_i name c rest
    have hfar : y ++ back = name.toList ++ c :: (rest ++ back) := by
      rw [hy, List.append_assoc]
      rfl
    exact .named hfar hname hend hp

/-- **The options that a line creates are those of its text.** -/
theorem CreatesOnly.of_mem {line name : String} (h : CreatesOnly p line)
    (hname : name ∈ creations line) (hcalled : optionPrefix.toList <+: name.toList) : p name := by
  have hcomment : ¬ ['/', '/'] <+: line.toList := by
    intro hcomment
    rw [creations, if_pos hcomment] at hname
    cases hname
  obtain ⟨x, y, hline, hnew, rfl⟩ := (mem_creations_iff hcomment).mp hname
  rw [String.toList_ofList] at hcalled
  cases h x y hline with
  | otherWord hx => exact absurd hnew (hx [])
  | noOption hy =>
    refine absurd (hcalled.trans (List.takeWhile_prefix _)) ?_
    simpa using hy []
  | named hy hword hend hp =>
    rename_i created c back
    have htake : y.takeWhile Naming.isWordChar = created.toList := by
      rw [hy, List.takeWhile_append_of_pos hword, List.takeWhile_cons_of_neg (by simp [hend]),
        List.append_nil]
    rw [htake] at hcalled ⊢
    rw [String.ofList_toList]
    exact hp hcalled

/-! ### Putting texts together -/

theorem CreatesOnly.of_notMem {t : String} (h : ' ' ∉ t.toList) : CreatesOnly p t := by
  intro x y hxy
  rw [hxy] at h
  simp at h

private theorem createsOnly_of_compact {t : String} (h : Compact t) : CreatesOnly p t :=
  .of_notMem (h.notMem (by simp))

theorem createsOnly_of_isWord {t : String} (h : Naming.IsWord t) : CreatesOnly p t :=
  createsOnly_of_compact (compact_of_isWord h)

theorem CreatesOnly.append {a b : String} (ha : CreatesOnly p a) (hb : CreatesOnly p b) :
    CreatesOnly p (a ++ b) := by
  intro x y hxy
  rw [String.toList_append] at hxy
  -- The blank stands in one of the texts.
  rcases List.append_eq_append_iff.mp hxy with ⟨front, rfl, hb'⟩ | ⟨back, ha', hy⟩
  · simpa using (hb front y hb').extend a.toList []
  · cases back with
    | nil =>
      rw [List.append_nil] at ha'
      subst ha'
      simpa using (hb [] y hy.symm).extend a.toList []
    | cons c back =>
      obtain ⟨rfl, rfl⟩ := List.cons.inj hy
      exact (ha x back ha').extend [] b.toList

/-- A blank between two texts. -/
theorem CreatesOnly.blank {a b : String} (ha : CreatesOnly p a) (hb : CreatesOnly p b)
    (h : Settled p a.toList b.toList) : CreatesOnly p (a ++ " " ++ b) := by
  have hblank : (" " : String).toList = [' '] := rfl
  intro x y hxy
  rw [String.toList_append, String.toList_append, List.append_assoc, hblank] at hxy
  rcases List.append_eq_append_iff.mp hxy with ⟨front, rfl, hrest⟩ | ⟨back, ha', hy⟩
  · cases front with
    | nil =>
      obtain ⟨-, rfl⟩ := List.cons.inj hrest
      simpa using h
    | cons c front =>
      obtain ⟨rfl, hb'⟩ := List.cons.inj hrest
      simpa using (hb front y hb').extend (a.toList ++ [' ']) []
  · cases back with
    | nil =>
      obtain ⟨-, rfl⟩ := List.cons.inj hy
      rw [List.append_nil] at ha'
      exact ha' ▸ h
    | cons c back =>
      obtain ⟨rfl, rfl⟩ := List.cons.inj hy
      simpa using (ha x back ha').extend [] (' ' :: b.toList)

theorem CreatesOnly.intercalate {between : String} {parts : List String}
    (hbetween : CreatesOnly p between) (h : ∀ part ∈ parts, CreatesOnly p part) :
    CreatesOnly p (between.intercalate parts) := by
  induction parts with
  | nil => exact .of_notMem List.not_mem_nil
  | cons first rest ih =>
    rw [List.forall_mem_cons] at h
    cases rest with
    | nil =>
      rw [String.intercalate_singleton]
      exact h.1
    | cons second rest =>
      rw [String.intercalate_cons_cons]
      exact (h.1.append hbetween).append (ih h.2)

/-! ### Fixed texts -/

theorem endsOther_of {x : List Char} (hword : x.rtakeWhile Naming.isWordChar ≠ newWord)
    (hsuffix : ¬ x <:+ newWord) : EndsOther x := by
  intro front hnew
  by_cases hall : ∀ c ∈ x, Naming.isWordChar c = true
  · -- The last word goes on before `x`.
    refine hsuffix ?_
    rw [← hnew, List.rtakeWhile, List.reverse_append,
      List.takeWhile_append_of_pos (by simpa using hall), List.reverse_append, List.reverse_reverse]
    exact List.suffix_append _ _
  · refine hword ?_
    have hshort : (x.reverse.takeWhile Naming.isWordChar).length ≠ x.reverse.length := by
      intro hlength
      refine hall ?_
      rw [← List.rtakeWhile_eq_self_iff, List.rtakeWhile,
        (List.takeWhile_prefix _).eq_of_length hlength, List.reverse_reverse]
    rw [← hnew, List.rtakeWhile, List.rtakeWhile, List.reverse_append, List.takeWhile_append,
      if_neg hshort]

private theorem startsNoOption_of_apart {y : List Char} (h : Apart optionPrefix.toList y) :
    StartsNoOption y := by
  intro back hcalled
  exact (List.prefix_or_prefix_of_prefix hcalled (List.prefix_append y back)).elim h.1 h.2

/-- A text that creates no option, wherever it stands. -/
def Calm (cs : List Char) : Prop :=
  ∀ around ∈ aroundBlanks [] cs,
    (around.1.rtakeWhile Naming.isWordChar ≠ newWord ∧ ¬ around.1 <:+ newWord) ∨
      Apart optionPrefix.toList around.2

instance (cs : List Char) : Decidable (Calm cs) :=
  inferInstanceAs (Decidable (∀ around ∈ aroundBlanks [] cs, _))

theorem CreatesOnly.ofList {cs : List Char} (h : Calm cs) : CreatesOnly p (String.ofList cs) := by
  intro x y hxy
  rw [String.toList_ofList] at hxy
  rcases h (x, y) (mem_aroundBlanks_iff.mpr ⟨x, hxy, rfl⟩) with ⟨hword, hsuffix⟩ | hapart
  · exact .otherWord (endsOther_of hword hsuffix)
  · exact .noOption (startsNoOption_of_apart hapart)

/-! ## Code -/

theorem creationsOf_append (a b : List Code) :
    creationsOf (a ++ b) = creationsOf a ++ creationsOf b := by
  rw [creationsOf, Code.textsAll_append, List.flatMap_append]
  rfl

theorem creationsOf_declared (header : String) (body : List Code) :
    creationsOf (declared header body) =
      creations header ++ (creations "\x7b" ++ (creationsOf body ++ creations "\x7d")) := by
  simp [creationsOf, declared, level, Code.textsAll, Code.textsAll_append, Code.texts]

section Members

variable {name : String}

theorem mem_creationsOf_left {a : List Code} (h : name ∈ creationsOf a) (b : List Code) :
    name ∈ creationsOf (a ++ b) := by
  rw [creationsOf_append]
  exact List.mem_append_left _ h

theorem mem_creationsOf_right {b : List Code} (h : name ∈ creationsOf b) (a : List Code) :
    name ∈ creationsOf (a ++ b) := by
  rw [creationsOf_append]
  exact List.mem_append_right _ h

theorem mem_creationsOf_flatMap {β : Type} {f : β → List Code} {bs : List β} {b : β} (hb : b ∈ bs)
    (h : name ∈ creationsOf (f b)) : name ∈ creationsOf (bs.flatMap f) := by
  obtain ⟨front, back, rfl⟩ := List.append_of_mem hb
  rw [List.flatMap_append, List.flatMap_cons]
  exact mem_creationsOf_right (mem_creationsOf_left h _) _

theorem mem_creationsOf_declared {header : String} {body : List Code}
    (h : name ∈ creationsOf body) : name ∈ creationsOf (declared header body) := by
  rw [creationsOf_declared]
  simp [h]

end Members

theorem onlyCreates_nil : OnlyCreates p [] := by
  intro name hname
  cases hname

theorem OnlyCreates.append {a b : List Code} (ha : OnlyCreates p a) (hb : OnlyCreates p b) :
    OnlyCreates p (a ++ b) := by
  intro name hname
  rw [creationsOf_append, List.mem_append] at hname
  exact hname.elim (ha name) (hb name)

theorem OnlyCreates.flatMap {β : Type} {f : β → List Code} {bs : List β}
    (h : ∀ b ∈ bs, OnlyCreates p (f b)) : OnlyCreates p (bs.flatMap f) := by
  induction bs with
  | nil => exact onlyCreates_nil
  | cons b rest ih =>
    rw [List.forall_mem_cons] at h
    rw [List.flatMap_cons]
    exact h.1.append (ih h.2)

theorem OnlyCreates.map {β : Type} {f : β → Code} {bs : List β}
    (h : ∀ b ∈ bs, OnlyCreates p [f b]) : OnlyCreates p (bs.map f) := by
  rw [List.map_eq_flatMap]
  exact OnlyCreates.flatMap h

theorem creationsOf_line (text : String) : creationsOf [.line text] = creations text := by
  rw [creationsOf, Code.textsAll, Code.texts, Code.textsAll, List.append_nil]
  exact List.flatMap_singleton _ _

theorem CreatesOnly.line {text : String} (h : CreatesOnly p text) : OnlyCreates p [.line text] := by
  intro name hname
  rw [creationsOf_line] at hname
  exact h.of_mem hname

/-- Nothing is created in a comment, whatever it says. -/
theorem onlyCreates_comment {text : String} (h : ['/', '/'] <+: text.toList) :
    OnlyCreates p [.line text] := by
  intro name hname
  rw [creationsOf_line, creations, if_pos h] at hname
  cases hname

theorem onlyCreates_blank : OnlyCreates p [.blank] := by
  intro name hname
  cases hname

theorem OnlyCreates.lines {texts : List String} (h : ∀ text ∈ texts, CreatesOnly p text) :
    OnlyCreates p (lines texts) :=
  .map fun text htext => (h text htext).line

theorem OnlyCreates.declared {header : String} {body : List Code} (hheader : CreatesOnly p header)
    (hbody : OnlyCreates p body) : OnlyCreates p (declared header body) := by
  have hopen : CreatesOnly p "\x7b" := .ofList (by decide)
  have hclose : CreatesOnly p "\x7d" := .ofList (by decide)
  intro name hname
  rw [creationsOf_declared] at hname
  simp only [List.mem_append] at hname
  rcases hname with hname | hname | hname | hname
  · exact hheader.of_mem hname
  · exact hopen.of_mem hname
  · exact hbody name hname
  · exact hclose.of_mem hname

theorem OnlyCreates.spaced {parts : List (List Code)} (h : ∀ code ∈ parts, OnlyCreates p code) :
    OnlyCreates p (spaced parts) :=
  .flatMap fun code hcode => onlyCreates_blank.append (h code hcode)

end Boundary.Managed
