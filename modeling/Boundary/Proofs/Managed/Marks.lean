import Mathlib.Data.List.Basic
import Boundary.Managed.Source
import Boundary.Proofs.Source.Reading
import Boundary.Proofs.Text.Arguments

/-!
# Native functions in managed files

How a managed file refers to native functions, read off its lines: it declares each one with the
symbol that it is imported by, and calls it in a statement that consists of the call, or that binds
or assigns its result.

* `Import`, `Mark`, `markOf?`: what a line says about native functions.
* `IsQuiet`, `unread_ofList`: what lines start with that say nothing about them.
* `Binding`, `markOf?_callText`: calls.
* `EntryPoint.importMarks`, `reads_importCode`: the declaration of an entry point.
-/

namespace Boundary

namespace Managed

open Source Text

/-! ## Reading -/

/-- A function as `NativeMethods` declares it. Each of `params` has its type before its name. -/
structure Import where
  name : String
  params : List String
  ret : String
deriving Repr, DecidableEq

/-- What a line says about native functions, as `markOf?` reads it. -/
inductive Mark
  /-- The function that follows is imported by `symbol`. -/
  | entry (symbol : String)
  | declared (i : Import)
  | call (a : Application)
deriving Repr, DecidableEq

/-- What the attribute of an imported function starts with: `[DllImport(`. -/
def entryMark : List Char := ['[', 'D', 'l', 'l', 'I', 'm', 'p', 'o', 'r', 't', '(']

/-- What the declaration of an imported function starts with: `internal static extern` and a
blank. -/
def externMark : List Char :=
  ['i', 'n', 't', 'e', 'r', 'n', 'a', 'l', ' ', 's', 't', 'a', 't', 'i', 'c', ' ', 'e', 'x', 't',
    'e', 'r', 'n', ' ']

/-- What a call of an imported function starts with: `NativeMethods.`. -/
def callMark : List Char :=
  ['N', 'a', 't', 'i', 'v', 'e', 'M', 'e', 't', 'h', 'o', 'd', 's', '.']

/-- What introduces a variable: `var` and a blank. -/
def varMark : List Char := ['v', 'a', 'r', ' ']

/-- What stands between a variable and its value, behind `varMark` and a name. -/
def assignMark : List Char := [' ', '=', ' ']

/-- The symbol in a `DllImport` attribute: what stands between the first quotation marks. -/
def symbolOf (cs : List Char) : String :=
  String.ofList (((cs.dropWhile (· ≠ '"')).drop 1).takeWhile (· ≠ '"'))

/-- The function that is declared by the characters `cs` behind `externMark`. -/
def importOf (cs : List Char) : Import :=
  let a := application ((cs.dropWhile (· ≠ ' ')).drop 1)
  ⟨a.name, a.args, String.ofList (cs.takeWhile (· ≠ ' '))⟩

/-- What stands behind `callMark`, if the statement `cs` calls an imported function. The call may
stand behind the variable for its result. -/
def behindCall? (cs : List Char) : Option (List Char) :=
  match cs.dropPrefix? callMark with
  | some rest => some rest
  | none =>
    let statement := (cs.dropPrefix? varMark).getD cs
    (statement.dropWhile Naming.isWordChar).dropPrefix? (assignMark ++ callMark)

/-- What `line` says about native functions, if it says anything: an attribute with `symbolOf`, a
declaration with `importOf`, a call with `behindCall?`. -/
def markOf? (line : String) : Option Mark :=
  match line.toList.dropPrefix? entryMark with
  | some rest => some (.entry (symbolOf rest))
  | none =>
    match line.toList.dropPrefix? externMark with
    | some rest => some (.declared (importOf rest))
    | none => (behindCall? line.toList).map fun rest => .call (application rest)

theorem markOf?_empty : markOf? "" = none := rfl

/-! ## Lines that say nothing -/

/-- Neither `a` nor `b` starts with the other. -/
def Apart (a b : List Char) : Prop := ¬ a <+: b ∧ ¬ b <+: a

instance (a b : List Char) : Decidable (Apart a b) := by unfold Apart; infer_instance

theorem dropPrefix?_eq_none_of_apart {mark front : List Char} (h : Apart mark front)
    (back : List Char) : (front ++ back).dropPrefix? mark = none := by
  rw [Option.eq_none_iff_forall_ne_some]
  intro rest hrest
  obtain ⟨mark', hline, hmark⟩ := List.dropPrefix?_eq_some_iff.mp hrest
  rw [eq_of_beq hmark] at hline
  have hprefix : mark <+: front ++ back := ⟨rest, hline.symm⟩
  exact (List.prefix_or_prefix_of_prefix hprefix (List.prefix_append _ _)).elim h.1 h.2

/-- A statement without `varMark` at its beginning. -/
def target (front : List Char) : List Char := (front.dropPrefix? varMark).getD front

/-- Whatever follows `front`, which does not start with a blank, `markOf?` reads nothing off the
line. -/
structure IsQuiet (front : List Char) : Prop where
  no_blank : ∀ c ∈ front.head?, c ≠ ' '
  no_entry : Apart entryMark front
  no_extern : Apart externMark front
  no_call : Apart callMark front
  var_or : varMark <+: front ∨ Apart varMark front
  no_result : Apart (assignMark ++ callMark) ((target front).dropWhile Naming.isWordChar)

instance (front : List Char) : Decidable (IsQuiet front) :=
  decidable_of_iff ((∀ c ∈ front.head?, c ≠ ' ') ∧ Apart entryMark front ∧ Apart externMark front ∧
      Apart callMark front ∧ (varMark <+: front ∨ Apart varMark front) ∧
      Apart (assignMark ++ callMark) ((target front).dropWhile Naming.isWordChar))
    ⟨fun h => ⟨h.1, h.2.1, h.2.2.1, h.2.2.2.1, h.2.2.2.2.1, h.2.2.2.2.2⟩,
      fun h => ⟨h.no_blank, h.no_entry, h.no_extern, h.no_call, h.var_or, h.no_result⟩⟩

private theorem target_append {front : List Char} (h : varMark <+: front ∨ Apart varMark front)
    (back : List Char) : target (front ++ back) = target front ++ back := by
  obtain ⟨rest, rfl⟩ | hapart := h
  · rw [target, target, List.append_assoc, List.dropPrefix?_append_of_beq _ (by decide),
      List.dropPrefix?_append_of_beq _ (by decide)]
    rfl
  · have hfront := dropPrefix?_eq_none_of_apart hapart []
    rw [List.append_nil] at hfront
    rw [target, target, dropPrefix?_eq_none_of_apart hapart, hfront]
    rfl

theorem dropWhile_target_append {front : List Char} (hvar : varMark <+: front ∨ Apart varMark front)
    (h : (target front).dropWhile Naming.isWordChar ≠ []) (back : List Char) :
    (target (front ++ back)).dropWhile Naming.isWordChar =
      (target front).dropWhile Naming.isWordChar ++ back := by
  rw [target_append hvar, List.dropWhile_append, if_neg (by simpa using h)]

private theorem markOf?_eq_none {line : String} {front : List Char} (h : IsQuiet front)
    (hline : front <+: line.toList) : markOf? line = none := by
  obtain ⟨back, hline⟩ := hline
  have hne : (target front).dropWhile Naming.isWordChar ≠ [] :=
    fun hnil => h.no_result.2 (hnil ▸ List.nil_prefix)
  have hbehind := dropWhile_target_append h.var_or hne back
  have hcall : behindCall? (front ++ back) = none := by
    rw [behindCall?, dropPrefix?_eq_none_of_apart h.no_call]
    show ((target (front ++ back)).dropWhile Naming.isWordChar).dropPrefix? _ = none
    rw [hbehind, dropPrefix?_eq_none_of_apart h.no_result]
  rw [markOf?, ← hline, dropPrefix?_eq_none_of_apart h.no_entry,
    dropPrefix?_eq_none_of_apart h.no_extern, hcall]
  rfl

theorem unread_of_isQuiet {s : String} {front : List Char} (h : IsQuiet front)
    (hfront : front <+: s.toList.dropWhile (· = ' ')) (hone : OneLine s) : Unread markOf? s := by
  refine ⟨hone, fun back => markOf?_eq_none h ?_⟩
  have hne : front ≠ [] := fun hnil => h.no_entry.2 (hnil ▸ List.nil_prefix)
  have hrest : s.toList.dropWhile (· = ' ') ≠ [] :=
    fun hnil => hne (List.prefix_nil.mp (hnil ▸ hfront))
  rw [trimStart, String.toList_ofList, String.toList_append, List.dropWhile_append,
    if_neg (by simpa using hrest)]
  exact hfront.trans (List.prefix_append _ _)

theorem unread_ofList {cs : List Char} (h : IsQuiet (cs.dropWhile (· = ' '))) (hone : '\n' ∉ cs) :
    Unread markOf? (String.ofList cs) := by
  refine unread_of_isQuiet h ?_ (.ofList hone)
  simp only [String.toList_ofList, List.prefix_refl]

/-! ### Lines that depend on what follows -/

/-- The text `s` starts with a character, and it is not `sign`. -/
def StartsOther (sign : Char) (s : String) : Prop := ∃ c ∈ s.toList.head?, c ≠ sign

variable {sign : Char}

theorem StartsOther.append {a : String} (h : StartsOther sign a) (b : String) :
    StartsOther sign (a ++ b) := by
  obtain ⟨c, hc, hne⟩ := h
  refine ⟨c, ?_, hne⟩
  rw [String.toList_append, List.head?_append, Option.mem_def.mp hc]
  rfl

theorem StartsOther.ofList {c : Char} {cs : List Char} (h : c ≠ sign) :
    StartsOther sign (String.ofList (c :: cs)) := ⟨c, by simp, h⟩

/-- In front of a text that is `StartsOther sign` there may be one that does not start with `sign`,
or nothing. -/
theorem StartsOther.behind {a b : String} (ha : ∀ c ∈ a.toList.head?, c ≠ sign)
    (hb : StartsOther sign b) : StartsOther sign (a ++ b) := by
  cases hfirst : a.toList.head? with
  | some c => exact StartsOther.append ⟨c, hfirst, ha c hfirst⟩ b
  | none =>
    obtain ⟨c, hc, hne⟩ := hb
    exact ⟨c, by rw [String.toList_append, List.head?_append, hfirst]; exact hc, hne⟩

theorem head?_ne_of_isWord (hsign : Naming.isWordChar sign = false) {s : String}
    (h : Naming.IsWord s) : ∀ c ∈ s.toList.head?, c ≠ sign := by
  rintro c hc rfl
  exact h.notMem hsign (List.mem_of_mem_head? hc)

theorem StartsOther.of_isWord (hsign : Naming.isWordChar sign = false) {s : String}
    (h : Naming.IsWord s) (hne : s ≠ "") : StartsOther sign s := by
  cases hfirst : s.toList.head? with
  | some c => exact ⟨c, hfirst, head?_ne_of_isWord hsign h c hfirst⟩
  | none => exact absurd (String.toList_eq_nil_iff.mp (List.head?_eq_none_iff.mp hfirst)) hne

theorem StartsOther.trimStart_eq {s : String} (h : StartsOther ' ' s) : trimStart s = s := by
  obtain ⟨c, hc, hne⟩ := h
  refine trimStart_eq_self fun d hd => ?_
  rw [Option.mem_def.mp hc] at hd
  rwa [← Option.mem_some.mp hd]

theorem Apart.append {a b : List Char} (h : Apart a b) (c : List Char) : Apart a (b ++ c) :=
  ⟨fun hprefix => (List.prefix_or_prefix_of_prefix hprefix (List.prefix_append _ _)).elim h.1 h.2,
    fun hprefix => h.2 ((List.prefix_append _ _).trans hprefix)⟩

/-- A line whose beginning `IsQuiet` together with every character but `sign` that may follow. -/
theorem unread_behind {front : List Char} (hfront : ∀ c ≠ sign, IsQuiet (front ++ [c]))
    (hone : '\n' ∉ front) {s : String} (hs : StartsOther sign s) (hline : OneLine s) :
    Unread markOf? (String.ofList front ++ s) := by
  obtain ⟨c, hc, hne⟩ := hs
  obtain ⟨rest, hrest⟩ := List.head?_eq_some_iff.mp hc
  have hquiet := hfront c hne
  refine unread_of_isQuiet hquiet ?_ (.append (.ofList hone) hline)
  have htext : (String.ofList front ++ s).toList = (front ++ [c]) ++ rest := by
    rw [String.toList_append, String.toList_ofList, hrest, List.append_assoc]
    rfl
  have hhead : ∀ d ∈ ((front ++ [c]) ++ rest).head?, d ≠ ' ' := by
    rw [List.head?_append_of_ne_nil _ (by simp)]
    exact hquiet.no_blank
  rw [htext, ← String.toList_ofList (l := (front ++ [c]) ++ rest), ← String.toList_ofList
    (l := (String.ofList ((front ++ [c]) ++ rest)).toList.dropWhile _)]
  show _ <+: (trimStart (String.ofList ((front ++ [c]) ++ rest))).toList
  rw [trimStart_ofList hhead, String.toList_ofList]
  exact List.prefix_append _ _

/-- A word and a blank before something that does not start with `=`. -/
theorem unread_beside (word : List Char) (hne : word ≠ [])
    (hword : ∀ c ∈ word, Naming.isWordChar c = true)
    (hmarks : ∀ mark ∈ [entryMark, externMark, callMark, varMark], Apart mark (word ++ [' ']))
    {s : String} (hs : StartsOther '=' s) (hline : OneLine s) :
    Unread markOf? (String.ofList (word ++ [' ']) ++ s) := by
  have hsigns : Naming.isWordChar ' ' = false ∧ Naming.isWordChar '\n' = false := by decide
  have hvar : Apart varMark (word ++ [' ']) := hmarks varMark (by simp)
  refine unread_behind (fun c hc => ?_) ?_ hs hline
  · have htarget : (target (word ++ [' '])).dropWhile Naming.isWordChar = [' '] := by
      have hself := dropPrefix?_eq_none_of_apart hvar []
      rw [List.append_nil] at hself
      rw [target, hself, Option.getD_none, List.dropWhile_append_of_pos hword]
      rfl
    refine ⟨?_, (hmarks _ (by simp)).append _, (hmarks _ (by simp)).append _,
      (hmarks _ (by simp)).append _, .inr (hvar.append _), ?_⟩
    · rw [List.append_assoc, List.head?_append_of_ne_nil _ hne]
      rintro d hd rfl
      rw [hword ' ' (List.mem_of_mem_head? hd)] at hsigns
      cases hsigns.1
    · have hequals : '=' ≠ c := Ne.symm hc
      rw [dropWhile_target_append (.inr hvar) (by simp [htarget]), htarget]
      exact ⟨by simp [assignMark, callMark, hequals], by simp [assignMark, callMark, hc]⟩
  · rw [List.mem_append, not_or]
    refine ⟨fun hmem => ?_, by decide⟩
    rw [hword _ hmem] at hsigns
    cases hsigns.2

/-- What the declaration of something that is not imported may start with: `internal static` and a
blank. -/
def internalMark : List Char :=
  ['i', 'n', 't', 'e', 'r', 'n', 'a', 'l', ' ', 's', 't', 'a', 't', 'i', 'c', ' ']

theorem unread_internal {s : String} (hs : StartsOther 'e' s) (hline : OneLine s) :
    Unread markOf? ("internal static " ++ s) := by
  have hvar : Apart varMark internalMark := by decide
  have hquiet : ∀ c ≠ 'e', IsQuiet (internalMark ++ [c]) := by
    intro c hc
    have hletter : 'e' ≠ c := Ne.symm hc
    refine ⟨by simp [internalMark], (by decide : Apart entryMark internalMark).append _,
      ⟨by simp [externMark, internalMark, hletter], by simp [externMark, internalMark, hc]⟩,
      (by decide : Apart callMark internalMark).append _, .inr (hvar.append _), ?_⟩
    rw [dropWhile_target_append (.inr hvar) (by decide)]
    exact (by decide : Apart (assignMark ++ callMark) _).append _
  exact unread_behind hquiet (by decide) hs hline

/-- A variable with a value that is no call, as a call starts with the `N` of `callMark`. -/
theorem unread_variable {name value : String} (hname : Naming.IsWord name)
    (hvalue : StartsOther 'N' value) (hline : OneLine value) :
    Unread markOf? ("var " ++ name ++ " = " ++ value) := by
  have hfront : "var " ++ name ++ " = " =
      String.ofList (varMark ++ (name.toList ++ assignMark)) := by
    have hvar : "var ".toList = varMark := String.toList_ofList
    have hassign : " = ".toList = assignMark := String.toList_ofList
    rw [← String.toList_inj, String.toList_ofList, String.toList_append, String.toList_append,
      hvar, hassign, List.append_assoc]
  rw [hfront]
  refine unread_behind (fun c hc => ?_) ?_ hvalue hline
  · have hletter : 'N' ≠ c := Ne.symm hc
    have hapart {mark : List Char} (hmark : Apart mark varMark) :
        Apart mark (varMark ++ (name.toList ++ assignMark) ++ [c]) :=
      (hmark.append _).append _
    have htarget : target (varMark ++ (name.toList ++ assignMark) ++ [c]) =
        name.toList ++ (assignMark ++ [c]) := by
      rw [List.append_assoc, target, List.dropPrefix?_append_of_beq _ (by decide), Option.getD_some,
        List.append_assoc]
    refine ⟨by simp [varMark], hapart (by decide), hapart (by decide), hapart (by decide),
      .inl ⟨name.toList ++ assignMark ++ [c], by simp only [List.append_assoc]⟩, ?_⟩
    rw [htarget, List.dropWhile_append_of_pos hname]
    show Apart _ (' ' :: '=' :: ' ' :: [c])
    exact ⟨by simp [assignMark, callMark, hletter], by simp [assignMark, callMark, hc]⟩
  · simpa [varMark, assignMark, OneLine] using oneLine_of_isWord hname

/-! ## Calls -/

/-- What may stand before a call in a statement: nothing, a variable behind `varMark`, or `__ret`.
-/
inductive Binding : String → Prop
  | nothing : Binding ""
  | variable_ {name : String} (h : Naming.IsWord name) : Binding ("var " ++ name ++ " = ")
  | result : Binding "__ret = "

private theorem behindCall?_eq {front : String} (h : Binding front) (rest : List Char) :
    behindCall? (front.toList ++ (callMark ++ rest)) = some rest := by
  have hassign {name : String} (hname : Naming.IsWord name) :
      ((name.toList ++ (assignMark ++ callMark ++ rest)).dropWhile Naming.isWordChar).dropPrefix?
        (assignMark ++ callMark) = some rest := by
    rw [List.dropWhile_append_of_pos hname, List.append_assoc]
    show List.dropPrefix? (assignMark ++ (callMark ++ rest)) _ = _
    rw [← List.append_assoc, List.dropPrefix?_append_of_beq _ (by decide)]
  cases h with
  | nothing =>
    rw [String.toList_empty, List.nil_append, behindCall?,
      List.dropPrefix?_append_of_beq _ (by decide)]
  | @variable_ name hname =>
    have hline : ("var " ++ name ++ " = ").toList ++ (callMark ++ rest) =
        varMark ++ (name.toList ++ (assignMark ++ callMark ++ rest)) := by
      have hvar : "var ".toList = varMark := String.toList_ofList
      have hvalue : " = ".toList = assignMark := String.toList_ofList
      rw [String.toList_append, String.toList_append, hvar, hvalue]
      simp only [List.append_assoc]
    have hnone :
        (varMark ++ (name.toList ++ (assignMark ++ callMark ++ rest))).dropPrefix? callMark =
          none :=
      dropPrefix?_eq_none_of_apart (by decide) _
    rw [hline, behindCall?, hnone]
    show List.dropPrefix? (List.dropWhile _ (Option.getD (List.dropPrefix? _ _) _)) _ = _
    rw [List.dropPrefix?_append_of_beq _ (by decide), Option.getD_some, hassign hname]
  | result =>
    have hline : "__ret = ".toList ++ (callMark ++ rest) =
        "__ret".toList ++ (assignMark ++ callMark ++ rest) := by
      have htext : "__ret = ".toList = "__ret".toList ++ assignMark := by simp [assignMark]
      rw [htext, List.append_assoc, List.append_assoc]
    have hnone {mark : List Char} (hmark : Apart mark "__ret".toList) :
        ("__ret".toList ++ (assignMark ++ callMark ++ rest)).dropPrefix? mark = none :=
      dropPrefix?_eq_none_of_apart hmark _
    rw [hline, behindCall?, hnone (by decide)]
    show List.dropPrefix? (List.dropWhile _ (Option.getD (List.dropPrefix? _ _) _)) _ = _
    rw [hnone (by decide), Option.getD_none, hassign (by decide)]

/-- The call of `name` in the class `NativeMethods`. -/
def callText (name : String) (args : List String) : String :=
  "NativeMethods." ++ name ++ "(" ++ commas args ++ ")"

/-- The text `callText` is read as the call with its arguments. -/
theorem markOf?_callText {front : String} (h : Binding front) {name : String}
    (hname : Naming.IsWord name) {args : List String} (hne : args ≠ [])
    (hargs : ∀ a ∈ args, Closed a) (back : String) :
    markOf? (trimStart (front ++ callText name args ++ back)) =
      some (.call ⟨name, args.map trimStart, back.toList⟩) := by
  have hline : (front ++ callText name args ++ back).toList =
      front.toList ++ (callMark ++ (name.toList ++
        '(' :: ((", ".intercalate args).toList ++ ')' :: back.toList))) := by
    have hmark : "NativeMethods.".toList = callMark := String.toList_ofList
    rw [← hmark]
    show (front ++ ("NativeMethods." ++ name ++ "(" ++ commas args ++ ")") ++ back).toList = _
    generalize "NativeMethods." = mark
    simp [commas]
  have hstart : ∃ start, start ∈ [['N'], ['v'], ['_']] ∧
      start <+: front.toList ++ (callMark ++ (name.toList ++
        '(' :: ((", ".intercalate args).toList ++ ')' :: back.toList))) := by
    cases h with
    | nothing => exact ⟨['N'], by simp, by simp [callMark]⟩
    | variable_ hname => exact ⟨['v'], by simp, by simp⟩
    | result => exact ⟨['_'], by simp, by simp⟩
  obtain ⟨start, hstart, rest, hrest⟩ := hstart
  have hnone : ∀ start ∈ [['N'], ['v'], ['_']], Apart entryMark start ∧ Apart externMark start ∧
      ∀ c ∈ start.head?, c ≠ ' ' := by decide
  obtain ⟨hentry, hextern, hblank⟩ := hnone start hstart
  have hne' : start ≠ [] := fun hnil => hentry.2 (hnil ▸ List.nil_prefix)
  have hhead : ∀ c ∈ (front ++ callText name args ++ back).toList.head?, c ≠ ' ' := by
    rw [hline, ← hrest, List.head?_append_of_ne_nil _ hne']
    exact hblank
  rw [trimStart_eq_self hhead, markOf?, hline, ← hrest, dropPrefix?_eq_none_of_apart hentry,
    dropPrefix?_eq_none_of_apart hextern, hrest]
  show Option.map _ (behindCall? _) = _
  rw [behindCall?_eq h, Option.map_some, application_eq (hname.notMem (by decide)) hne _ hargs]

/-! ## Declarations -/

theorem isWord_managed (t : FlatType) : Naming.IsWord t.managed := by
  have hsuffix : ∀ t : FlatType, Naming.IsWord t.suffix := by
    intro t
    induction t with
    | scalar p => cases p <;> exact Naming.isWord_pascal (by decide)
    | option inner ih => exact .append (by decide) ih
    | void | handle | strView | buffer => decide
  cases t with
  | scalar p => cases p <;> decide
  | option inner => exact .append (by decide) (hsuffix inner)
  | void | handle | strView | buffer => decide

private theorem managed_ne_empty (t : FlatType) : t.managed ≠ "" := by
  cases t with
  | scalar p => cases p <;> decide
  | option inner => simp [FlatType.managed, optionPrefix]
  | void | handle | strView | buffer => decide

private theorem range_of_isWordChar {c : Char} (h : Naming.isWordChar c = true) :
    33 ≤ c.toNat ∧ c.toNat ≤ 126 := by
  exact Naming.forall_of_isAscii
    (p := fun c => Naming.isWordChar c = true → 33 ≤ c.toNat ∧ c.toNat ≤ 126) (by decide)
    (Naming.isAscii_of_isWordChar h) h

/-- Words show as they are: no character that `escapeChar` writes otherwise is in their range. -/
theorem escapeChar_of_isWordChar {c : Char} (h : Naming.isWordChar c = true) :
    escapeChar c = c.toString := by
  have hrange := range_of_isWordChar h
  have hspans : ∀ set ∈ [PrintTable.unprintable, PrintTable.graphemeExtend], ∀ s ∈ set,
      s.last < 33 ∨ 126 < s.first := by decide +kernel
  have hnone : ∀ set ∈ [PrintTable.unprintable, PrintTable.graphemeExtend],
      CharSet.contains set c = false := by
    intro set hset
    rw [Bool.eq_false_iff, Ne, CharSet.contains_iff]
    rintro ⟨s, hs, hcovers⟩
    rw [Span.covers_iff] at hcovers
    have hapart := hspans set hset s hs
    omega
  unfold escapeChar
  split
  iterate 6 cases h
  rw [isGraphemeExtend, isPrintable, hnone _ (.tail _ (.head _)), hnone _ (.head _)]
  rfl

/-- A word is `quoted` as it is. -/
theorem quoted_of_isWord {s : String} (h : Naming.IsWord s) : quoted s = "\"" ++ s ++ "\"" := by
  have hjoin : String.join (s.toList.map escapeChar) = s := by
    rw [List.map_congr_left fun c hc => escapeChar_of_isWordChar (h c hc), ← String.toList_inj,
      String.toList_join, List.flatMap_map]
    simp [Char.toString]
  rw [quoted, hjoin]

end Managed

/-! ## Imported functions -/

open Managed Source Text

/-- The function that the entry point `e` is for managed code: its parameters in order, then the
status. -/
def EntryPoint.imported (e : EntryPoint) : Import :=
  ⟨Naming.managedIdent e.symbol,
    e.params.map (fun p => p.type.managed ++ " " ++ importName p.name)
      ++ ["ref CallStatus __status"],
    e.ret.managed⟩

/-- The two marks of an import: `e.symbol`, and the function `e.imported`. -/
def EntryPoint.importMarks (e : EntryPoint) : List Mark := [.entry e.symbol, .declared e.imported]

namespace Managed

variable {e : EntryPoint}

private theorem markOf?_attribute (h : Naming.IsWord e.symbol) :
    markOf? (trimStart ("[DllImport(Library, EntryPoint = " ++ quoted e.symbol
      ++ ", CallingConvention = CallingConvention.Cdecl)]")) = some (.entry e.symbol) := by
  have hback (back : String) :
      ("[DllImport(Library, EntryPoint = " ++ quoted e.symbol ++ back).toList =
      entryMark ++ ("Library, EntryPoint = ".toList ++
        '"' :: (e.symbol.toList ++ '"' :: back.toList)) := by
    have hmark : "[DllImport(Library, EntryPoint = ".toList =
        entryMark ++ "Library, EntryPoint = ".toList := by
      have hall : "[DllImport(Library, EntryPoint = " =
          String.ofList entryMark ++ "Library, EntryPoint = " := rfl
      rw [hall, String.toList_append, String.toList_ofList]
    have hquote : "\"".toList = ['"'] := String.toList_ofList
    simp only [quoted_of_isWord h, String.toList_append, hmark, hquote, List.append_assoc]
    rfl
  have hfront : ∀ c ∈ "Library, EntryPoint = ".toList, decide (c ≠ '"') = true := by decide +kernel
  have hsymbol : ∀ c ∈ e.symbol.toList, decide (c ≠ '"') = true := by
    intro c hc
    simpa using ne_of_mem_of_not_mem hc (h.notMem (by decide))
  have hhead (rest : List Char) : ∀ c ∈ (entryMark ++ rest).head?, c ≠ ' ' := by
    simp [entryMark]
  rw [trimStart_eq_self (by rw [hback]; exact hhead _), markOf?, hback,
    List.dropPrefix?_append_of_beq _ (by decide)]
  show some (Mark.entry (symbolOf _)) = _
  rw [symbolOf, List.dropWhile_append_of_pos hfront, List.dropWhile_cons_of_neg (by simp),
    List.drop_one, List.tail_cons, List.takeWhile_append_of_pos hsymbol,
    List.takeWhile_cons_of_neg (by simp), List.append_nil, String.ofList_toList]

private theorem closed_importParam {p : FlatParam} (h : Naming.IsWord p.name) :
    Closed (importParam p) :=
  .append (.append (closed_of_isWord (isWord_managed _)) (.ofList (by decide)))
    (closed_of_isWord h.bare.managedIdent)

private theorem trimStart_importParam (p : FlatParam) : trimStart (importParam p) = importParam p :=
  StartsOther.trimStart_eq ((StartsOther.append (.of_isWord (by decide) (isWord_managed p.type)
    (managed_ne_empty p.type)) _).append _)

private theorem markOf?_declaration (hsymbol : Naming.IsWord e.symbol)
    (hparams : ∀ p ∈ e.params, Naming.IsWord p.name) :
    markOf? (trimStart ("internal static extern " ++ e.ret.managed ++ " "
      ++ Naming.managedIdent e.symbol ++ "("
      ++ commas (e.params.map importParam ++ ["ref CallStatus __status"]) ++ ");")) =
      some (.declared e.imported) := by
  have hline : ("internal static extern " ++ e.ret.managed ++ " "
      ++ Naming.managedIdent e.symbol ++ "("
      ++ commas (e.params.map importParam ++ ["ref CallStatus __status"]) ++ ");").toList =
      externMark ++ (e.ret.managed.toList ++ ' ' :: ((Naming.managedIdent e.symbol).toList ++
        '(' :: ((", ".intercalate
          (e.params.map importParam ++ ["ref CallStatus __status"])).toList ++
          ')' :: [';']))) := by
    have hmark : "internal static extern ".toList = externMark := String.toList_ofList
    rw [← hmark]
    generalize "internal static extern " = mark
    simp [commas]
  have hclosed : ∀ a ∈ e.params.map importParam ++ ["ref CallStatus __status"], Closed a := by
    intro a ha
    obtain ha | ha := List.mem_append.mp ha
    · obtain ⟨p, hp, rfl⟩ := List.mem_map.mp ha
      exact closed_importParam (hparams p hp)
    · obtain rfl := List.mem_singleton.mp ha
      exact .ofList (by decide)
  have htrim : (e.params.map importParam ++ ["ref CallStatus __status"]).map trimStart =
      e.params.map importParam ++ ["ref CallStatus __status"] := by
    refine (List.map_congr_left fun a ha => ?_).trans (List.map_id _)
    obtain ha | ha := List.mem_append.mp ha
    · obtain ⟨p, -, rfl⟩ := List.mem_map.mp ha
      exact trimStart_importParam p
    · obtain rfl := List.mem_singleton.mp ha
      exact trimStart_ofList (by decide)
  have hret : ∀ c ∈ e.ret.managed.toList, decide (c ≠ ' ') = true := by
    intro c hc
    simpa using ne_of_mem_of_not_mem hc ((isWord_managed e.ret).notMem (by decide))
  have hhead (rest : List Char) : ∀ c ∈ (externMark ++ rest).head?, c ≠ ' ' := by
    simp [externMark]
  have hentry (rest : List Char) : (externMark ++ rest).dropPrefix? entryMark = none :=
    dropPrefix?_eq_none_of_apart (by decide) rest
  rw [trimStart_eq_self (by rw [hline]; exact hhead _), markOf?, hline, hentry,
    List.dropPrefix?_append_of_beq _ (by simp)]
  show some (Mark.declared (importOf _)) = _
  rw [importOf, List.dropWhile_append_of_pos hret, List.takeWhile_append_of_pos hret,
    List.dropWhile_cons_of_neg (by simp), List.takeWhile_cons_of_neg (by simp), List.drop_one,
    List.tail_cons, application_eq (hsymbol.managedIdent.notMem (by decide)) (by simp) _ hclosed,
    htrim, List.append_nil, String.ofList_toList]
  rfl

private theorem oneLine_importParams (hparams : ∀ p ∈ e.params, Naming.IsWord p.name) :
    OneLine (commas (e.params.map importParam ++ ["ref CallStatus __status"])) := by
  refine .intercalate (.ofList (by decide)) fun a ha => ?_
  obtain ha | ha := List.mem_append.mp ha
  · obtain ⟨p, hp, rfl⟩ := List.mem_map.mp ha
    exact ((oneLine_of_isWord (isWord_managed _)).append (.ofList (by decide))).append
      (oneLine_of_isWord (hparams p hp).bare.managedIdent)
  · obtain rfl := List.mem_singleton.mp ha
    exact .ofList (by decide)

/-- **An entry point is declared once**: `markOf?` reads its `importMarks` off the code, and nothing
else. -/
theorem reads_importCode (hsymbol : Naming.IsWord e.symbol)
    (hparams : ∀ p ∈ e.params, Naming.IsWord p.name) :
    Reads markOf? (importCode e) e.importMarks := by
  have hattribute := reads_line (((OneLine.ofList (by decide)).append (oneLine_quoted _)).append
    (.ofList (by decide))) (markOf?_attribute hsymbol)
  have hdeclaration := reads_line (((((((OneLine.ofList (by decide)).append
    (oneLine_of_isWord (isWord_managed e.ret))).append (.ofList (by decide))).append
      (oneLine_of_isWord hsymbol.managedIdent)).append (.ofList (by decide))).append
        (oneLine_importParams hparams)).append (.ofList (by decide)))
          (markOf?_declaration hsymbol hparams)
  exact (hattribute.append hdeclaration).blank

end Managed

end Boundary
