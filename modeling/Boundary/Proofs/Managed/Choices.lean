import Boundary.Proofs.Managed.Calls
import Boundary.Proofs.Managed.Variables
import Boundary.Proofs.Naming.Local

/-!
# Choices in managed code

What a method does in each case of a choice, read off its lines: a line that starts with a label
opens a case, which goes on to the next label.

* `Statement`, `statementOf?`: what a line says about variables and results.
* `Case`, `Choice`, `choiceOf`: the statements before a choice and those of its cases.
* `Says`, `IsCase`, `choiceOf_cases`: the ways to put a choice together.
* `VariantRecord.decodeCase`, `choiceOf_decode`: the cases that make records from handles.
* `VariantRecord.lowerCase`, `choiceOf_lower`: the cases that make handles from records.
-/

namespace Boundary.Managed

open Source Text

/-! ## Reading -/

/-- What a statement says. -/
inductive Statement
  /-- A variable is the result of an imported function. -/
  | calls (variable_ function : String) (args : List String)
  /-- A variable is some other value. -/
  | binds (variable_ value : String)
  /-- The cases that follow are about that value. -/
  | switches (value : String)
  /-- A record is made and returned. -/
  | returns (record : String) (args : List String)
deriving Repr, DecidableEq

/-- What a choice starts with: `switch (`. -/
def switchMark : List Char := ['s', 'w', 'i', 't', 'c', 'h', ' ', '(']

/-- What the statement that returns a record starts with: `return new` and a blank. -/
def returnMark : List Char := ['r', 'e', 't', 'u', 'r', 'n', ' ', 'n', 'e', 'w', ' ']

/-- What the label of a case starts with: `case` and a blank. -/
def caseMark : List Char := ['c', 'a', 's', 'e', ' ']

/-- The label of the case for everything else: `default:`. -/
def defaultMark : List Char := ['d', 'e', 'f', 'a', 'u', 'l', 't', ':']

/-- A statement without what introduces a variable. -/
def assigned (cs : List Char) : List Char :=
  match cs.dropPrefix? usingMark with
  | some rest => rest
  | none => (cs.dropPrefix? varMark).getD cs

/-- What a variable becomes by the text behind its sign of equality. -/
def Statement.ofValue (variable_ : String) (value : List Char) : Statement :=
  match value.dropPrefix? callMark with
  | some call => .calls variable_ (application call).name (application call).args
  | none => .binds variable_ (String.ofList value.dropLast)

/-- What a line says, if it says anything about variables and results. -/
def statementOf? (line : String) : Option Statement :=
  match line.toList.dropPrefix? switchMark with
  | some rest => some (.switches (String.ofList (rest.takeWhile (· ≠ ')'))))
  | none =>
    match line.toList.dropPrefix? returnMark with
    | some rest => some (.returns (application rest).name ((application rest).args.filter (· ≠ "")))
    | none =>
      let cs := assigned line.toList
      ((cs.dropWhile Naming.isWordChar).dropPrefix? assignMark).map
        (.ofValue (String.ofList (cs.takeWhile Naming.isWordChar)))

/-- The label that a line starts with, and the name that stands behind it. -/
def labelOf? (line : String) : Option (String × String) :=
  match line.toList.dropPrefix? defaultMark with
  | some _ => some ("default", "")
  | none =>
    (line.toList.dropPrefix? caseMark).map fun rest =>
      (String.ofList (rest.takeWhile Naming.isWordChar),
        String.ofList ((rest.dropWhile Naming.isWordChar).dropLast.drop 1))

/-- A case of a choice: its label, the name behind it, and what its statements say. -/
structure Case where
  label : String
  bound : String
  said : List Statement
deriving Repr, DecidableEq

/-- A choice, with what is said before its first case. -/
structure Choice where
  before : List Statement
  cases : List Case
deriving Repr, DecidableEq

/-- The choice that some lines make. -/
def choiceOf : List String → Choice
  | [] => ⟨[], []⟩
  | line :: rest =>
    let later := choiceOf rest
    match labelOf? line with
    | some (label, bound) => ⟨[], ⟨label, bound, later.before⟩ :: later.cases⟩
    | none => ⟨(statementOf? line).toList ++ later.before, later.cases⟩

/-! ### Lines that say nothing -/

/-- A line that starts with these signs has no label, and says nothing. -/
structure IsIdle (front : List Char) : Prop where
  no_default : Apart defaultMark front
  no_case : Apart caseMark front
  no_switch : Apart switchMark front
  no_return : Apart returnMark front
  no_using : Apart usingMark front
  no_var : Apart varMark front
  no_value : Apart assignMark (front.dropWhile Naming.isWordChar)

instance (front : List Char) : Decidable (IsIdle front) :=
  decidable_of_iff (Apart defaultMark front ∧ Apart caseMark front ∧ Apart switchMark front ∧
      Apart returnMark front ∧ Apart usingMark front ∧ Apart varMark front ∧
      Apart assignMark (front.dropWhile Naming.isWordChar))
    ⟨fun h => ⟨h.1, h.2.1, h.2.2.1, h.2.2.2.1, h.2.2.2.2.1, h.2.2.2.2.2.1, h.2.2.2.2.2.2⟩,
      fun h => ⟨h.no_default, h.no_case, h.no_switch, h.no_return, h.no_using, h.no_var,
        h.no_value⟩⟩

theorem labelOf?_eq_none {line : String} {front : List Char} (hdefault : Apart defaultMark front)
    (hcase : Apart caseMark front) (hline : front <+: line.toList) : labelOf? line = none := by
  obtain ⟨back, hline⟩ := hline
  rw [labelOf?, ← hline, dropPrefix?_eq_none_of_apart hdefault, dropPrefix?_eq_none_of_apart hcase]
  rfl

theorem IsIdle.statementOf?_eq_none {line : String} {front : List Char} (h : IsIdle front)
    (hline : front <+: line.toList) : statementOf? line = none := by
  obtain ⟨back, hline⟩ := hline
  have hne : front.dropWhile Naming.isWordChar ≠ [] :=
    fun hnil => h.no_value.2 (hnil ▸ List.nil_prefix)
  have hassigned : assigned (front ++ back) = front ++ back := by
    rw [assigned, dropPrefix?_eq_none_of_apart h.no_using, dropPrefix?_eq_none_of_apart h.no_var]
    rfl
  rw [statementOf?, ← hline, dropPrefix?_eq_none_of_apart h.no_switch,
    dropPrefix?_eq_none_of_apart h.no_return]
  dsimp only
  rw [hassigned, List.dropWhile_append, if_neg (by simpa using hne),
    dropPrefix?_eq_none_of_apart h.no_value]
  rfl

/-! ### Putting code together -/

/-- Code without labels, and what its statements say. -/
structure Says (code : List Code) (said : List Statement) : Prop where
  no_label : ∀ line ∈ Code.textsAll code, labelOf? line = none
  eq : (Code.textsAll code).filterMap statementOf? = said

theorem says_nil : Says [] [] := ⟨by simp [Code.textsAll], rfl⟩

theorem Says.append {a b : List Code} {said said' : List Statement} (ha : Says a said)
    (hb : Says b said') : Says (a ++ b) (said ++ said') := by
  refine ⟨?_, ?_⟩
  · intro line hline
    rw [Code.textsAll_append, List.mem_append] at hline
    exact hline.elim (ha.no_label line) (hb.no_label line)
  · rw [Code.textsAll_append, List.filterMap_append, ha.eq, hb.eq]

theorem Says.flatMap {β : Type} {f : β → List Code} {said : β → List Statement} {bs : List β}
    (h : ∀ b ∈ bs, Says (f b) (said b)) : Says (bs.flatMap f) (bs.flatMap said) := by
  induction bs with
  | nil => exact says_nil
  | cons b rest ih =>
    rw [List.forall_mem_cons] at h
    exact h.1.append (ih h.2)

theorem says_line {text : String} {said : Option Statement} (hlabel : labelOf? text = none)
    (hsaid : statementOf? text = said) : Says [.line text] said.toList := by
  refine ⟨?_, ?_⟩
  · intro line hline
    obtain rfl : line = text := by simpa [Code.textsAll, Code.texts] using hline
    exact hlabel
  · cases said <;> simp [Code.textsAll, Code.texts, hsaid]

theorem IsIdle.says {front : List Char} (h : IsIdle front) {text : String}
    (htext : front <+: text.toList) : Says [.line text] [] :=
  says_line (labelOf?_eq_none h.no_default h.no_case htext) (h.statementOf?_eq_none htext)

theorem says_ofList {cs : List Char} (h : IsIdle cs) : Says [.line (String.ofList cs)] [] :=
  h.says (by simp)

theorem says_ofList_append {cs : List Char} (h : IsIdle cs) (back : String) :
    Says [.line (String.ofList cs ++ back)] [] := by
  refine h.says ?_
  rw [String.toList_append, String.toList_ofList]
  exact List.prefix_append _ _

/-- Code of single lines that say nothing. -/
theorem says_map {β : Type} {f : β → Code} {bs : List β} (h : ∀ b ∈ bs, Says [f b] []) :
    Says (bs.map f) [] := by
  have hnothing : bs.flatMap (fun _ => ([] : List Statement)) = [] := by simp
  rw [List.map_eq_flatMap]
  exact hnothing ▸ Says.flatMap h

theorem choiceOf_says {code : List Code} {said : List Statement} (h : Says code said)
    (rest : List String) : choiceOf (Code.textsAll code ++ rest) =
      ⟨said ++ (choiceOf rest).before, (choiceOf rest).cases⟩ := by
  obtain ⟨hlabel, rfl⟩ := h
  generalize Code.textsAll code = lines at hlabel ⊢
  induction lines with
  | nil => rfl
  | cons line lines ih =>
    rw [List.forall_mem_cons] at hlabel
    rw [List.cons_append, choiceOf, hlabel.1, ih hlabel.2]
    cases hsaid : statementOf? line <;> simp [hsaid]

/-- Code that is a case of a choice. -/
def IsCase (code : List Code) (c : Case) : Prop :=
  ∃ header body, code = declared header body ∧ labelOf? header = some (c.label, c.bound) ∧
    Says body c.said

theorem says_brace : Says [.line "\x7b"] [] ∧ Says [.line "\x7d"] [] :=
  ⟨says_ofList (by decide), says_ofList (by decide)⟩

private theorem choiceOf_isCase {code : List Code} {c : Case} (h : IsCase code c)
    {rest : List String} (hrest : (choiceOf rest).before = []) :
    choiceOf (Code.textsAll code ++ rest) = ⟨[], c :: (choiceOf rest).cases⟩ := by
  obtain ⟨header, body, rfl, hlabel, hbody⟩ := h
  have hbraces := (says_brace.1.append hbody).append says_brace.2
  have htexts : Code.textsAll (declared header body) ++ rest =
      header :: (Code.textsAll ([.line "\x7b"] ++ body ++ [.line "\x7d"]) ++ rest) := by
    simp [Code.textsAll_append, Code.textsAll, Code.texts]
  rw [htexts, choiceOf, choiceOf_says hbraces, hlabel, hrest]
  simp

/-- **Cases that are put together are found again.** -/
theorem choiceOf_cases {β : Type} {f : β → List Code} {g : β → Case} {bs : List β}
    (h : ∀ b ∈ bs, IsCase (f b) (g b)) {rest : List String} (hrest : (choiceOf rest).before = []) :
    choiceOf (Code.textsAll (bs.flatMap f) ++ rest) =
      ⟨[], bs.map g ++ (choiceOf rest).cases⟩ := by
  induction bs with
  | nil =>
    show choiceOf rest = ⟨[], (choiceOf rest).cases⟩
    rw [← hrest]
  | cons b bs ih =>
    rw [List.forall_mem_cons] at h
    have hlater := ih h.2
    rw [List.flatMap_cons, Code.textsAll_append, List.append_assoc, choiceOf_isCase h.1, hlater]
    · rfl
    · rw [hlater]

/-- The case for everything else ends a choice, and what follows the choice says nothing. -/
theorem choiceOf_default {after : List Code} (h : Says after []) :
    choiceOf ("default:" :: Code.textsAll after) = ⟨[], [⟨"default", "", []⟩]⟩ := by
  have hlabel : labelOf? "default:" = some ("default", "") := by decide
  have hafter := choiceOf_says h []
  rw [List.append_nil] at hafter
  rw [choiceOf, hlabel, hafter]
  rfl

/-- **A choice among the cases of some items** is found again, with what is said before it. -/
theorem choiceOf_eq {β : Type} {code a b : List Code} {said : List Statement} {f : β → List Code}
    {g : β → Case} {bs : List β}
    (htexts : Code.textsAll code =
      Code.textsAll a ++ (Code.textsAll (bs.flatMap f) ++ "default:" :: Code.textsAll b))
    (hbefore : Says a said) (hcases : ∀ b ∈ bs, IsCase (f b) (g b)) (hafter : Says b []) :
    choiceOf (Code.textsAll code) = ⟨said, bs.map g ++ [⟨"default", "", []⟩]⟩ := by
  have hdefault := choiceOf_default hafter
  have hall := choiceOf_cases hcases (congrArg Choice.before hdefault)
  rw [hdefault] at hall
  rw [htexts, choiceOf_says hbefore, hall, List.append_nil]

/-! ## Statements -/

/-- What may stand before a variable in a statement that says what it is. -/
def introducing : List (List Char) := [usingMark, varMark, []]

/-- A statement that says what a variable is. -/
theorem says_assigned {mark : List Char} (hmark : mark ∈ introducing) {name : String}
    (hword : Naming.IsWord name) (hmade : Naming.IsMade name) (value : String) :
    Says [.line (String.ofList mark ++ name ++ " = " ++ value)] [.ofValue name value.toList] := by
  obtain ⟨rest, hrest⟩ := hmade
  have hline : (String.ofList mark ++ name ++ " = " ++ value).toList =
      mark ++ (name.toList ++ (assignMark ++ value.toList)) := by
    simp [assignMark]
  have hmarks : ∀ mark ∈ introducing, Apart defaultMark ((mark ++ ['_']).take 1) ∧
      Apart caseMark ((mark ++ ['_']).take 1) ∧ Apart switchMark ((mark ++ ['_']).take 1) ∧
        Apart returnMark ((mark ++ ['_']).take 1) := by
    decide
  obtain ⟨hdefault, hcase, hswitch, hreturn⟩ := hmarks mark hmark
  have hstart : (mark ++ ['_']).take 1 <+:
      (String.ofList mark ++ name ++ " = " ++ value).toList := by
    rw [hline, ← hrest]
    exact (List.take_prefix _ _).trans ⟨'_' :: (rest ++ (assignMark ++ value.toList)), by simp⟩
  have hassigned : assigned (mark ++ (name.toList ++ (assignMark ++ value.toList))) =
      name.toList ++ (assignMark ++ value.toList) := by
    have hself (mark rest : List Char) : (mark ++ rest).dropPrefix? mark = some rest :=
      List.dropPrefix?_eq_some_iff.mpr ⟨mark, rfl, by simp⟩
    have hnone {mark : List Char} (hapart : Apart mark ['_', '_']) :
        (name.toList ++ (assignMark ++ value.toList)).dropPrefix? mark = none := by
      rw [← hrest, List.append_assoc, dropPrefix?_eq_none_of_apart hapart]
    simp only [introducing, List.mem_cons, List.not_mem_nil, or_false] at hmark
    unfold assigned
    rcases hmark with rfl | rfl | rfl
    · rw [hself]
    · rw [dropPrefix?_eq_none_of_apart (by decide), hself]
      rfl
    · rw [List.nil_append, hnone (by decide), hnone (by decide)]
      rfl
  have hback : ∀ c ∈ (assignMark ++ value.toList).head?, Naming.isWordChar c = false := by
    intro c hc
    obtain rfl : ' ' = c := Option.some.inj hc
    decide
  have hvalue : ((name.toList ++ (assignMark ++ value.toList)).dropWhile
      Naming.isWordChar).dropPrefix? assignMark = some value.toList := by
    rw [List.dropWhile_append_of_pos hword]
    exact List.dropPrefix?_append_of_beq _ (by decide)
  have hsaid : statementOf? (String.ofList mark ++ name ++ " = " ++ value) =
      some (.ofValue name value.toList) := by
    obtain ⟨back, hstart⟩ := hstart
    rw [statementOf?, ← hstart, dropPrefix?_eq_none_of_apart hswitch,
      dropPrefix?_eq_none_of_apart hreturn, hstart, hline]
    dsimp only
    rw [hassigned, hvalue, takeWhile_append_of_head? hword hback, String.ofList_toList]
    rfl
  exact says_line (labelOf?_eq_none hdefault hcase hstart) hsaid

section Statements

variable {mark : List Char} (hmark : mark ∈ introducing) {name : String}
  (hword : Naming.IsWord name) (hmade : Naming.IsMade name)
include hmark hword hmade

theorem says_binds {value : String} (hvalue : StartsOther 'N' value) :
    Says [.line (String.ofList mark ++ name ++ " = " ++ (value ++ ";"))] [.binds name value] := by
  obtain ⟨c, hc, hne⟩ := hvalue
  obtain ⟨rest, hrest⟩ := List.head?_eq_some_iff.mp hc
  have hapart : Apart callMark [c] := by
    exact ⟨by simp [callMark], by simp [callMark, hne]⟩
  have hvalue : Statement.ofValue name (value ++ ";").toList = .binds name value := by
    have htext : (value ++ ";").toList = value.toList ++ [';'] := String.toList_append
    have hnone : (value.toList ++ [';']).dropPrefix? callMark = none := by
      rw [hrest]
      exact dropPrefix?_eq_none_of_apart hapart _
    rw [Statement.ofValue, htext, hnone, List.dropLast_concat, String.ofList_toList]
  exact hvalue ▸ says_assigned hmark hword hmade (value ++ ";")

/-- A variable is the result of a call. -/
theorem says_calls {symbol : String} (hsymbol : Naming.IsWord symbol) {args : List String}
    (hargs : ∀ a ∈ args, Closed a ∧ StartsOther ' ' a) :
    Says [.line (String.ofList mark ++ name ++ " = " ++ (callImported symbol args ++ ";"))]
      [.calls name (Naming.managedIdent symbol) (args ++ [statusArgument])] := by
  have hall : ∀ a ∈ args ++ [statusArgument], Closed a ∧ trimStart a = a := by
    intro a ha
    obtain ha | ha := List.mem_append.mp ha
    · exact ⟨(hargs a ha).1, (hargs a ha).2.trimStart_eq⟩
    · obtain rfl := List.mem_singleton.mp ha
      exact ⟨.ofList (by decide), by decide⟩
  have htrim : (args ++ [statusArgument]).map trimStart = args ++ [statusArgument] :=
    (List.map_congr_left fun a ha => (hall a ha).2).trans (List.map_id _)
  have happlication : application ((Naming.managedIdent symbol).toList ++
      '(' :: ((", ".intercalate (args ++ [statusArgument])).toList ++ ')' :: [';'])) =
        ⟨Naming.managedIdent symbol, args ++ [statusArgument], [';']⟩ := by
    rw [application_eq (hsymbol.managedIdent.notMem (by decide)) (by simp) _
      (fun a ha => (hall a ha).1), htrim]
  have htext : (callImported symbol args ++ ";").toList = callMark ++
      ((Naming.managedIdent symbol).toList ++
        '(' :: ((", ".intercalate (args ++ [statusArgument])).toList ++ ')' :: [';'])) := by
    have hmark : "NativeMethods.".toList = callMark := String.toList_ofList
    rw [← hmark]
    show ("NativeMethods." ++ Naming.managedIdent symbol ++ "(" ++
      commas (args ++ [statusArgument]) ++ ")" ++ ";").toList = _
    generalize "NativeMethods." = front
    simp [commas]
  have hvalue : Statement.ofValue name (callImported symbol args ++ ";").toList =
      .calls name (Naming.managedIdent symbol) (args ++ [statusArgument]) := by
    rw [Statement.ofValue, htext, List.dropPrefix?_append_of_beq _ (by decide)]
    dsimp only
    rw [happlication]
  exact hvalue ▸ says_assigned hmark hword hmade (callImported symbol args ++ ";")

end Statements

/-- The statement that returns a record. -/
theorem says_returns {record : String} (hrecord : Naming.IsWord record) {args : List String}
    (hargs : ∀ a ∈ args, Naming.IsWord a ∧ a ≠ "") :
    Says [.line s!"return new {record}({commas args});"] [.returns record args] := by
  -- A list of no arguments is read as one argument that is empty.
  obtain ⟨given, hne, hclosed, hcommas, hfilter⟩ : ∃ given : List String, given ≠ [] ∧
      (∀ a ∈ given, Closed a) ∧ commas args = ", ".intercalate given ∧
        (given.map trimStart).filter (· ≠ "") = args := by
    cases args with
    | nil => exact ⟨[""], by decide, by simpa using Closed.ofList (by simp), rfl, by decide⟩
    | cons first rest =>
      refine ⟨first :: rest, List.cons_ne_nil _ _, fun a ha => closed_of_isWord (hargs a ha).1, rfl,
        ?_⟩
      have htrim : (first :: rest).map trimStart = first :: rest :=
        (List.map_congr_left fun a ha => trimStart_of_isWord (hargs a ha).1).trans (List.map_id _)
      rw [htrim, List.filter_eq_self]
      exact fun a ha => decide_eq_true (hargs a ha).2
  have hline : (s!"return new {record}({commas args});").toList = returnMark ++
      (record.toList ++ '(' :: ((", ".intercalate given).toList ++ ')' :: [';'])) := by
    have hmark : "return new ".toList = returnMark := String.toList_ofList
    rw [← hmark, ← hcommas]
    show ("return new " ++ record ++ "(" ++ commas args ++ ");").toList = _
    generalize "return new " = front
    simp
  have hstart : ['r'] <+: (s!"return new {record}({commas args});").toList := by
    rw [hline]
    exact ⟨returnMark.tail ++ _, rfl⟩
  have hsaid : statementOf? s!"return new {record}({commas args});" =
      some (.returns record args) := by
    rw [statementOf?, hline, dropPrefix?_eq_none_of_apart (by decide),
      List.dropPrefix?_append_of_beq _ (by decide)]
    dsimp only
    rw [application_eq (hrecord.notMem (by decide)) hne _ hclosed]
    dsimp only
    rw [hfilter]
  exact says_line (labelOf?_eq_none (by decide) (by decide) hstart) hsaid

/-! ### Labels -/

/-- The label of a case with the name behind it, if there is one. -/
theorem labelOf?_case {label : String} (hlabel : Naming.IsWord label) {behind : String}
    (hbehind : ∀ c ∈ behind.toList.head?, Naming.isWordChar c = false) :
    labelOf? s!"case {label}{behind}:" =
      some (label, String.ofList (behind.toList.drop 1)) := by
  have hline : (s!"case {label}{behind}:").toList =
      caseMark ++ (label.toList ++ (behind.toList ++ [':'])) := by
    have hmark : "case ".toList = caseMark := String.toList_ofList
    rw [← hmark]
    show ("case " ++ label ++ behind ++ ":").toList = _
    generalize "case " = front
    simp
  have hsign : ∀ c ∈ (behind.toList ++ [':']).head?, Naming.isWordChar c = false := by
    intro c hc
    rw [List.head?_append] at hc
    cases hfirst : behind.toList.head? with
    | some d =>
      rw [hfirst] at hc
      exact Option.some.inj hc ▸ hbehind d hfirst
    | none =>
      rw [hfirst] at hc
      obtain rfl : ':' = c := Option.some.inj hc
      decide
  have hrest : (label.toList ++ (behind.toList ++ [':'])).dropWhile Naming.isWordChar =
      behind.toList ++ [':'] := by
    rw [List.dropWhile_append_of_pos hlabel]
    cases hcs : behind.toList ++ [':'] with
    | nil => rfl
    | cons c cs =>
      rw [hcs] at hsign
      exact List.dropWhile_cons_of_neg (by simp [hsign c rfl])
  rw [labelOf?, hline, dropPrefix?_eq_none_of_apart (by decide),
    List.dropPrefix?_append_of_beq _ (by decide)]
  dsimp only
  rw [Option.map_some, takeWhile_append_of_head? hlabel hsign, hrest, List.dropLast_concat,
    String.ofList_toList]

/-! ## Records from handles -/

variable {s : Surface}

/-- What is said about the field at a place: the flat value is read, and then lifted. -/
def RecordField.said (s : Surface) (f : RecordField) (i : Nat) : List Statement := [
  .binds "__status" "default",
  .calls s!"__r{i}" (Naming.managedIdent f.getter) ["handle", statusArgument],
  .binds s!"__f{i}" ((LiftForm.of f.type).expr s s!"__r{i}")]

/-- The case that makes a record from a handle. -/
def VariantRecord.decodeCase (s : Surface) (r : VariantRecord) : Case where
  label := toString r.discriminant
  bound := ""
  said := r.fields.zipIdx.flatMap (fun (f, i) => f.said s i)
    ++ [.returns r.name ((List.range r.fields.length).map fun i => s!"__f{i}")]

theorem says_checkStatus : Says [checkStatus] [] := says_ofList (by decide)

theorem says_newStatus : Says [newStatus] [.binds "__status" "default(CallStatus)"] := by
  have hsaid : statementOf? "var __status = default(CallStatus);" =
      some (.binds "__status" "default(CallStatus)") := by
    decide
  exact says_line (by decide) hsaid

theorem closed_handle : ∀ a ∈ ["handle"], Closed a ∧ StartsOther ' ' a := by
  simpa using ⟨Closed.ofList (by decide), StartsOther.ofList (by decide)⟩

private theorem says_fieldDecode {f : RecordField} (hgetter : Naming.IsWord f.getter) (i : Nat) :
    Says (f.decode s i) (f.said s i) := by
  have hvar : varMark ∈ introducing := by decide
  have hraw : Naming.IsWord s!"__r{i}" ∧ Naming.IsMade s!"__r{i}" :=
    ⟨.append (by decide) (Naming.isWord_toString i), Naming.isMade_append (by decide) _⟩
  have hlifted : Naming.IsWord s!"__f{i}" ∧ Naming.IsMade s!"__f{i}" :=
    ⟨.append (by decide) (Naming.isWord_toString i), Naming.isMade_append (by decide) _⟩
  have hreset : statementOf? "__status = default;" = some (.binds "__status" "default") := by
    decide
  have hcall := says_calls hvar hraw.1 hraw.2 hgetter closed_handle
  have hvalue : StartsOther 'N' ((LiftForm.of f.type).expr s s!"__r{i}") :=
    startsOther_liftForm (by decide) (by decide) _ (StartsOther.append (.ofList (by decide)) _)
  have hlift := says_binds hvar hlifted.1 hlifted.2 hvalue
  have htext : s!"var __r{i} = " ++ callImported f.getter ["handle"] ++ ";" =
      String.ofList varMark ++ s!"__r{i}" ++ " = "
        ++ (callImported f.getter ["handle"] ++ ";") := by
    show "var " ++ "__r" ++ toString i ++ " = " ++ _ ++ _ = _
    simp only [String.append_assoc]
    rfl
  have htext' : s!"var __f{i} = " ++ (LiftForm.of f.type).expr s s!"__r{i}" ++ ";" =
      String.ofList varMark ++ s!"__f{i}" ++ " = "
        ++ ((LiftForm.of f.type).expr s s!"__r{i}" ++ ";") := by
    show "var " ++ "__f" ++ toString i ++ " = " ++ _ ++ _ = _
    simp only [String.append_assoc]
    rfl
  rw [← htext] at hcall
  rw [← htext'] at hlift
  exact (says_line (by decide) hreset).append (hcall.append (says_checkStatus.append hlift))

private theorem isCase_decode {r : VariantRecord} (h : r.Readable) :
    IsCase (r.decode s) (r.decodeCase s) := by
  have hlabel : labelOf? s!"case {r.discriminant}:" = some (toString r.discriminant, "") := by
    have hbehind : ∀ c ∈ "".toList.head?, Naming.isWordChar c = false := by simp
    have htext : "case " ++ toString r.discriminant ++ "" ++ ":" =
        "case " ++ toString r.discriminant ++ ":" := by
      rw [String.append_empty]
    exact htext ▸ labelOf?_case (Naming.isWord_toString r.discriminant) hbehind
  have hvalues : ∀ a ∈ (List.range r.fields.length).map fun i => s!"__f{i}",
      Naming.IsWord a ∧ a ≠ "" := by
    intro a ha
    obtain ⟨i, -, rfl⟩ := List.mem_map.mp ha
    refine ⟨.append (by decide) (Naming.isWord_toString i), fun hnil => ?_⟩
    have hlength := congrArg String.length hnil
    simp [toString] at hlength
  have hfields : Says (r.fields.zipIdx.flatMap fun (f, i) => f.decode s i)
      (r.fields.zipIdx.flatMap fun (f, i) => f.said s i) := by
    refine Says.flatMap fun p hp => ?_
    exact says_fieldDecode (h.fields p.1 (List.fst_mem_of_mem_zipIdx hp)).2.1 p.2
  exact ⟨_, _, VariantRecord.decode_eq s r, hlabel, hfields.append (says_returns h.name hvalues)⟩

/-- **The cases that make records from handles** are found again: they come after the discriminant
has been read, and are about it. -/
theorem choiceOf_decode {e : EnumClass} (h : e.Readable) :
    choiceOf (Code.textsAll (e.decode s)) =
      ⟨[.binds "__status" "default(CallStatus)",
          .calls "__tag" (Naming.managedIdent e.tagSymbol) ["handle", statusArgument],
          .switches "__tag"],
        e.records.map (·.decodeCase s) ++ [⟨"default", "", []⟩]⟩ := by
  have hheader : Says [.line ("internal static " ++ s.qualified e.interface
      ++ " Decode(ulong handle)")] [] := by
    rw [String.append_assoc]
    exact says_ofList_append (by decide) _
  have htry : Says [.line "try"] [] := says_line (by decide) (by decide : statementOf? "try" = none)
  have htag : Says [.line ("var __tag = " ++ callImported e.tagSymbol ["handle"] ++ ";")]
      [.calls "__tag" (Naming.managedIdent e.tagSymbol) ["handle", statusArgument]] := by
    have htext : String.ofList varMark ++ "__tag" ++ " = "
        ++ (callImported e.tagSymbol ["handle"] ++ ";") =
          "var __tag = " ++ callImported e.tagSymbol ["handle"] ++ ";" := by
      rw [← String.append_assoc]
      rfl
    exact htext ▸ says_calls (by decide : varMark ∈ introducing) (by decide : Naming.IsWord "__tag")
      (by decide) h.tag closed_handle
  have hswitch : statementOf? "switch (__tag)" = some (.switches "__tag") := by decide
  have hbefore := hheader.append (says_brace.1.append (htry.append (says_brace.1.append
    (says_newStatus.append (htag.append (says_checkStatus.append
      ((says_line (by decide) hswitch).append says_brace.1)))))))
  have hfailure : Says [.line ("    throw new NativeContractException($\"unknown " ++ e.native
      ++ " discriminant \x7b__tag\x7d\");")] [] := by
    rw [String.append_assoc]
    exact says_ofList_append (by decide) _
  have hfinally : Says [.line "finally"] [] :=
    says_line (by decide) (by decide : statementOf? "finally" = none)
  have hfree : Says [.line "Free(handle);"] [] := says_ofList (by decide)
  have hafter := hfailure.append (says_brace.2.append (says_brace.2.append (hfinally.append
    (says_brace.1.append (hfree.append (says_brace.2.append says_brace.2))))))
  refine choiceOf_eq ?_ hbefore (fun r hr => isCase_decode (h.records r hr)) hafter
  simp [EnumClass.decode, Code.textsAll_append, Code.textsAll, Code.texts, toString]

/-! ## Handles from records -/

/-- The value of the temporary of an argument, if it needs one. -/
def Argument.value? (s : Surface) (a : Argument) : Option String :=
  match a.form with
  | .text => some (textTemporary a.source)
  | .enum id => some (enumTemporary s id a.source)
  | .optionText _ => some (nullable a.source (textTemporary a.source))
  | .optionEnum _ id => some (nullable a.source (enumTemporary s id a.source))
  | _ => none

/-- What is said about the temporary of an argument. -/
def Argument.said (s : Surface) (a : Argument) : List Statement :=
  (a.value? s).toList.map (.binds a.temporary)

/-- The case that makes a handle from a record. -/
def VariantRecord.lowerCase (s : Surface) (r : VariantRecord) : Case where
  label := r.name
  bound := if r.fields.isEmpty then "" else "__v"
  said := (r.fields.map (·.argument)).flatMap (·.said s)
    ++ [.calls "__ret" (Naming.managedIdent r.makeSymbol)
      (r.fields.map (·.argument.expr) ++ [statusArgument])]

/-- An argument whose expression and whose temporary start like names that are made up. -/
structure Argument.IsLocal (a : Argument) : Prop where
  source : Naming.IsMade a.source
  temporary : Naming.IsMade a.temporary

theorem startsOther_of_isMade {sign : Char} (hsign : '_' ≠ sign) {name : String}
    (h : Naming.IsMade name) : StartsOther sign name := by
  obtain ⟨rest, hrest⟩ := h
  exact ⟨'_', by rw [← hrest]; rfl, hsign⟩

private theorem startsOther_argument {sign : Char} (hsign : '_' ≠ sign) (hreceiver : 'R' ≠ sign)
    {a : Argument} (h : a.IsLocal) : StartsOther sign a.expr := by
  have hsource := startsOther_of_isMade hsign h.source
  have htemporary := startsOther_of_isMade hsign h.temporary
  unfold Argument.expr
  split
  · exact hsource
  · exact hsource.append _
  · exact htemporary.append _
  · exact htemporary.append _
  · exact hsource.append _
  · exact .ofList hreceiver
  · exact (((hsource.append _).append _).append _).append _ |>.append _
  · exact (((hsource.append _).append _).append _).append _ |>.append _
  · exact (hsource.append _).append _
  · exact (htemporary.append _).append _
  · exact (htemporary.append _).append _

theorem Argument.setup_eq (s : Surface) (a : Argument) :
    a.setup s = (a.value? s).toList.map (bindTemporary a) := by
  unfold Argument.setup Argument.value?
  cases a.form <;> rfl

private theorem startsOther_value {a : Argument} (h : a.IsLocal) :
    ∀ value ∈ a.value? s, StartsOther 'N' value := by
  have hsource : StartsOther 'N' a.source := startsOther_of_isMade (by decide) h.source
  have hnullable (value : String) : StartsOther 'N' (nullable a.source value) :=
    (hsource.append _).append _
  intro value hvalue
  unfold Argument.value? at hvalue
  split at hvalue <;> cases hvalue
  · exact (StartsOther.append (.ofList (by decide)) _).append _
  · exact (((((((StartsOther.append (.ofList (by decide)) _).append _).append _).append _).append
      _).append _).append _).append _
  · exact hnullable _
  · exact hnullable _

private theorem says_setup {a : Argument} (ha : Naming.IsWord a.temporary) (hlocal : a.IsLocal) :
    Says (lines (a.setup s)) (a.said s) := by
  have hvalue := startsOther_value (s := s) hlocal
  rw [Argument.setup_eq, Argument.said]
  cases hfound : a.value? s with
  | none => exact says_nil
  | some value =>
    have htext : bindTemporary a value =
        String.ofList usingMark ++ a.temporary ++ " = " ++ (value ++ ";") := by
      show "using var " ++ a.temporary ++ " = " ++ value ++ ";" = _
      rw [String.append_assoc]
      rfl
    show Says [.line (bindTemporary a value)] [.binds a.temporary value]
    rw [htext]
    exact says_binds (by decide : usingMark ∈ introducing) ha hlocal.temporary (hvalue value hfound)

private theorem says_setups {args : List Argument}
    (h : ∀ a ∈ args, Naming.IsWord a.temporary ∧ a.IsLocal) :
    Says (lines (args.flatMap (·.setup s))) (args.flatMap (·.said s)) := by
  have hlines : lines (args.flatMap (·.setup s)) = args.flatMap fun a => lines (a.setup s) :=
    List.map_flatMap
  rw [hlines]
  exact Says.flatMap fun a ha => says_setup (h a ha).1 (h a ha).2

private theorem says_keepAlive (owner : String) : Says [keepAlive owner] [] := by
  show Says [.line ("global::System.GC.KeepAlive(" ++ owner ++ ");")] []
  rw [String.append_assoc]
  exact says_ofList_append (by decide) _

/-- A record whose arguments are local. -/
def VariantRecord.IsLocal (r : VariantRecord) : Prop := ∀ f ∈ r.fields, f.argument.IsLocal

private theorem isCase_lower {r : VariantRecord} (h : r.Readable) (hlocal : r.IsLocal) :
    IsCase (r.lower s) (r.lowerCase s) := by
  have hlabel : labelOf? ("case " ++ r.name ++ (if r.fields.isEmpty then "" else " __v") ++ ":") =
      some (r.name, if r.fields.isEmpty then "" else "__v") := by
    split
    · exact labelOf?_case h.name (by simp)
    · exact labelOf?_case h.name (by decide)
  have hargs : ∀ a ∈ r.fields.map (·.argument), a.Readable ∧ a.IsLocal := by
    intro a ha
    obtain ⟨f, hf, rfl⟩ := List.mem_map.mp ha
    exact ⟨(h.fields f hf).2.2, hlocal f hf⟩
  have hexprs : ∀ e ∈ r.fields.map (·.argument.expr), Closed e ∧ StartsOther ' ' e := by
    intro e he
    obtain ⟨f, hf, rfl⟩ := List.mem_map.mp he
    exact ⟨(inline_argument (h.fields f hf).2.2).closed,
      startsOther_argument (by decide) (by decide) (hlocal f hf)⟩
  have hsetups := says_setups (s := s) fun a ha => ⟨(hargs a ha).1.temporary, (hargs a ha).2⟩
  have hcall : Says [.line ("__ret = " ++ callImported r.makeSymbol
      ((r.fields.map (·.argument)).map (·.expr)) ++ ";")]
      [.calls "__ret" (Naming.managedIdent r.makeSymbol)
        (r.fields.map (·.argument.expr) ++ [statusArgument])] := by
    have hmap : (r.fields.map (·.argument)).map (·.expr) = r.fields.map (·.argument.expr) :=
      List.map_map
    have htext (call : String) : String.ofList [] ++ "__ret" ++ " = " ++ (call ++ ";") =
        "__ret = " ++ call ++ ";" := by
      rw [← String.append_assoc]
      rfl
    rw [hmap, ← htext]
    exact says_calls (by decide : [] ∈ introducing) (by decide : Naming.IsWord "__ret") (by decide)
      h.make hexprs
  have hkeep : Says (((r.fields.map (·.argument)).filterMap (·.keepAlive?)).map keepAlive) [] :=
    says_map fun owner _ => says_keepAlive owner
  have hbreak : Says (lines ["break;"]) [] := says_ofList (by decide)
  have hbody := ((hsetups.append hcall).append hkeep).append hbreak
  rw [List.append_nil, List.append_nil] at hbody
  exact ⟨_, _, VariantRecord.lower_eq s r, hlabel, hbody⟩

/-- **The cases that make handles from records** are found again: the choice is about the value. -/
theorem choiceOf_lower {e : EnumClass} (h : e.Readable) (hlocal : ∀ r ∈ e.records, r.IsLocal) :
    choiceOf (Code.textsAll (e.lower s)) =
      ⟨[.binds "__status" "default(CallStatus)", .switches "value"],
        e.records.map (·.lowerCase s) ++ [⟨"default", "", []⟩]⟩ := by
  have hheader : Says [.line ("internal static ulong Lower(" ++ s.qualified e.interface
      ++ " value)")] [] := by
    rw [String.append_assoc]
    exact says_ofList_append (by decide) _
  have hresult : Says [.line "ulong __ret;"] [] := says_ofList (by decide)
  have hswitch : statementOf? "switch (value)" = some (.switches "value") := by decide
  have hbefore := hheader.append (says_brace.1.append (says_newStatus.append (hresult.append
    ((says_line (by decide) hswitch).append says_brace.1))))
  have hfailure : Says [.line ("    throw new global::System.ArgumentException($\"unknown "
      ++ e.interface ++ " implementation \x7bvalue?.GetType()\x7d\", nameof(value));")] [] := by
    rw [String.append_assoc]
    exact says_ofList_append (by decide) _
  have hreturn : Says [.line "return __ret;"] [] := says_ofList (by decide)
  have hafter := hfailure.append (says_brace.2.append (says_checkStatus.append
    (hreturn.append says_brace.2)))
  refine choiceOf_eq ?_ hbefore (fun r hr => isCase_lower (h.records r hr) (hlocal r hr)) hafter
  simp [EnumClass.lower, Code.textsAll_append, Code.textsAll, Code.texts, toString]

end Boundary.Managed
