import Boundary.Proofs.Managed.Marks
import Boundary.Proofs.Managed.Members

/-!
# Variables in managed code

Which variables the statements of a body declare, read off its lines at every depth: those that
start with `using var`, with `var`, or with the type of a handle.

* `varOfLine?`, `varsOf`: the variable of a line, and the variables of code.
* `NoVar`: texts that start like no such line.
* `temporariesOf`: the temporaries for the arguments of a call.
* `varsOf_returning`: the variables around a call are temporaries, a status and a result.
* `varsOf_recordDecode`, `varsOf_recordLower`: those of the cases for a variant.
-/

namespace Boundary.Managed

open Source Text

/-! ## Reading -/

/-- What introduces a variable that is disposed of: `using var` and a blank. -/
def usingMark : List Char := ['u', 's', 'i', 'n', 'g', ' '] ++ varMark

/-- What introduces a variable for a handle: `ulong` and a blank. -/
def ulongMark : List Char := ['u', 'l', 'o', 'n', 'g', ' ']

/-- What lines start with that declare a variable. -/
def declaringMarks : List (List Char) := [usingMark, varMark, ulongMark]

/-- The variable that a line declares. -/
def varOfLine? (line : String) : Option String :=
  (declaringMarks.findSome? (line.toList.dropPrefix? ·)).map fun rest =>
    String.ofList (rest.takeWhile Naming.isWordChar)

/-- The variables that the lines of some code declare. -/
def varsOf (code : List Code) : List String := (Code.textsAll code).filterMap varOfLine?

/-- The name behind the mark is the variable. -/
theorem varOfLine?_of_mark {mark : List Char} (hmark : mark ∈ declaringMarks) {name back : String}
    (hname : Naming.IsWord name) (hback : ∀ c ∈ back.toList.head?, Naming.isWordChar c = false) :
    varOfLine? (String.ofList mark ++ (name ++ back)) = some name := by
  have hfound : declaringMarks.findSome?
      ((String.ofList mark ++ (name ++ back)).toList.dropPrefix? ·) =
        some (name ++ back).toList := by
    rw [String.toList_append, String.toList_ofList]
    have hself (mark rest : List Char) : (mark ++ rest).dropPrefix? mark = some rest :=
      List.dropPrefix?_eq_some_iff.mpr ⟨mark, rfl, by simp⟩
    have hmarks : Apart usingMark varMark ∧ Apart usingMark ulongMark ∧
        Apart varMark ulongMark := by
      decide
    simp only [declaringMarks, List.mem_cons, List.not_mem_nil, or_false] at hmark
    simp only [declaringMarks, List.findSome?_cons]
    obtain rfl | rfl | rfl := hmark
    · rw [hself]
    · rw [dropPrefix?_eq_none_of_apart hmarks.1, hself]
    · rw [dropPrefix?_eq_none_of_apart hmarks.2.1, dropPrefix?_eq_none_of_apart hmarks.2.2, hself]
  rw [varOfLine?, hfound, Option.map_some, String.toList_append,
    takeWhile_append_of_head? hname hback, String.ofList_toList]

/-! ### Lines without a variable -/

/-- A text that starts like no line that declares a variable. -/
def NoVar (text : String) : Prop := ∃ c ∈ text.toList.head?, c ∉ ['u', 'v']

theorem NoVar.append {a : String} (h : NoVar a) (b : String) : NoVar (a ++ b) := by
  obtain ⟨c, hc, hne⟩ := h
  refine ⟨c, ?_, hne⟩
  rw [String.toList_append, List.head?_append, Option.mem_def.mp hc]
  rfl

theorem NoVar.ofList {c : Char} {cs : List Char} (h : c ∉ ['u', 'v']) :
    NoVar (String.ofList (c :: cs)) := ⟨c, by simp, h⟩

theorem NoVar.eq_none {text : String} (h : NoVar text) : varOfLine? text = none := by
  obtain ⟨c, hc, hne⟩ := h
  have hmarks : ∀ mark ∈ declaringMarks, ∃ d ∈ ['u', 'v'], mark.head? = some d := by decide
  have hnothing : declaringMarks.findSome? (text.toList.dropPrefix? ·) = none := by
    rw [List.findSome?_eq_none_iff]
    intro mark hmark
    obtain ⟨d, hd, hfirst⟩ := hmarks mark hmark
    rw [Option.eq_none_iff_forall_ne_some]
    intro rest hrest
    obtain ⟨mark', htext, hsame⟩ := List.dropPrefix?_eq_some_iff.mp hrest
    rw [eq_of_beq hsame] at htext
    rw [htext, List.head?_append, hfirst] at hc
    obtain rfl := Option.some.inj hc
    exact hne hd
  rw [varOfLine?, hnothing, Option.map_none]

/-! ### Putting code together -/

theorem varsOf_append (a b : List Code) : varsOf (a ++ b) = varsOf a ++ varsOf b := by
  rw [varsOf, Code.textsAll_append, List.filterMap_append]
  rfl

theorem varsOf_flatMap {β : Type} (f : β → List Code) (bs : List β) :
    varsOf (bs.flatMap f) = bs.flatMap fun b => varsOf (f b) := by
  induction bs with
  | nil => rfl
  | cons b rest ih => rw [List.flatMap_cons, varsOf_append, ih, List.flatMap_cons]

theorem varsOf_line {text : String} {v : Option String} (h : varOfLine? text = v) :
    varsOf [.line text] = v.toList := by
  rw [varsOf, Code.textsAll, Code.texts, Code.textsAll, List.append_nil]
  cases v <;> simp [h]

theorem NoVar.line {text : String} (h : NoVar text) : varsOf [.line text] = [] :=
  varsOf_line h.eq_none

theorem varsOf_declared {header : String} (h : NoVar header) (body : List Code) :
    varsOf (declared header body) = varsOf body := by
  have hbraces : varOfLine? "\x7b" = none ∧ varOfLine? "\x7d" = none := by decide
  simp [varsOf, declared, level, Code.textsAll, Code.textsAll_append, Code.texts, h.eq_none,
    hbraces]

/-- Code each part of which declares nothing. -/
theorem varsOf_map_eq_nil {β : Type} {f : β → Code} (h : ∀ b, varsOf [f b] = []) (bs : List β) :
    varsOf (bs.map f) = [] := by
  rw [List.map_eq_flatMap, varsOf_flatMap]
  simp [h]

/-! ## Statements -/

theorem varsOf_newStatus : varsOf [newStatus] = ["__status"] := by
  have hstatus : varOfLine? ("var " ++ ("__status" ++ " = default(CallStatus);")) =
      some "__status" :=
    varOfLine?_of_mark (by decide : varMark ∈ declaringMarks) (by decide) (by decide)
  exact varsOf_line hstatus

theorem varsOf_checkStatus : varsOf [checkStatus] = [] := NoVar.line (.ofList (by decide))

theorem varsOf_keepAlive (owner : String) : varsOf [keepAlive owner] = [] :=
  (((NoVar.ofList (by decide)).append _).append _).line

private theorem varsOf_forgetConsumed (owner : String) : varsOf [forgetConsumed owner] = [] :=
  (((NoVar.ofList (by decide)).append _).append _).line

private theorem noVar_callImported (symbol : String) (args : List String) :
    NoVar (callImported symbol args) :=
  ((((NoVar.ofList (by decide)).append _).append _).append _).append _

/-- A statement that binds a variable to a value. -/
theorem varsOf_binding {name : String} (hname : Naming.IsWord name) (value : String) :
    varsOf [.line ("var " ++ (name ++ (" = " ++ value)))] = [name] := by
  refine varsOf_line (varOfLine?_of_mark (by decide : varMark ∈ declaringMarks) hname ?_)
  intro c hc
  rw [String.toList_append, List.head?_append] at hc
  obtain rfl : ' ' = c := Option.some.inj hc
  decide

/-! ## Calls -/

/-- The temporaries for the arguments of a call. The wrapper that a method belongs to needs none. -/
def temporariesOf (args : List Argument) : List String :=
  (args.filter (·.form ≠ .receiver)).map (·.temporary)

variable (s : Surface)

/-- The statements before a call declare the temporary of the argument, or nothing. -/
theorem varsOf_setup {a : Argument} (h : Naming.IsWord a.temporary) :
    (varsOf (lines (a.setup s))).Sublist (temporariesOf [a]) := by
  have hbind (value : String) (hform : a.form ≠ .receiver) :
      (varsOf (lines [bindTemporary a value])).Sublist (temporariesOf [a]) := by
    have htext : bindTemporary a value =
        "using var " ++ (a.temporary ++ (" = " ++ value ++ ";")) := by
      show "using var " ++ a.temporary ++ " = " ++ value ++ ";" = _
      simp only [String.append_assoc]
    have hvar : varOfLine? (bindTemporary a value) = some a.temporary := by
      rw [htext]
      refine varOfLine?_of_mark (by decide : usingMark ∈ declaringMarks) h ?_
      intro c hc
      rw [String.append_assoc, String.toList_append, List.head?_append] at hc
      obtain rfl : ' ' = c := Option.some.inj hc
      decide
    have htemporaries : temporariesOf [a] = [a.temporary] := by simp [temporariesOf, hform]
    have hvars : varsOf (lines [bindTemporary a value]) = [a.temporary] := varsOf_line hvar
    rw [htemporaries, hvars]
  unfold Argument.setup
  split
  all_goals first
    | exact hbind _ (by simp [*])
    | exact List.nil_sublist _

private theorem temporariesOf_cons (a : Argument) (rest : List Argument) :
    temporariesOf (a :: rest) = temporariesOf [a] ++ temporariesOf rest := by
  rw [temporariesOf, temporariesOf, temporariesOf, ← List.map_append, ← List.filter_append]
  rfl

theorem varsOf_setups {args : List Argument} (h : ∀ a ∈ args, Naming.IsWord a.temporary) :
    (varsOf (lines (args.flatMap (·.setup s)))).Sublist (temporariesOf args) := by
  induction args with
  | nil => exact List.Sublist.refl _
  | cons a rest ih =>
    rw [List.forall_mem_cons] at h
    rw [List.flatMap_cons, lines, List.map_append, varsOf_append, temporariesOf_cons]
    exact (varsOf_setup s h.1).append (ih h.2)

private theorem varsOf_check (i : Invocation) : varsOf [i.check s] = [] := by
  unfold Invocation.check
  split
  · exact varsOf_checkStatus
  · exact varsOf_checkStatus
  · exact (((NoVar.ofList (by decide)).append _).append _).line

/-- The statement that calls an imported function. -/
theorem varsOf_call (i : Invocation) (call : String) (hcall : NoVar call) :
    (varsOf [.line (if i.flat = .void then s!"{call};" else s!"var __ret = {call};")]).Sublist
      ["__ret"] := by
  split
  · have hvars : varsOf [.line s!"{call};"] = [] := (hcall.append ";").line
    rw [hvars]
    exact List.nil_sublist _
  · have htext : s!"var __ret = {call};" = "var " ++ ("__ret" ++ (" = " ++ (call ++ ";"))) := by
      show "var " ++ "__ret" ++ " = " ++ call ++ ";" = _
      simp only [String.append_assoc]
    have hvars := varsOf_binding (by decide : Naming.IsWord "__ret") (call ++ ";")
    rw [htext, hvars]

theorem varsOf_invocation {i : Invocation} (h : ∀ a ∈ i.args, Naming.IsWord a.temporary) :
    (varsOf (i.code s)).Sublist (temporariesOf i.args ++ ["__status", "__ret"]) := by
  have hcall := varsOf_call i _ (noVar_callImported i.symbol (i.args.map (·.expr)))
  rw [Invocation.code, varsOf_append, varsOf_append, varsOf_append, varsOf_append, varsOf_check,
    varsOf_map_eq_nil varsOf_keepAlive, varsOf_map_eq_nil varsOf_forgetConsumed]
  simp only [List.append_nil]
  refine (varsOf_setups s h).append ?_
  rw [← List.singleton_append, varsOf_append, varsOf_newStatus]
  exact (List.Sublist.refl ["__status"]).append hcall

/-- **The variables around a call** are temporaries for its arguments, a status and a result. -/
theorem varsOf_returning {i : Invocation} (h : ∀ a ∈ i.args, Naming.IsWord a.temporary) :
    (varsOf (i.returning s)).Sublist (temporariesOf i.args ++ ["__status", "__ret"]) := by
  have hreturn (value : String) :
      varsOf (if i.flat = .void then [] else [.line s!"return {value};"]) = [] := by
    split
    · rfl
    · exact (((NoVar.ofList (by decide)).append _).append _).line
  rw [Invocation.returning, varsOf_append, hreturn, List.append_nil]
  exact varsOf_invocation s h

/-! ## Variants -/

/-- The raw and the lifted value of the field at a place. -/
def fieldVariables (i : Nat) : List String := [s!"__r{i}", s!"__f{i}"]

private theorem varsOf_fieldDecode (f : RecordField) (i : Nat) :
    varsOf (f.decode s i) = fieldVariables i := by
  have hnumbered {front : String} (hfront : Naming.IsWord front) (value : String) :
      varsOf [.line ("var " ++ (front ++ toString i ++ (" = " ++ value)))] =
        [front ++ toString i] :=
    varsOf_binding (hfront.append (Naming.isWord_toString i)) value
  have hreset : varsOf [.line "__status = default;"] = [] := NoVar.line (.ofList (by decide))
  have hraw : s!"var __r{i} = " ++ callImported f.getter ["handle"] ++ ";" =
      "var " ++ ("__r" ++ toString i ++ (" = " ++ (callImported f.getter ["handle"] ++ ";"))) := by
    show "var " ++ "__r" ++ toString i ++ " = " ++ _ ++ _ = _
    simp only [String.append_assoc]
  have hlifted : s!"var __f{i} = " ++ (LiftForm.of f.type).expr s s!"__r{i}" ++ ";" =
      "var " ++ ("__f" ++ toString i
        ++ (" = " ++ ((LiftForm.of f.type).expr s s!"__r{i}" ++ ";"))) := by
    show "var " ++ "__f" ++ toString i ++ " = " ++ _ ++ _ = _
    simp only [String.append_assoc]
  have hparts : f.decode s i = [.line "__status = default;"] ++
      [.line (s!"var __r{i} = " ++ callImported f.getter ["handle"] ++ ";")] ++ [checkStatus] ++
      [.line (s!"var __f{i} = " ++ (LiftForm.of f.type).expr s s!"__r{i}" ++ ";")] := rfl
  rw [hparts, varsOf_append, varsOf_append, varsOf_append, hreset, hraw, hlifted,
    varsOf_checkStatus, hnumbered (by decide), hnumbered (by decide)]
  rfl

/-- The case that makes the record of a variant declares a raw and a lifted value for each field. -/
theorem varsOf_recordDecode (r : VariantRecord) :
    varsOf (r.decode s) = (List.range r.fields.length).flatMap fieldVariables := by
  have hcase : NoVar s!"case {r.discriminant}:" := ((NoVar.ofList (by decide)).append _).append _
  have hreturn (values : String) : varsOf (lines [s!"return new {r.name}({values});"]) = [] :=
    (((((NoVar.ofList (by decide)).append _).append _).append _).append _).line
  have hfields : varsOf (r.fields.zipIdx.flatMap fun p => p.1.decode s p.2) =
      (List.range r.fields.length).flatMap fieldVariables := by
    rw [varsOf_flatMap, List.range_eq_range', ← List.zipIdx_map_snd 0 r.fields, List.flatMap_map]
    exact List.flatMap_congr fun p _ => varsOf_fieldDecode s p.1 p.2
  rw [VariantRecord.decode_eq, varsOf_declared hcase, varsOf_append, hreturn, List.append_nil]
  exact hfields

/-- The case that takes the record of a variant declares temporaries for its fields. -/
theorem varsOf_recordLower {r : VariantRecord}
    (h : ∀ a ∈ r.fields.map (·.argument), Naming.IsWord a.temporary) :
    (varsOf (r.lower s)).Sublist (temporariesOf (r.fields.map (·.argument))) := by
  have hcase (binding : String) : NoVar s!"case {r.name}{binding}:" :=
    (((NoVar.ofList (by decide)).append _).append _).append _
  have hcall (call : String) : varsOf [.line ("__ret = " ++ call ++ ";")] = [] :=
    (((NoVar.ofList (by decide)).append _).append _).line
  have hbreak : varsOf (lines ["break;"]) = [] := NoVar.line (.ofList (by decide))
  rw [VariantRecord.lower_eq, varsOf_declared (hcase _), varsOf_append, varsOf_append,
    varsOf_append, hcall, varsOf_map_eq_nil varsOf_keepAlive, hbreak]
  simp only [List.append_nil]
  exact varsOf_setups s h

end Boundary.Managed
