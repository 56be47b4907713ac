import Boundary.Proofs.Managed.Levels
import Boundary.Proofs.Managed.Marks
import Boundary.Proofs.Managed.SupportText
import Boundary.Proofs.Managed.Types
import Boundary.Proofs.Source.Brackets

/-!
# Braces in managed files

The braces of managed source match if they match in the names that it is put together of.

* `Surface.IsNested`: the types of a surface.
* `nested_argument`, `nested_setup`, `nested_liftForm`, `nested_readForm`: expressions.
* `isNested_declared`, `isNested_spaced`, `isNested_enclosed`: the ways to put code together.
* `nested_supportText`: support code.
* `Invocation.IsNested`, `Method.IsNested`, `Wrapper.IsNested`, `EnumClass.IsNested`: parts of a
  file with names in which braces match; `isNested_invocation`, `isNested_method`,
  `isNested_wrapper`, `isNested_enumClass`: their code.
* `File.IsNested`, `isNested_file`: a whole file.
-/

namespace Boundary.Managed

open Source Text

variable {s : Surface} {value : String}

/-! ## Types -/

/-- The braces of the names in the surface `s` match. -/
structure Surface.IsNested (s : Surface) : Prop where
  space : Nested s.managedNamespace
  typeName : ∀ id, Nested (s.typeName id)
  managed : ∀ id, Nested (Naming.pascal (s.typeName id))

theorem nested_typeParts : ∀ w ∈ typeParts, Nested w := by decide

section Types

variable (hs : s.IsNested)
include hs

theorem Surface.IsNested.qualified {name : String} (h : Nested name) : Nested (s.qualified name) :=
  Surface.forall_qualified (p := Nested) (fun _ _ => .append) nested_typeParts hs.space h

theorem Surface.IsNested.classOf (id : TypeId) : Nested (s.classOf id) :=
  hs.qualified (hs.managed id)

theorem Surface.IsNested.type (t : TypeRef) : Nested (s.type t) :=
  Surface.forall_type (p := Nested) (fun _ _ => .append) nested_typeParts hs.space hs.managed t

end Types

/-! ## Expressions -/

theorem nested_managed (t : FlatType) : Nested t.managed := nested_of_isWord (isWord_managed t)

theorem nested_commas {parts : List String} (h : ∀ part ∈ parts, Nested part) :
    Nested (commas parts) := .intercalate (nested_ofList (by decide)) h

theorem nested_managedIdent {name : String} (h : Nested name) :
    Nested (Naming.managedIdent name) := by
  unfold Naming.managedIdent
  split
  · exact (nested_ofList (by decide)).append h
  · exact h

/-- The braces of the texts in the argument `a` match. -/
structure Argument.IsNested (a : Argument) : Prop where
  source : Nested a.source
  temporary : Nested a.temporary

private theorem nested_byteOf (h : Nested value) : Nested (byteOf value) :=
  h.append (.ofList (by decide))

/-- `presentOption` sets the fields of an option between braces. -/
theorem nested_presentOption (type : FlatType) (h : Nested value) :
    Nested (presentOption type value) :=
  .enclose (((nested_ofList (by decide)).append (nested_managed type)).append (.ofList (by decide)))
    h (.ofList (by decide))

private theorem nested_optionUnlessNull (type : FlatType) {source : String}
    (hsource : Nested source) (h : Nested value) : Nested (optionUnlessNull type source value) :=
  (hsource.append (nested_ofList (by decide))).append (nested_presentOption type h)

private theorem nested_optionOfValue (type : FlatType) {a : Argument} (ha : a.IsNested)
    (h : Nested value) : Nested (optionOfValue type a value) :=
  ((((ha.source.append (nested_ofList (by decide))).append ha.temporary).append
    (nested_ofList (by decide))).append (nested_presentOption type h)).append
      (nested_ofList (by decide))

theorem nested_argument {a : Argument} (ha : a.IsNested) : Nested a.expr := by
  unfold Argument.expr
  split
  · exact ha.source
  · exact nested_byteOf ha.source
  · exact ha.temporary.append (nested_ofList (by decide))
  · exact ha.temporary.append (nested_ofList (by decide))
  · exact ha.source.append (nested_ofList (by decide))
  · exact nested_ofList (by decide)
  · exact nested_optionOfValue _ ha ha.temporary
  · exact nested_optionOfValue _ ha (nested_byteOf ha.temporary)
  · exact nested_optionUnlessNull _ ha.source (ha.source.append (nested_ofList (by decide)))
  · exact nested_optionUnlessNull _ ha.temporary (ha.temporary.append (nested_ofList (by decide)))
  · exact nested_optionUnlessNull _ ha.temporary (ha.temporary.append (nested_ofList (by decide)))

theorem nested_callImported {symbol : String} (hsymbol : Nested symbol) {args : List String}
    (hargs : ∀ a ∈ args, Nested a) : Nested (callImported symbol args) := by
  have hall : ∀ a ∈ args ++ [statusArgument], Nested a := by
    rw [List.forall_mem_append, List.forall_mem_singleton]
    exact ⟨hargs, nested_ofList (by decide)⟩
  exact ((((nested_ofList (by decide)).append (nested_managedIdent hsymbol)).append
    (nested_ofList (by decide))).append (nested_commas hall)).append (nested_ofList (by decide))

/-- The call of an imported function with a handle. -/
theorem nested_callWithHandle {symbol : String} (hsymbol : Nested symbol) :
    Nested (callImported symbol ["handle"]) := by
  refine nested_callImported hsymbol ?_
  rw [List.forall_mem_singleton]
  exact nested_ofList (by decide)

section Expressions

variable (hs : s.IsNested)
include hs

private theorem nested_enumTemporary (id : TypeId) (h : Nested value) :
    Nested (enumTemporary s id value) :=
  ((((((((nested_ofList (by decide)).append (hs.classOf id)).append
    (nested_ofList (by decide))).append h).append (nested_ofList (by decide))).append
      (hs.classOf id)).append (nested_ofList (by decide))).append (hs.typeName id)).append
        (nested_ofList (by decide))

theorem nested_setup {a : Argument} (ha : a.IsNested) : ∀ text ∈ a.setup s, Nested text := by
  have htext : Nested (textTemporary a.source) :=
    ((nested_ofList (by decide)).append ha.source).append (nested_ofList (by decide))
  have henum (id : TypeId) := nested_enumTemporary hs id ha.source
  have hnullable {value : String} (h : Nested value) : Nested (nullable a.source value) :=
    (ha.source.append (nested_ofList (by decide))).append h
  have hbind {value : String} (h : Nested value) :
      ∀ text ∈ [bindTemporary a value], Nested text := by
    rw [List.forall_mem_singleton]
    exact ((((nested_ofList (by decide)).append ha.temporary).append
      (nested_ofList (by decide))).append h).append (nested_ofList (by decide))
  unfold Argument.setup
  split
  · exact hbind htext
  · exact hbind (henum _)
  · exact hbind (hnullable htext)
  · exact hbind (hnullable (henum _))
  · exact List.forall_mem_nil _

theorem nested_ofHandle (id : TypeId) (h : Nested value) : Nested (s.ofHandle id value) := by
  have hmethod : Nested (if s.isEnum id then "Decode(" else "FromHandle(") := by
    split
    · exact nested_ofList (by decide)
    · exact nested_ofList (by decide)
  exact ((((hs.classOf id).append (nested_ofList (by decide))).append hmethod).append h).append
    (nested_ofList (by decide))

theorem nested_liftForm (l : LiftForm) (h : Nested value) : Nested (l.expr s value) := by
  induction l generalizing value with
  | same => exact h
  | bool => exact h.append (nested_ofList (by decide))
  | text => exact ((nested_ofList (by decide)).append h).append (nested_ofList (by decide))
  | handle id => exact nested_ofHandle hs id h
  | option type inner ih =>
    exact ((((h.append (nested_ofList (by decide))).append (hs.type type)).append
      (nested_ofList (by decide))).append (ih (h.append (nested_ofList (by decide))))).append
        (nested_ofList (by decide))

theorem nested_readForm (r : ReadForm) (h : Nested value) : Nested (r.expr s value) := by
  induction r with
  | nothing => exact nested_ofList (by decide)
  | primitive p =>
    have hname : Nested (Naming.pascal p.name) := by
      cases p <;> exact nested_of_isWord (Naming.isWord_pascal (by decide))
    exact ((h.append (nested_ofList (by decide))).append hname).append (nested_ofList (by decide))
  | text => exact h.append (nested_ofList (by decide))
  | handle id => exact nested_ofHandle hs id (h.append (nested_ofList (by decide)))
  | option type inner ih =>
    exact ((((h.append (nested_ofList (by decide))).append (hs.type type)).append
      (nested_ofList (by decide))).append ih).append (nested_ofList (by decide))

end Expressions

/-! ## Putting code together -/

section Code

variable {header : String} {body : List Code} {parts : List (List Code)}

theorem isNested_texts {texts : List String} (h : ∀ text ∈ texts, Nested text) :
    Source.IsNested (lines texts) := .map fun text htext => isNested_line (h text htext)

/-- Lines, one after the other. -/
theorem isNested_lines_cons {text : String} {rest : List String} (h : Nested text)
    (hrest : Source.IsNested (lines rest)) : Source.IsNested (lines (text :: rest)) :=
  (isNested_line h).append hrest

theorem isNested_declared (hheader : Nested header) (hbody : Source.IsNested body) :
    Source.IsNested (declared header body) :=
  (isNested_line hheader).append (.level (.ofList (by decide)) hbody (.ofList (by decide)))

theorem isNested_spaced (h : ∀ code ∈ parts, Source.IsNested code) :
    Source.IsNested (spaced parts) :=
  .flatMap fun code hcode => isNested_blank.append (h code hcode)

private theorem isNested_interspaced (h : ∀ code ∈ parts, Source.IsNested code) :
    Source.IsNested (interspaced parts) := by
  cases parts with
  | nil => exact isNested_nil
  | cons first rest =>
    rw [List.forall_mem_cons] at h
    exact h.1.append (isNested_spaced h.2)

end Code

/-! ## Support code -/

section Lines

variable {header : String} {texts : List String} {parts : List (List String)}

theorem braces_lines (texts : List String) :
    Code.braces (lines texts) = texts.flatMap bracesOf := by
  rw [Code.braces, lines, Code.textsAll_map_line]

theorem isNested_lines_append {a b : List String} (ha : Source.IsNested (lines a))
    (hb : Source.IsNested (lines b)) : Source.IsNested (lines (a ++ b)) := by
  rw [lines, List.map_append]
  exact ha.append hb

/-- `indented` adds no braces. -/
theorem isNested_indented (h : Source.IsNested (lines texts)) :
    Source.IsNested (lines (indented texts)) := by
  have hblanks : bracesOf "    " = [] := by decide
  have hbraces : (indented texts).flatMap bracesOf = texts.flatMap bracesOf := by
    rw [indented, List.flatMap_map]
    refine List.flatMap_congr fun text _ => ?_
    split
    · rename_i hempty
      obtain rfl : text = "" := by simpa using hempty
      rfl
    · rw [bracesOf_append, hblanks, List.nil_append]
  have hlevel := h.levelBehind_eq
  rw [braces_lines] at hlevel
  refine ⟨?_⟩
  rw [braces_lines, hbraces]
  exact hlevel

/-- The lines `texts` behind an opening brace in `header`, and the line `footer` that closes it. -/
theorem isNested_inside {footer : String} (hfooter : Leads 1 0 footer) (hheader : Nested header)
    (h : Source.IsNested (lines texts)) :
    Source.IsNested (lines (header :: "\x7b" :: indented texts ++ [footer])) := by
  have hopen : Leads 0 1 "\x7b" := .ofList (by decide)
  have hlevel : Source.IsNested (level "\x7b" footer (lines (indented texts))) :=
    .level hopen (isNested_indented h) hfooter
  have hbraces := hlevel.levelBehind_eq
  rw [Code.braces_level, braces_lines] at hbraces
  refine isNested_lines_cons hheader ⟨?_⟩
  rw [braces_lines]
  simpa using hbraces

theorem isNested_enclosed (hheader : Nested header) (h : Source.IsNested (lines texts)) :
    Source.IsNested (lines (enclosed header texts)) :=
  isNested_inside (.ofList (by decide)) hheader h

private theorem isNested_switched (hheader : Nested header) (h : Source.IsNested (lines texts)) :
    Source.IsNested (lines (switched header texts)) :=
  isNested_inside (.ofList (by decide)) hheader h

private theorem isNested_separated (h : ∀ texts ∈ parts, Source.IsNested (lines texts)) :
    Source.IsNested (lines (separated parts)) := by
  fun_induction separated parts with
  | case1 => exact isNested_nil
  | case2 texts => exact h texts List.mem_cons_self
  | case3 texts rest _ ih =>
    rw [List.forall_mem_cons] at h
    exact isNested_lines_append h.1 (isNested_lines_cons nested_empty (ih h.2))

end Lines

private theorem isNested_supportTypes (bufferFree : String) :
    ∀ t ∈ (supportTypes bufferFree).dropLast, Source.IsNested (lines t.lines) := by
  simp only [supportTypes, List.dropLast_cons_cons, List.dropLast_singleton, List.forall_mem_cons,
    List.not_mem_nil, false_imp_iff, implies_true, and_true]
  refine ⟨?_, ?_, ?_, ?_, ?_, ?_, ?_, ?_, ?_, ?_, ?_⟩
  all_goals
    repeat' first
    | exact isNested_nil
    | refine isNested_enclosed ?_ ?_
    | refine isNested_switched ?_ ?_
    | refine isNested_lines_append ?_ ?_
    | refine isNested_lines_cons ?_ ?_
    | exact (nested_ofList (by decide)).append (nested_ofList (by decide))
    | exact nested_ofList (by decide)

private theorem isNested_ffi {bufferFree : String} (h : Nested bufferFree) :
    Source.IsNested (lines (ffi bufferFree)) := by
  unfold ffi
  repeat' first
    | exact isNested_nil
    | refine isNested_enclosed ?_ ?_
    | refine isNested_lines_append ?_ ?_
    | refine isNested_lines_cons ?_ ?_
    | exact ((nested_ofList (by decide)).append h).append (nested_ofList (by decide))
    | exact (nested_ofList (by decide)).append (nested_ofList (by decide))
    | exact nested_ofList (by decide)

private theorem bracesOf_intercalate {separator : String} (h : bracesOf separator = []) :
    (texts : List String) → bracesOf (separator.intercalate texts) = texts.flatMap bracesOf
  | [] => rfl
  | [text] => by simp
  | first :: second :: rest => by
    rw [String.intercalate_cons_cons, bracesOf_append, bracesOf_append, h,
      bracesOf_intercalate h (second :: rest), List.append_nil]
    rfl

/-- **The braces of support code match.** -/
theorem nested_supportText {bufferFree : String} (h : Nested bufferFree) :
    Nested (supportText bufferFree) := by
  have hlines : (supportTypes bufferFree).map (·.lines) =
      (supportTypes bufferFree).dropLast.map (·.lines) ++ [ffi bufferFree] := rfl
  have hnested : Source.IsNested (lines (supportLines bufferFree)) := by
    rw [supportLines, hlines]
    refine isNested_separated ?_
    rw [List.forall_mem_append, List.forall_mem_map, List.forall_mem_singleton]
    exact ⟨isNested_supportTypes bufferFree, isNested_ffi h⟩
  have hlevel := hnested.levelBehind_eq
  rw [braces_lines] at hlevel
  rw [Nested, leads_iff, supportText, bracesOf_intercalate (by decide)]
  exact hlevel

/-! ## Calls -/

theorem isNested_newStatus : Source.IsNested [newStatus] :=
  isNested_line (nested_ofList (by decide))

theorem isNested_checkStatus : Source.IsNested [checkStatus] :=
  isNested_line (nested_ofList (by decide))

theorem isNested_keepAlives {args : List Argument} (h : ∀ a ∈ args, a.IsNested) :
    Source.IsNested ((args.filterMap (·.keepAlive?)).map keepAlive) := by
  have howners := forall_keptAlive (p := Nested) fun a ha => (h a ha).source
  exact .map fun owner howner => isNested_line (((nested_ofList (by decide)).append
    (howners owner howner)).append (nested_ofList (by decide)))

/-- The braces of the texts in the call `i` match. -/
structure Invocation.IsNested (i : Invocation) : Prop where
  symbol : Nested i.symbol
  args : ∀ a ∈ i.args, a.IsNested
  forget : ∀ owner ∈ i.forget, Nested owner

theorem nested_exprs {args : List Argument} (h : ∀ a ∈ args, a.IsNested) :
    ∀ e ∈ args.map (·.expr), Nested e := by
  rw [List.forall_mem_map]
  exact fun a ha => nested_argument (h a ha)

section Parts

variable (hs : s.IsNested)
include hs

theorem isNested_setups {args : List Argument} (h : ∀ a ∈ args, a.IsNested) :
    Source.IsNested (lines (args.flatMap (·.setup s))) := by
  refine isNested_texts fun text htext => ?_
  obtain ⟨a, ha, htext⟩ := List.mem_flatMap.mp htext
  exact nested_setup hs (h a ha) text htext

private theorem isNested_check (i : Invocation) : Source.IsNested [i.check s] := by
  unfold Invocation.check
  split
  · exact isNested_checkStatus
  · exact isNested_checkStatus
  · exact isNested_line (((nested_ofList (by decide)).append
      (nested_readForm hs _ (nested_ofList (by decide)))).append (nested_ofList (by decide)))

theorem isNested_invocation {i : Invocation} (h : i.IsNested) : Source.IsNested (i.code s) := by
  have hcall := nested_callImported h.symbol (nested_exprs h.args)
  have hline : Nested (if i.flat = .void
      then s!"{callImported i.symbol (i.args.map (·.expr))};"
      else s!"var __ret = {callImported i.symbol (i.args.map (·.expr))};") := by
    split
    · exact hcall.append (nested_ofList (by decide))
    · exact ((nested_ofList (by decide)).append hcall).append (nested_ofList (by decide))
  have hforget : Source.IsNested (i.forget.map forgetConsumed) :=
    .map fun owner howner => isNested_line (((nested_ofList (by decide)).append
      (h.forget owner howner)).append (nested_ofList (by decide)))
  have hstatement := isNested_newStatus.append (isNested_line hline)
  exact ((((isNested_setups hs h.args).append hstatement).append
    (isNested_keepAlives h.args)).append hforget).append (isNested_check hs i)

theorem isNested_returning {i : Invocation} (h : i.IsNested) :
    Source.IsNested (i.returning s) := by
  refine (isNested_invocation hs h).append ?_
  split
  · exact isNested_nil
  · exact isNested_line (((nested_ofList (by decide)).append
      (nested_liftForm hs _ (nested_ofList (by decide)))).append (nested_ofList (by decide)))

/-! ## Members -/

omit hs in
theorem isNested_summary {text : String} (h : Nested text) : Source.IsNested [summary text] :=
  isNested_line (((nested_ofList (by decide)).append h).append (nested_ofList (by decide)))

omit hs in
theorem isNested_threadingRemarks : Source.IsNested [threadingRemarks] :=
  isNested_line ((nested_ofList (by decide)).append (nested_ofList (by decide)))

/-- The braces of the types and of the names of parameters match. -/
def Parameters.IsNested (params : List Parameter) : Prop :=
  ∀ p ∈ params, Nested p.type ∧ Nested p.name

omit hs in
theorem nested_parameters {params : List Parameter} (h : Parameters.IsNested params) :
    Nested (parameters params) := by
  refine ((nested_ofList (by decide)).append (nested_commas ?_)).append (nested_ofList (by decide))
  rw [List.forall_mem_map]
  exact fun p hp => ((h p hp).1.append (nested_ofList (by decide))).append (h p hp).2

omit hs in
private theorem braceFree_unmarked {name : String} (h : BraceFree name) :
    BraceFree (unmarked name) := by
  have hsuffix : name.toList.dropWhile (· = '@') <:+ name.toList := List.dropWhile_suffix _
  rw [BraceFree, unmarked, String.toList_ofList]
  exact ⟨fun hmem => h.1 (hsuffix.subset hmem), fun hmem => h.2 (hsuffix.subset hmem)⟩

/-- The type of an error stands between braces. -/
theorem isNested_exceptionRemark (err : TypeRef) : Source.IsNested [exceptionRemark s err] := by
  unfold exceptionRemark
  refine isNested_line (((nested_ofList (by decide)).append ?_).append (nested_ofList (by decide)))
  split
  · exact nested_ofList (by decide)
  · exact .enclose (.ofList (by decide)) (hs.type _) (.ofList (by decide))

/-- The braces of the names in the method `m` match. -/
structure Method.IsNested (m : Method) : Prop where
  native : Nested m.native
  name : Nested m.name
  params : Parameters.IsNested m.params
  transferred : ∀ name ∈ m.transferred, BraceFree name
  call : m.call.IsNested

private theorem isNested_doc {m : Method} (h : m.IsNested) : Source.IsNested (m.doc s) := by
  have hsummary : Source.IsNested [summary s!"Calls native <c>{m.native}</c>."] :=
    isNested_summary (((nested_ofList (by decide)).append h.native).append
      (nested_ofList (by decide)))
  have htransferred : Source.IsNested (m.transferred.map transferRemark) :=
    .map fun name hname => isNested_line ((((nested_ofList (by decide)).append
      (braceFree_unmarked (h.transferred name hname)).nested).append
        (nested_ofList (by decide))).append (nested_ofList (by decide)))
  have hexceptions : Source.IsNested (m.returns.error?.toList.map (exceptionRemark s)) :=
    .map fun err _ => isNested_exceptionRemark hs err
  exact (hsummary.append htransferred).append hexceptions

theorem isNested_method {m : Method} (h : m.IsNested) : Source.IsNested (m.code s) := by
  have hmodifiers : Nested (if m.isStatic then "public static " else "public ") := by
    split
    · exact nested_ofList (by decide)
    · exact nested_ofList (by decide)
  have hheader : Nested ((if m.isStatic then "public static " else "public ")
      ++ s.type m.returns ++ " " ++ m.name ++ parameters m.params) :=
    (((hmodifiers.append (hs.type _)).append (nested_ofList (by decide))).append h.name).append
      (nested_parameters h.params)
  rw [Method.code_eq]
  exact (isNested_doc hs h).append (isNested_declared hheader (isNested_returning hs h.call))

/-- The braces of the names in the property `p` match. -/
structure Property.IsNested (p : Property) : Prop where
  name : Nested p.name
  read : p.read.IsNested

private theorem isNested_property {p : Property} (h : p.IsNested) : Source.IsNested (p.code s) := by
  have hheader : Nested s!"public {s.type p.type} {p.name}" :=
    (((nested_ofList (by decide)).append (hs.type _)).append (nested_ofList (by decide))).append
      h.name
  rw [Property.code_eq]
  refine IsNested.append ?_ (isNested_declared hheader
    (isNested_declared (nested_ofList (by decide)) (isNested_returning hs h.read)))
  split
  · exact isNested_line (nested_ofList (by decide))
  · exact isNested_nil

omit hs in
theorem isNested_freeBody {symbol : String} (h : Nested symbol) :
    Source.IsNested (freeBody symbol) :=
  isNested_newStatus.append
    (isNested_line ((nested_callWithHandle h).append (nested_ofList (by decide))))

/-! ## Classes -/

/-- The braces of the names in the class of a struct match. -/
structure Wrapper.IsNested (w : Wrapper) : Prop where
  native : Nested w.native
  name : Nested w.name
  params : Parameters.IsNested w.params
  make : w.make.IsNested
  properties : ∀ p ∈ w.properties, p.IsNested
  methods : ∀ m ∈ w.methods, m.IsNested
  freeSymbol : Nested w.freeSymbol

/-- **The braces of the class of a struct match.** -/
theorem isNested_wrapper {w : Wrapper} (h : w.IsNested) : Source.IsNested (w.code s) := by
  have hnamed {front back : String} (hfront : Nested front) (hback : Nested back) :
      Nested (front ++ w.name ++ back) := (hfront.append h.name).append hback
  have howned : Nested s!"new OwnedHandle(handle, Free, nameof({w.name}))" :=
    hnamed (nested_ofList (by decide)) (nested_ofList (by decide))
  have hmade : Nested s!"_handle = new OwnedHandle(__ret, Free, nameof({w.name}));" :=
    hnamed (nested_ofList (by decide)) (nested_ofList (by decide))
  have hsuppress : Source.IsNested (lines ["global::System.GC.SuppressFinalize(this);"]) :=
    isNested_line (nested_ofList (by decide))
  have hdisposal : Source.IsNested (lines ["_handle?.Dispose();"]) :=
    isNested_line (nested_ofList (by decide))
  have hconstructor : Source.IsNested (declared s!"public {w.name}{parameters w.params}"
      (w.make.code s ++ lines [s!"_handle = new OwnedHandle(__ret, Free, nameof({w.name}));"])) :=
    isNested_declared (hnamed (nested_ofList (by decide)) (nested_parameters h.params))
      ((isNested_invocation hs h.make).append (isNested_line hmade))
  have hadopting : Source.IsNested (declared s!"private {w.name}(OwnedHandle handle)"
      (lines ["_handle = handle;"])) :=
    isNested_declared (hnamed (nested_ofList (by decide)) (nested_ofList (by decide)))
      (isNested_line (nested_ofList (by decide)))
  have hfrom {owned : String} (howned : Nested owned) : Source.IsNested
      (lines [s!"internal static {w.name} FromHandle(ulong handle) => new {w.name}({owned});"]) :=
    isNested_line (((((hnamed (nested_ofList (by decide)) (nested_ofList (by decide))).append
      h.name).append (nested_ofList (by decide))).append howned).append (nested_ofList (by decide)))
  have hraw : Source.IsNested (lines ["internal ulong RawHandle => _handle.Value;"]) :=
    isNested_line (nested_ofList (by decide))
  have hforget : Source.IsNested (declared "internal void Forget()"
      (lines ["_handle.Forget();", "global::System.GC.SuppressFinalize(this);"])) :=
    isNested_declared (nested_ofList (by decide))
      (isNested_lines_cons (nested_ofList (by decide)) hsuppress)
  have hdispose : Source.IsNested (declared "public void Dispose()"
      (lines ["_handle?.Dispose();", "global::System.GC.SuppressFinalize(this);"])) :=
    isNested_declared (nested_ofList (by decide)) (hdisposal.append hsuppress)
  have hfinalizer : Source.IsNested (declared s!"~{w.name}()" (lines ["_handle?.Dispose();"])) :=
    isNested_declared (hnamed (nested_ofList (by decide)) (nested_ofList (by decide))) hdisposal
  have hfree : Source.IsNested (declared "private static void Free(ulong handle)"
      (freeBody w.freeSymbol)) :=
    isNested_declared (nested_ofList (by decide)) (isNested_freeBody h.freeSymbol)
  have hsummary : Source.IsNested [summary s!"Managed wrapper for native <c>{w.native}</c>."] :=
    isNested_summary (((nested_ofList (by decide)).append h.native).append
      (nested_ofList (by decide)))
  have hhandle : Source.IsNested (lines ["private readonly OwnedHandle _handle;"]) :=
    isNested_line (nested_ofList (by decide))
  rw [Wrapper.code_eq]
  refine (hsummary.append isNested_threadingRemarks).append
    (isNested_declared (hnamed (nested_ofList (by decide)) (nested_ofList (by decide)))
      (hhandle.append (isNested_spaced ?_)))
  simp only [List.forall_mem_append, List.forall_mem_cons, List.forall_mem_map, List.not_mem_nil,
    false_imp_iff, implies_true, and_true]
  exact ⟨⟨⟨⟨hconstructor, hadopting, hfrom howned, hraw, hforget⟩,
    fun p hp => isNested_property hs (h.properties p hp)⟩,
    fun m hm => isNested_method hs (h.methods m hm)⟩, hdispose, hfinalizer, hfree⟩

/-- The braces of the names in a field of a record match. -/
structure RecordField.IsNested (f : RecordField) : Prop where
  name : Nested f.name
  getter : Nested f.getter
  argument : f.argument.IsNested

/-- The braces of the names in a record match. -/
structure VariantRecord.IsNested (r : VariantRecord) : Prop where
  name : Nested r.name
  fields : ∀ f ∈ r.fields, f.IsNested
  makeSymbol : Nested r.makeSymbol

theorem isNested_record {r : VariantRecord} (h : r.IsNested) {interface : String}
    (hinterface : Nested interface) : Source.IsNested [r.code s interface] := by
  have hfields : ∀ text ∈ r.fields.map fun f => s!"{s.type f.type} {f.name}", Nested text := by
    rw [List.forall_mem_map]
    exact fun f hf => ((hs.type _).append (nested_ofList (by decide))).append (h.fields f hf).name
  exact isNested_line (((((((nested_ofList (by decide)).append h.name).append
    (nested_ofList (by decide))).append (nested_commas hfields)).append
      (nested_ofList (by decide))).append hinterface).append (nested_ofList (by decide)))

omit hs in
theorem nested_numbered {front : String} (hfront : Nested front) (i : Nat) :
    Nested (front ++ toString i) := hfront.append (nested_of_isWord (Naming.isWord_toString i))

private theorem isNested_fieldDecode {f : RecordField} (h : f.IsNested) (i : Nat) :
    Source.IsNested (f.decode s i) := by
  have hnumbered {front back : String} (hfront : Nested front) (hback : Nested back) :
      Nested (front ++ toString i ++ back) := (nested_numbered hfront i).append hback
  have hraw : Nested (s!"var __r{i} = " ++ callImported f.getter ["handle"] ++ ";") :=
    ((hnumbered (nested_ofList (by decide)) (nested_ofList (by decide))).append
      (nested_callWithHandle h.getter)).append (nested_ofList (by decide))
  have hlifted : Nested (s!"var __f{i} = " ++ (LiftForm.of f.type).expr s s!"__r{i}" ++ ";") :=
    ((hnumbered (nested_ofList (by decide)) (nested_ofList (by decide))).append
      (nested_liftForm hs _ (nested_numbered (nested_ofList (by decide)) i))).append
        (nested_ofList (by decide))
  exact (isNested_line (nested_ofList (by decide))).append
    ((isNested_line hraw).append (isNested_checkStatus.append (isNested_line hlifted)))

private theorem isNested_recordDecode {r : VariantRecord} (h : r.IsNested) :
    Source.IsNested (r.decode s) := by
  have hcase : Nested s!"case {r.discriminant}:" :=
    (nested_numbered (nested_ofList (by decide)) _).append (nested_ofList (by decide))
  have hvalues : Nested (commas ((List.range r.fields.length).map fun i => s!"__f{i}")) := by
    refine nested_commas ?_
    rw [List.forall_mem_map]
    exact fun i _ => nested_numbered (nested_ofList (by decide)) i
  have hreturn {values : String} (hvalues : Nested values) :
      Source.IsNested (lines [s!"return new {r.name}({values});"]) :=
    isNested_line (((((nested_ofList (by decide)).append h.name).append
      (nested_ofList (by decide))).append hvalues).append (nested_ofList (by decide)))
  rw [VariantRecord.decode_eq]
  refine isNested_declared hcase (IsNested.append (.flatMap ?_) (hreturn hvalues))
  rintro ⟨f, i⟩ hf
  exact isNested_fieldDecode hs (h.fields f (List.fst_mem_of_mem_zipIdx hf)) i

private theorem isNested_recordLower {r : VariantRecord} (h : r.IsNested) :
    Source.IsNested (r.lower s) := by
  have hargs : ∀ a ∈ r.fields.map (·.argument), a.IsNested := by
    rw [List.forall_mem_map]
    exact fun f hf => (h.fields f hf).argument
  have hbinding : Nested (if r.fields.isEmpty then "" else " __v") := by
    split
    · exact nested_empty
    · exact nested_ofList (by decide)
  have hcall : Nested ("__ret = "
      ++ callImported r.makeSymbol ((r.fields.map (·.argument)).map (·.expr)) ++ ";") :=
    ((nested_ofList (by decide)).append
      (nested_callImported h.makeSymbol (nested_exprs hargs))).append (nested_ofList (by decide))
  have hcase {binding : String} (hbinding : Nested binding) :
      Nested s!"case {r.name}{binding}:" :=
    (((nested_ofList (by decide)).append h.name).append hbinding).append (nested_ofList (by decide))
  have hstatements := ((isNested_setups hs hargs).append (isNested_line hcall)).append
    (isNested_keepAlives hargs)
  rw [VariantRecord.lower_eq]
  exact isNested_declared (hcase hbinding)
    (hstatements.append (isNested_line (nested_ofList (by decide))))

/-- The braces of the names in the class of an enum match. -/
structure EnumClass.IsNested (e : EnumClass) : Prop where
  native : Nested e.native
  name : Nested e.name
  records : ∀ r ∈ e.records, r.IsNested
  tagSymbol : Nested e.tagSymbol
  freeSymbol : Nested e.freeSymbol
  methods : ∀ m ∈ e.methods, m.IsNested

omit hs in
theorem EnumClass.IsNested.interface {e : EnumClass} (h : e.IsNested) : Nested e.interface :=
  (nested_ofList (by decide)).append h.name

private theorem isNested_decode {e : EnumClass} (h : e.IsNested) :
    Source.IsNested (e.decode s) := by
  have hheader : Nested ("internal static " ++ s.qualified e.interface
      ++ " Decode(ulong handle)") :=
    ((nested_ofList (by decide)).append (hs.qualified h.interface)).append
      (nested_ofList (by decide))
  have htag : Nested ("var __tag = " ++ callImported e.tagSymbol ["handle"] ++ ";") :=
    ((nested_ofList (by decide)).append (nested_callWithHandle h.tagSymbol)).append
      (nested_ofList (by decide))
  have hunknown : Nested ("    throw new NativeContractException($\"unknown " ++ e.native
      ++ " discriminant \x7b__tag\x7d\");") :=
    ((nested_ofList (by decide)).append h.native).append (nested_ofList (by decide))
  have hdefault : Source.IsNested (lines ["default:",
      "    throw new NativeContractException($\"unknown " ++ e.native
        ++ " discriminant \x7b__tag\x7d\");"]) :=
    isNested_lines_cons (nested_ofList (by decide)) (isNested_line hunknown)
  have hrecords : Source.IsNested (e.records.flatMap (·.decode s)) :=
    .flatMap fun r hr => isNested_recordDecode hs (h.records r hr)
  have hstatus : Source.IsNested [newStatus,
      .line ("var __tag = " ++ callImported e.tagSymbol ["handle"] ++ ";"), checkStatus] :=
    isNested_newStatus.append ((isNested_line htag).append isNested_checkStatus)
  have hfinally : Source.IsNested (declared "finally" (lines ["Free(handle);"])) :=
    isNested_declared (nested_ofList (by decide)) (isNested_line (nested_ofList (by decide)))
  rw [EnumClass.decode_eq]
  exact isNested_declared hheader ((isNested_declared (nested_ofList (by decide)) (hstatus.append
    (isNested_declared (nested_ofList (by decide)) (hrecords.append hdefault)))).append hfinally)

private theorem isNested_lower {e : EnumClass} (h : e.IsNested) : Source.IsNested (e.lower s) := by
  have hheader : Nested s!"internal static ulong Lower({s.qualified e.interface} value)" :=
    ((nested_ofList (by decide)).append (hs.qualified h.interface)).append
      (nested_ofList (by decide))
  have hunknown : Nested ("    throw new global::System.ArgumentException($\"unknown "
      ++ e.interface ++ " implementation \x7bvalue?.GetType()\x7d\", nameof(value));") :=
    ((nested_ofList (by decide)).append h.interface).append (nested_ofList (by decide))
  have hdefault : Source.IsNested (lines ["default:",
      "    throw new global::System.ArgumentException($\"unknown " ++ e.interface
        ++ " implementation \x7bvalue?.GetType()\x7d\", nameof(value));"]) :=
    isNested_lines_cons (nested_ofList (by decide)) (isNested_line hunknown)
  have hrecords : Source.IsNested (e.records.flatMap (·.lower s)) :=
    .flatMap fun r hr => isNested_recordLower hs (h.records r hr)
  have hstart : Source.IsNested (newStatus :: lines ["ulong __ret;"]) :=
    isNested_newStatus.append (isNested_line (nested_ofList (by decide)))
  have hreturn : Source.IsNested (checkStatus :: lines ["return __ret;"]) :=
    isNested_checkStatus.append (isNested_line (nested_ofList (by decide)))
  rw [EnumClass.lower_eq]
  exact isNested_declared hheader ((hstart.append
    (isNested_declared (nested_ofList (by decide)) (hrecords.append hdefault))).append hreturn)

/-- **The braces of the class of an enum match.** -/
theorem isNested_enumClass {e : EnumClass} (h : e.IsNested) : Source.IsNested (e.code s) := by
  have hnative {front : String} (hfront : Nested front) :
      Source.IsNested [summary (front ++ e.native ++ "</c>.")] :=
    isNested_summary ((hfront.append h.native).append (nested_ofList (by decide)))
  have hinterface : Source.IsNested (lines [s!"public interface {e.interface}", "\x7b", "\x7d"]) :=
    @isNested_enclosed _ [] ((nested_ofList (by decide)).append h.interface) isNested_nil
  have hfree : Source.IsNested (declared "internal static void Free(ulong handle)"
      (freeBody e.freeSymbol)) :=
    isNested_declared (nested_ofList (by decide)) (isNested_freeBody h.freeSymbol)
  have hrecords : Source.IsNested (e.records.map (·.code s (s.qualified e.interface))) :=
    .map fun r hr => isNested_record hs (h.records r hr) (hs.qualified h.interface)
  have hvariants : Source.IsNested [.blank, summary s!"Variants of native enum <c>{e.native}</c>.",
      threadingRemarks] :=
    isNested_blank.append ((hnative (nested_ofList (by decide))).append isNested_threadingRemarks)
  rw [EnumClass.code_eq]
  refine (((hnative (nested_ofList (by decide))).append hinterface).append hvariants).append
    (isNested_declared ((nested_ofList (by decide)).append h.name)
      (hrecords.append (isNested_spaced ?_)))
  simp only [List.forall_mem_append, List.forall_mem_cons, List.forall_mem_map, List.not_mem_nil,
    false_imp_iff, implies_true, and_true]
  exact ⟨⟨isNested_decode hs h, isNested_lower hs h, hfree⟩,
    fun m hm => isNested_method hs (h.methods m hm)⟩

/-- **The braces of the class of the free functions match.** -/
theorem isNested_facade {f : Facade} (hname : Nested f.name)
    (hmethods : ∀ m ∈ f.methods, m.IsNested) {libraryName : String}
    (hlibrary : Nested libraryName) : Source.IsNested (f.code s libraryName) := by
  have hsummary : Source.IsNested
      [summary s!"Free functions of native library <c>{libraryName}</c>."] :=
    isNested_summary (((nested_ofList (by decide)).append hlibrary).append
      (nested_ofList (by decide)))
  have hcodes : ∀ code ∈ f.methods.map (·.code s), Source.IsNested code := by
    rw [List.forall_mem_map]
    exact fun m hm => isNested_method hs (hmethods m hm)
  rw [Facade.code_eq]
  exact (hsummary.append isNested_threadingRemarks).append
    (isNested_declared ((nested_ofList (by decide)).append hname) (isNested_interspaced hcodes))

end Parts

/-! ## Files -/

private theorem isNested_heading {libraryName space : String} (hlibrary : Nested libraryName)
    (hspace : Nested space) : Source.IsNested (heading libraryName space) := by
  have hend : Source.IsNested (lines ["// </auto-generated>", "#nullable enable"]) :=
    isNested_texts (by decide)
  have hgenerated : Source.IsNested (lines ["// <auto-generated>",
      s!"// Generated by crossbind for native library `{libraryName}`. Do not edit.",
      "// </auto-generated>", "#nullable enable"]) :=
    (isNested_line (nested_ofList (by decide))).append ((isNested_line (((nested_ofList
      (by decide)).append hlibrary).append (nested_ofList (by decide)))).append hend)
  have husing : Source.IsNested (lines ["using System;", "using System.Buffers.Binary;",
      "using System.Runtime.InteropServices;", "using System.Text;", "using System.Threading;"]) :=
    isNested_texts (by decide)
  have hlast : Source.IsNested [.blank, .line s!"namespace {space};", .blank] :=
    isNested_blank.append ((isNested_line (((nested_ofList (by decide)).append hspace).append
      (nested_ofList (by decide)))).append isNested_blank)
  exact hgenerated.append ((isNested_blank.append husing).append hlast)

private theorem isNested_optionCode (t : FlatType) : Source.IsNested (optionCode t) := by
  cases t with
  | option inner =>
    have hvalue : Nested s!"public {inner.managed} Value;" :=
      ((nested_ofList (by decide)).append (nested_managed inner)).append (nested_ofList (by decide))
    rw [optionCode_option]
    exact (isNested_blank.append (isNested_line (nested_ofList (by decide)))).append
      (isNested_declared ((nested_ofList (by decide)).append (nested_managed _))
        (isNested_lines_cons (nested_ofList (by decide)) (isNested_line hvalue)))
  | _ => exact isNested_nil

/-- An imported function has the name of its symbol between quotes. -/
theorem isNested_importCode {e : EntryPoint} (hsymbol : BraceFree e.symbol)
    (hparams : ∀ p ∈ e.params, Naming.IsWord p.name) : Source.IsNested (importCode e) := by
  have hall : ∀ p ∈ e.params.map importParam ++ ["ref CallStatus __status"], Nested p := by
    rw [List.forall_mem_append, List.forall_mem_map, List.forall_mem_singleton]
    refine ⟨fun p hp => ?_, nested_ofList (by decide)⟩
    exact ((nested_managed p.type).append (nested_ofList (by decide))).append
      (nested_of_isWord (hparams p hp).bare.managedIdent)
  have hattribute : Nested ("[DllImport(Library, EntryPoint = " ++ Text.quoted e.symbol
      ++ ", CallingConvention = CallingConvention.Cdecl)]") :=
    ((nested_ofList (by decide)).append (nested_quoted hsymbol)).append (nested_ofList (by decide))
  have hsignature : Nested ("internal static extern " ++ e.ret.managed ++ " "
      ++ Naming.managedIdent e.symbol ++ "("
      ++ commas (e.params.map importParam ++ ["ref CallStatus __status"]) ++ ");") :=
    ((((((nested_ofList (by decide)).append (nested_managed _)).append
      (nested_ofList (by decide))).append (nested_managedIdent hsymbol.nested)).append
        (nested_ofList (by decide))).append (nested_commas hall)).append (nested_ofList (by decide))
  exact (isNested_blank.append (isNested_line hattribute)).append (isNested_line hsignature)

private theorem isNested_importsCode {libraryName : String} (hlibrary : BraceFree libraryName)
    {entryPoints : List EntryPoint} (hsymbols : ∀ e ∈ entryPoints, BraceFree e.symbol)
    (hparams : ∀ e ∈ entryPoints, ∀ p ∈ e.params, Naming.IsWord p.name) :
    Source.IsNested (importsCode libraryName entryPoints) := by
  have hconstant : Nested ("private const string Library = " ++ Text.quoted libraryName ++ ";") :=
    ((nested_ofList (by decide)).append (nested_quoted hlibrary)).append (nested_ofList (by decide))
  rw [importsCode_eq]
  exact isNested_declared (nested_ofList (by decide)) ((isNested_line hconstant).append
    (.flatMap fun e he => isNested_importCode (hsymbols e he) (hparams e he)))

/-- The braces of the names in the file `f` match. Symbols and the name of the library stand between
quotes, where they have no braces. -/
structure File.IsNested (f : File) : Prop where
  libraryName : BraceFree f.libraryName
  managedNamespace : Nested f.managedNamespace
  bufferFree : Nested f.bufferFree
  symbols : ∀ e ∈ f.entryPoints, BraceFree e.symbol
  params : ∀ e ∈ f.entryPoints, ∀ p ∈ e.params, Naming.IsWord p.name
  wrappers : ∀ w ∈ f.wrappers, w.IsNested
  enums : ∀ e ∈ f.enums, e.IsNested
  facade : Nested f.facade.name
  functions : ∀ m ∈ f.facade.methods, m.IsNested

/-- **The braces of a managed file match.** -/
theorem isNested_file (hs : s.IsNested) {f : File} (h : f.IsNested) :
    Source.IsNested (f.code s) := by
  have hlibrary := h.libraryName.nested
  have hsupport := isNested_lines (nested_supportText (nested_managedIdent h.bufferFree))
  have hoptions : Source.IsNested (f.options.flatMap optionCode) :=
    .flatMap fun t _ => isNested_optionCode t
  refine ((isNested_heading hlibrary h.managedNamespace).append (hsupport.append hoptions)).append
    (isNested_spaced ?_)
  simp only [List.cons_append, List.forall_mem_append, List.forall_mem_cons, List.forall_mem_map,
    List.not_mem_nil, false_imp_iff, implies_true, and_true]
  exact ⟨isNested_importsCode h.libraryName h.symbols h.params,
    ⟨fun w hw => isNested_wrapper hs (h.wrappers w hw),
      fun e he => isNested_enumClass hs (h.enums e he)⟩,
    isNested_facade hs h.facade h.functions hlibrary⟩

end Boundary.Managed
