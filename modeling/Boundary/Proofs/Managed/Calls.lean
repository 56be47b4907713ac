import Boundary.Proofs.Managed.Expressions

/-!
# Calls in managed files

Every entry point of a schema is called in the class that it belongs to. What is read off the code
of a class are these calls, in the order in which they are written.

* `Invocation.mark`, `reads_invocation`: the call of an entry point with everything around it.
* `reads_method`, `reads_property`: members.
* `Wrapper.marks`, `EnumClass.marks`, `Facade.marks`: the calls in a class.
* `reads_wrapper`, `reads_enumClass`, `reads_facade`: what is read off a class.
-/

namespace Boundary.Managed

open Source Text

variable {s : Surface}

/-! ## Calls -/

private theorem oneLine_callImported {symbol : String} (hsymbol : Naming.IsWord symbol)
    {args : List String} (hargs : ∀ a ∈ args, Inline a) : OneLine (callImported symbol args) := by
  have hall : ∀ a ∈ args ++ [statusArgument], OneLine a := by
    intro a ha
    obtain ha | ha := List.mem_append.mp ha
    · exact (hargs a ha).oneLine
    · obtain rfl := List.mem_singleton.mp ha
      exact .ofList (by decide)
  exact ((((OneLine.ofList (by decide)).append (oneLine_of_isWord hsymbol.managedIdent)).append
    (.ofList (by decide))).append (.intercalate (.ofList (by decide)) hall)).append
      (.ofList (by decide))

/-- The call of the entry point `symbol` with `args` and the status. -/
def entryCall (symbol : String) (args : List String) : Mark :=
  callOf (Naming.managedIdent symbol) args statusArgument

/-- A statement by `callImported`, behind its `front`. -/
theorem reads_callImported {front : String} (hfront : Binding front) {symbol : String}
    (hsymbol : Naming.IsWord symbol) {args : List String} (hargs : ∀ a ∈ args, Inline a) :
    Reads markOf? [.line (front ++ callImported symbol args ++ ";")] [entryCall symbol args] := by
  have hclosed : ∀ a ∈ args ++ [statusArgument], Closed a := by
    intro a ha
    obtain ha | ha := List.mem_append.mp ha
    · exact (hargs a ha).closed
    · obtain rfl := List.mem_singleton.mp ha
      exact .ofList (by decide)
  have hone : OneLine front := by
    cases hfront with
    | nothing => exact .ofList (by decide)
    | variable_ hname =>
      exact ((OneLine.ofList (by decide)).append (oneLine_of_isWord hname)).append
        (.ofList (by decide))
    | result => exact .ofList (by decide)
  exact reads_line ((hone.append (oneLine_callImported hsymbol hargs)).append (.ofList (by decide)))
    (markOf?_callText hfront hsymbol.managedIdent (by simp) hclosed ";")

private theorem reads_keepAlive {owner : String} (h : OneLine owner) :
    Reads markOf? [keepAlive owner] [] :=
  (((unread_ofList (by decide) (by decide)).append h).append (.ofList (by decide))).line

private theorem reads_forgetConsumed {owner : String} (h : OneLine owner) :
    Reads markOf? [forgetConsumed owner] [] :=
  (((unread_ofList (by decide) (by decide)).append h).append (.ofList (by decide))).line

theorem reads_newStatus : Reads markOf? [newStatus] [] :=
  (unread_ofList (by decide) (by decide)).line

theorem reads_checkStatus : Reads markOf? [checkStatus] [] :=
  (unread_ofList (by decide) (by decide)).line

/-! ## Invocations -/

/-- An invocation whose names can be read. -/
structure Invocation.Readable (i : Invocation) : Prop where
  symbol : Naming.IsWord i.symbol
  args : ∀ a ∈ i.args, a.Readable
  forget : ∀ owner ∈ i.forget, OneLine owner

/-- The call in the invocation `i`. -/
def Invocation.mark (i : Invocation) : Mark := entryCall i.symbol (i.args.map (·.expr))

variable {i : Invocation}

theorem reads_setups (hs : s.IsOneLine) {args : List Argument} (h : ∀ a ∈ args, a.Readable) :
    Reads markOf? (lines (args.flatMap (·.setup s))) [] := by
  refine reads_lines fun text htext => ?_
  obtain ⟨a, ha, htext⟩ := List.mem_flatMap.mp htext
  exact unread_setup hs (h a ha) text htext

theorem reads_keepAlives {args : List Argument} (h : ∀ a ∈ args, a.Readable) :
    Reads markOf? ((args.filterMap (·.keepAlive?)).map keepAlive) [] := by
  refine reads_nothing fun code hcode => ?_
  obtain ⟨owner, howner, rfl⟩ := List.mem_map.mp hcode
  have howners := forall_keptAlive (p := OneLine) fun a ha => (h a ha).source.oneLine
  exact reads_keepAlive (howners owner howner)

private theorem reads_check (hs : s.IsOneLine) (i : Invocation) : Reads markOf? [i.check s] [] := by
  unfold Invocation.check
  split
  · exact reads_checkStatus
  · exact reads_checkStatus
  · exact (((unread_ofList (by decide) (by decide)).append
      (oneLine_readForm hs _ (.ofList (by decide)))).append (.ofList (by decide))).line

/-- **An invocation calls its entry point once.** -/
theorem reads_invocation (hs : s.IsOneLine) (h : i.Readable) :
    Reads markOf? (i.code s) [i.mark] := by
  have hargs : ∀ a ∈ i.args.map (·.expr), Inline a := by
    intro a ha
    obtain ⟨b, hb, rfl⟩ := List.mem_map.mp ha
    exact inline_argument (h.args b hb)
  have hcall : Reads markOf? [.line (if i.flat = .void
      then s!"{callImported i.symbol (i.args.map (·.expr))};"
      else s!"var __ret = {callImported i.symbol (i.args.map (·.expr))};")] [i.mark] := by
    split
    · exact reads_callImported .nothing h.symbol hargs
    · have hvariable : Binding ("var " ++ "__ret" ++ " = ") := .variable_ (by decide)
      exact reads_callImported hvariable h.symbol hargs
  have hforget : Reads markOf? (i.forget.map forgetConsumed) [] := by
    refine reads_nothing fun code hcode => ?_
    obtain ⟨owner, howner, rfl⟩ := List.mem_map.mp hcode
    exact reads_forgetConsumed (h.forget owner howner)
  exact ((((reads_setups hs h.args).append (reads_newStatus.append hcall)).append
    (reads_keepAlives h.args)).append hforget).append (reads_check hs i)

private theorem startsOther_ret {sign : Char} (h : '_' ≠ sign) : StartsOther sign "__ret" :=
  .ofList h

theorem reads_returning (hs : s.IsOneLine) (h : i.Readable) :
    Reads markOf? (i.returning s) [i.mark] := by
  unfold Invocation.returning
  refine (reads_invocation hs h).before ?_
  split
  · exact reads_nil
  · exact (unread_beside ['r', 'e', 't', 'u', 'r', 'n'] (by decide) (by decide) (by decide)
      ((startsOther_liftForm (by decide) (by decide) _ (startsOther_ret (by decide))).append _)
        ((oneLine_liftForm hs _ (.ofList (by decide))).append (.ofList (by decide)))).line

/-! ## Members -/

theorem reads_summary {text : String} (h : OneLine text) : Reads markOf? [summary text] [] :=
  (((unread_ofList (by decide) (by decide)).append h).append (.ofList (by decide))).line

theorem reads_threadingRemarks : Reads markOf? [threadingRemarks] [] :=
  ((unread_ofList (by decide) (by decide)).append (.ofList (by decide))).line

/-- Parameters whose types and names take no line feeds. -/
def Parameters.IsOneLine (params : List Parameter) : Prop :=
  ∀ p ∈ params, OneLine p.type ∧ OneLine p.name

theorem oneLine_parameters {params : List Parameter} (h : Parameters.IsOneLine params) :
    OneLine (parameters params) := by
  refine ((OneLine.ofList (by decide)).append (.intercalate (.ofList (by decide)) ?_)).append
    (.ofList (by decide))
  intro text htext
  obtain ⟨p, hp, rfl⟩ := List.mem_map.mp htext
  exact ((h p hp).1.append (.ofList (by decide))).append (h p hp).2

private theorem oneLine_unmarked {name : String} (h : OneLine name) : OneLine (unmarked name) :=
  .ofList fun hmem => h ((List.dropWhile_suffix _).subset hmem)

/-- A method whose names can be read. -/
structure Method.Readable (m : Method) : Prop where
  native : OneLine m.native
  name : OneLine m.name
  params : Parameters.IsOneLine m.params
  transferred : ∀ name ∈ m.transferred, OneLine name
  call : m.call.Readable

private theorem reads_exceptionRemark (hs : s.IsOneLine) (err : TypeRef) :
    Reads markOf? [exceptionRemark s err] [] := by
  refine (((unread_ofList (by decide) (by decide)).append ?_).append (.ofList (by decide))).line
  split
  · exact .ofList (by decide)
  · exact ((OneLine.ofList (by decide)).append (hs.type _)).append (.ofList (by decide))

private theorem reads_methodDoc (hs : s.IsOneLine) {m : Method} (h : m.Readable) :
    Reads markOf? (m.doc s) [] := by
  have htransferred : Reads markOf? (m.transferred.map transferRemark) [] := by
    refine reads_nothing fun code hcode => ?_
    obtain ⟨name, hname, rfl⟩ := List.mem_map.mp hcode
    exact ((((unread_ofList (by decide) (by decide)).append
      (oneLine_unmarked (h.transferred name hname))).append (.ofList (by decide))).append
        (.ofList (by decide))).line
  have hexceptions : Reads markOf? (m.returns.error?.toList.map (exceptionRemark s)) [] := by
    refine reads_nothing fun code hcode => ?_
    obtain ⟨err, -, rfl⟩ := List.mem_map.mp hcode
    exact reads_exceptionRemark hs err
  have hsummary : Reads markOf? [summary s!"Calls native <c>{m.native}</c>."] [] :=
    reads_summary (((OneLine.ofList (by decide)).append h.native).append (.ofList (by decide)))
  exact (hsummary.append htransferred).append hexceptions

/-- A declaration of something public. -/
theorem unread_public {text : String} (h : StartsOther '=' text) (hline : OneLine text) :
    Unread markOf? ("public " ++ text) :=
  unread_beside ['p', 'u', 'b', 'l', 'i', 'c'] (by decide) (by decide) (by decide) h hline

/-- **A method calls its entry point once.** -/
theorem reads_method (hs : s.IsOneLine) {m : Method} (h : m.Readable) :
    Reads markOf? (m.code s) [m.call.mark] := by
  have hline : OneLine (s.type m.returns ++ (" " ++ (m.name ++ parameters m.params))) :=
    (hs.type _).append ((OneLine.ofList (by decide)).append (h.name.append
      (oneLine_parameters h.params)))
  have hheader : Unread markOf? ((if m.isStatic then "public static " else "public ")
      ++ s.type m.returns ++ " " ++ m.name ++ parameters m.params) := by
    simp only [String.append_assoc]
    split
    · exact (unread_ofList (by decide) (by decide)).append hline
    · exact unread_public ((startsOther_type _).append _) hline
  rw [Method.code_eq]
  exact (reads_methodDoc hs h).append
    (reads_declared skipsBraces_markOf? hheader.line (reads_returning hs h.call))

/-- A property whose names can be read. -/
structure Property.Readable (p : Property) : Prop where
  name : OneLine p.name
  read : p.read.Readable

/-- **A property calls its entry point once.** -/
theorem reads_property (hs : s.IsOneLine) {p : Property} (h : p.Readable) :
    Reads markOf? (p.code s) [p.read.mark] := by
  have hline : OneLine (s.type p.type ++ (" " ++ p.name)) :=
    (hs.type _).append ((OneLine.ofList (by decide)).append h.name)
  have hheader : Unread markOf? ("public " ++ s.type p.type ++ " " ++ p.name) := by
    rw [String.append_assoc, String.append_assoc]
    exact unread_public ((startsOther_type _).append _) hline
  have hread : Reads markOf? (declared ("public " ++ s.type p.type ++ " " ++ p.name)
      (declared "get" (p.read.returning s))) [p.read.mark] :=
    reads_declared skipsBraces_markOf? hheader.line
      (reads_declared skipsBraces_markOf? (reads_keyword "get" (by decide))
        (reads_returning hs h.read))
  -- Only a handle has a remark.
  rw [Property.code_eq]
  split
  · exact (unread_ofList (by decide) (by decide)).line.append hread
  · exact reads_nil.append hread

theorem reads_freeBody {symbol : String} (h : Naming.IsWord symbol) :
    Reads markOf? (freeBody symbol) [entryCall symbol ["handle"]] := by
  have hargs : ∀ a ∈ ["handle"], Inline a := by simpa using Inline.ofList (by decide)
  exact reads_newStatus.append (reads_callImported .nothing h hargs)

/-! ## Structs -/

/-- A class whose names can be read. -/
structure Wrapper.Readable (w : Wrapper) : Prop where
  native : OneLine w.native
  name : OneLine w.name
  capital : ∀ c ∈ w.name.toList.head?, c ≠ 'e' ∧ c ≠ '='
  params : Parameters.IsOneLine w.params
  make : w.make.Readable
  properties : ∀ p ∈ w.properties, p.Readable
  methods : ∀ m ∈ w.methods, m.Readable
  free : Naming.IsWord w.freeSymbol

/-- The calls in the class of a struct. -/
def Wrapper.marks (w : Wrapper) : List Mark :=
  w.make.mark :: w.properties.map (·.read.mark) ++ w.methods.map (·.call.mark)
    ++ [entryCall w.freeSymbol ["handle"]]

theorem forall₂_reads_map {β : Type} {f : β → List Code} {mark : β → Mark} {bs : List β}
    (h : ∀ b ∈ bs, Reads markOf? (f b) [mark b]) :
    List.Forall₂ (Reads markOf?) (bs.map f) (bs.map fun b => [mark b]) := by
  rw [List.forall₂_map_left_iff, List.forall₂_map_right_iff, List.forall₂_same]
  exact h

theorem flatten_map_singleton {β γ : Type} (f : β → γ) (bs : List β) :
    (bs.map fun b => [f b]).flatten = bs.map f := by
  rw [← List.flatMap_def, List.map_eq_flatMap]

variable {w : Wrapper}

private theorem unread_constructor (h : w.Readable) :
    Unread markOf? ("public " ++ w.name ++ parameters w.params) := by
  rw [String.append_assoc]
  exact unread_public (.behind (fun c hc => (h.capital c hc).2)
    ((StartsOther.append (.ofList (by decide)) _).append _))
    (h.name.append (oneLine_parameters h.params))

private theorem unread_adopting (h : w.Readable) :
    Unread markOf? ("private " ++ w.name ++ "(OwnedHandle handle)") := by
  rw [String.append_assoc]
  exact unread_beside ['p', 'r', 'i', 'v', 'a', 't', 'e'] (by decide) (by decide) (by decide)
    (.behind (fun c hc => (h.capital c hc).2) (.ofList (by decide)))
    (h.name.append (.ofList (by decide)))

private theorem unread_fromHandle (h : w.Readable) {owned : String} (howned : OneLine owned) :
    Unread markOf? ("internal static " ++ w.name ++ " FromHandle(ulong handle) => new " ++ w.name
      ++ "(" ++ owned ++ ");") := by
  simp only [String.append_assoc]
  exact unread_internal (.behind (fun c hc => (h.capital c hc).1)
      (StartsOther.append (.ofList (by decide)) _))
    (h.name.append ((OneLine.ofList (by decide)).append (h.name.append
      ((OneLine.ofList (by decide)).append (howned.append (.ofList (by decide)))))))

/-- **The class of a struct** makes it, reads its fields, calls its methods and releases it. -/
theorem reads_wrapper (hs : s.IsOneLine) (h : w.Readable) : Reads markOf? (w.code s) w.marks := by
  have hbraces := skipsBraces_markOf?
  have howned : OneLine s!"new OwnedHandle(handle, Free, nameof({w.name}))" :=
    ((OneLine.ofList (by decide)).append h.name).append (.ofList (by decide))
  have hsuppress : Unread markOf? "global::System.GC.SuppressFinalize(this);" :=
    unread_ofList (by decide) (by decide)
  have hmake : Reads markOf? (w.make.code s
      ++ lines [s!"_handle = new OwnedHandle(__ret, Free, nameof({w.name}));"]) [w.make.mark] :=
    (reads_invocation hs h.make).before
      ((((unread_ofList (by decide) (by decide)).append h.name).append (.ofList (by decide))).line)
  have hconstructor := reads_declared hbraces (unread_constructor h).line hmake
  have hadopting := reads_declared hbraces (unread_adopting h).line
    (unread_ofList (by decide) (by decide) : Unread markOf? "_handle = handle;").line
  have hraw : Reads markOf? (lines ["internal ulong RawHandle => _handle.Value;"]) [] :=
    (unread_ofList (by decide) (by decide)).line
  have hforget : Reads markOf? (declared "internal void Forget()"
      (lines ["_handle.Forget();", "global::System.GC.SuppressFinalize(this);"])) [] :=
    reads_declared hbraces (unread_ofList (by decide) (by decide)).line
      ((unread_ofList (by decide) (by decide)).cons hsuppress.line)
  have hdispose : Reads markOf? (declared "public void Dispose()"
      (lines ["_handle?.Dispose();", "global::System.GC.SuppressFinalize(this);"])) [] :=
    reads_declared hbraces (unread_ofList (by decide) (by decide)).line
      ((unread_ofList (by decide) (by decide)).cons hsuppress.line)
  have hfinalizer : Reads markOf? (declared s!"~{w.name}()" (lines ["_handle?.Dispose();"])) [] :=
    reads_declared hbraces (((unread_ofList (by decide) (by decide)).append h.name).append
      (.ofList (by decide))).line (unread_ofList (by decide) (by decide)).line
  have hfree := reads_declared hbraces (unread_ofList (by decide) (by decide) :
    Unread markOf? "private static void Free(ulong handle)").line (reads_freeBody h.free)
  have hbody := reads_spaced (List.rel_append (List.rel_append (List.rel_append
    (.cons hconstructor (.cons hadopting (.cons (unread_fromHandle h howned).line
      (.cons hraw (.cons hforget .nil)))))
    (forall₂_reads_map fun p hp => reads_property hs (h.properties p hp)))
    (forall₂_reads_map fun m hm => reads_method hs (h.methods m hm)))
    (.cons hdispose (.cons hfinalizer (.cons hfree .nil))))
  have hsummary : Reads markOf? [summary s!"Managed wrapper for native <c>{w.native}</c>.",
      threadingRemarks] [] :=
    (reads_summary (((OneLine.ofList (by decide)).append h.native).append
      (.ofList (by decide)))).append reads_threadingRemarks
  have hheader : Unread markOf? s!"public sealed class {w.name} : IDisposable" :=
    ((unread_ofList (by decide) (by decide)).append h.name).append (.ofList (by decide))
  have hhandle : Unread markOf? "private readonly OwnedHandle _handle;" :=
    unread_ofList (by decide) (by decide)
  have hclass := hsummary.append (reads_declared hbraces hheader.line (hhandle.cons hbody))
  simp only [List.flatten_append, flatten_map_singleton, List.flatten_cons, List.flatten_nil,
    List.append_nil, List.nil_append] at hclass
  rw [Wrapper.code_eq]
  exact hclass

/-! ## Enums -/

/-- A record whose names can be read. -/
structure VariantRecord.Readable (r : VariantRecord) : Prop where
  name : Naming.IsWord r.name
  fields : ∀ f ∈ r.fields, OneLine f.name ∧ Naming.IsWord f.getter ∧ f.argument.Readable
  make : Naming.IsWord r.makeSymbol

variable {r : VariantRecord}

/-- The calls that make the record `r` from a handle. -/
def VariantRecord.decodeMarks (r : VariantRecord) : List Mark :=
  r.fields.map fun f => entryCall f.getter ["handle"]

/-- The call that makes a handle from the record `r`. -/
def VariantRecord.lowerMark (r : VariantRecord) : Mark :=
  entryCall r.makeSymbol (r.fields.map (·.argument.expr))

private theorem reads_record (hs : s.IsOneLine) (h : r.Readable) {interface : String}
    (hinterface : OneLine interface) : Reads markOf? [r.code s interface] [] := by
  have hfields : OneLine (commas (r.fields.map fun f => s!"{s.type f.type} {f.name}")) := by
    refine .intercalate (.ofList (by decide)) fun text htext => ?_
    obtain ⟨f, hf, rfl⟩ := List.mem_map.mp htext
    exact ((hs.type _).append (.ofList (by decide))).append (h.fields f hf).1
  exact (((((((unread_ofList (by decide) (by decide)).append (oneLine_of_isWord h.name)).append
    (.ofList (by decide))).append hfields).append (.ofList (by decide))).append hinterface).append
      (.ofList (by decide))).line

private theorem reads_fieldDecode (hs : s.IsOneLine) {f : RecordField}
    (hgetter : Naming.IsWord f.getter) (i : Nat) :
    Reads markOf? (f.decode s i) [entryCall f.getter ["handle"]] := by
  have hargs : ∀ a ∈ ["handle"], Inline a := by simpa using Inline.ofList (by decide)
  have hflat : Naming.IsWord s!"__r{i}" := .append (by decide) (Naming.isWord_toString i)
  have hfield : Naming.IsWord s!"__f{i}" := .append (by decide) (Naming.isWord_toString i)
  have hcall : Reads markOf? [.line (s!"var __r{i} = " ++ callImported f.getter ["handle"] ++ ";")]
      [entryCall f.getter ["handle"]] := by
    have hnumbered : s!"var __r{i} = " = "var " ++ s!"__r{i}" ++ " = " := by
      show "var " ++ "__r" ++ toString i ++ " = " = "var " ++ ("__r" ++ toString i) ++ " = "
      simp only [String.append_assoc]
    rw [hnumbered]
    exact reads_callImported (.variable_ hflat) hgetter hargs
  have hvalue : StartsOther 'N' ((LiftForm.of f.type).expr s s!"__r{i}" ++ ";") :=
    (startsOther_liftForm (by decide) (by decide) _
      (StartsOther.append (.ofList (by decide)) _)).append _
  have hlift : Unread markOf?
      (s!"var __f{i} = " ++ (LiftForm.of f.type).expr s s!"__r{i}" ++ ";") := by
    have hnumbered : s!"var __f{i} = " = "var " ++ s!"__f{i}" ++ " = " := by
      show "var " ++ "__f" ++ toString i ++ " = " = "var " ++ ("__f" ++ toString i) ++ " = "
      simp only [String.append_assoc]
    rw [hnumbered, String.append_assoc]
    exact unread_variable hfield hvalue
      ((oneLine_liftForm hs _ (oneLine_of_isWord hflat)).append (.ofList (by decide)))
  exact (unread_ofList (by decide) (by decide)).cons
    (hcall.append (reads_checkStatus.append hlift.line))

theorem unread_case {label : String} (h : StartsOther '=' label) (hline : OneLine label) :
    Unread markOf? ("case " ++ label) :=
  unread_beside ['c', 'a', 's', 'e'] (by decide) (by decide) (by decide) h hline

private theorem reads_recordDecode (hs : s.IsOneLine) (h : r.Readable) :
    Reads markOf? (r.decode s) r.decodeMarks := by
  have hfields : Reads markOf? (r.fields.zipIdx.flatMap fun p => p.1.decode s p.2)
      r.decodeMarks := by
    have hall : Reads markOf? (r.fields.zipIdx.flatMap fun p => p.1.decode s p.2)
        (r.fields.zipIdx.flatMap fun p => [entryCall p.1.getter ["handle"]]) :=
      Reads.flatMap fun p hp =>
        reads_fieldDecode hs (h.fields p.1 (List.fst_mem_of_mem_zipIdx hp)).2.1 p.2
    have hmarks : (r.fields.zipIdx.flatMap fun p => [entryCall p.1.getter ["handle"]]) =
        r.decodeMarks := by
      have hfirst := List.zipIdx_map_fst 0 r.fields
      rw [VariantRecord.decodeMarks, ← List.map_eq_flatMap]
      conv_rhs => rw [← hfirst, List.map_map]
      rfl
    exact hmarks ▸ hall
  have hvalues : OneLine (commas ((List.range r.fields.length).map fun i => s!"__f{i}")) := by
    refine .intercalate (.ofList (by decide)) fun text htext => ?_
    obtain ⟨i, -, rfl⟩ := List.mem_map.mp htext
    exact (OneLine.ofList (by decide)).append (oneLine_of_isWord (Naming.isWord_toString i))
  have hlabel : OneLine (toString r.discriminant ++ ":") :=
    (oneLine_of_isWord (Naming.isWord_toString _)).append (.ofList (by decide))
  have hcase : Unread markOf? ("case " ++ toString r.discriminant ++ ":") := by
    rw [String.append_assoc]
    exact unread_case (.behind (head?_ne_of_isWord (by decide) (Naming.isWord_toString _))
      (.ofList (by decide))) hlabel
  let taken := commas ((List.range r.fields.length).map fun i => s!"__f{i}")
  have hreturn : Unread markOf? s!"return new {r.name}({taken});" :=
    ((((unread_ofList (by decide) (by decide)).append (oneLine_of_isWord h.name)).append
      (.ofList (by decide))).append hvalues).append (.ofList (by decide))
  rw [VariantRecord.decode_eq]
  exact reads_declared skipsBraces_markOf? hcase.line (hfields.before hreturn.line)

private theorem reads_recordLower (hs : s.IsOneLine) (h : r.Readable) :
    Reads markOf? (r.lower s) [r.lowerMark] := by
  have hreadable : ∀ a ∈ r.fields.map (·.argument), a.Readable := by
    intro a ha
    obtain ⟨f, hf, rfl⟩ := List.mem_map.mp ha
    exact (h.fields f hf).2.2
  have hinline : ∀ a ∈ (r.fields.map (·.argument)).map (·.expr), Inline a := by
    intro a ha
    obtain ⟨b, hb, rfl⟩ := List.mem_map.mp ha
    exact inline_argument (hreadable b hb)
  have hcase : Unread markOf? ("case " ++ r.name ++ (if r.fields.isEmpty then "" else " __v")
      ++ ":") := by
    have hbinding : OneLine (if r.fields.isEmpty then "" else " __v") := by
      split <;> exact .ofList (by decide)
    have hother : StartsOther '=' ((if r.fields.isEmpty then "" else " __v") ++ ":") := by
      split
      · exact .behind (by simp) (.ofList (by decide))
      · exact StartsOther.append (.ofList (by decide)) _
    rw [String.append_assoc, String.append_assoc]
    exact unread_case (.behind (head?_ne_of_isWord (by decide) h.name) hother)
      ((oneLine_of_isWord h.name).append (hbinding.append (.ofList (by decide))))
  have hmark : r.lowerMark = entryCall r.makeSymbol ((r.fields.map (·.argument)).map (·.expr)) := by
    rw [VariantRecord.lowerMark, List.map_map]
    rfl
  have hcall := reads_callImported .result h.make hinline
  rw [← hmark] at hcall
  rw [VariantRecord.lower_eq]
  exact reads_declared skipsBraces_markOf? hcase.line
    ((((reads_setups hs hreadable).behind hcall).before (reads_keepAlives hreadable)).before
      (unread_ofList (by decide) (by decide)).line)

/-- A class whose names can be read. -/
structure EnumClass.Readable (e : EnumClass) : Prop where
  native : OneLine e.native
  name : OneLine e.name
  records : ∀ r ∈ e.records, r.Readable
  tag : Naming.IsWord e.tagSymbol
  free : Naming.IsWord e.freeSymbol
  methods : ∀ m ∈ e.methods, m.Readable

/-- The calls in the class of an enum. -/
def EnumClass.marks (e : EnumClass) : List Mark :=
  entryCall e.tagSymbol ["handle"] :: e.records.flatMap (·.decodeMarks)
    ++ e.records.map (·.lowerMark)
    ++ entryCall e.freeSymbol ["handle"] :: e.methods.map (·.call.mark)

variable {e : EnumClass}

private theorem reads_decode (hs : s.IsOneLine) (h : e.Readable) : Reads markOf? (e.decode s)
    (entryCall e.tagSymbol ["handle"] :: e.records.flatMap (·.decodeMarks)) := by
  have hbraces := skipsBraces_markOf?
  have hargs : ∀ a ∈ ["handle"], Inline a := by simpa using Inline.ofList (by decide)
  have hinterface : OneLine (s.qualified e.interface) :=
    hs.qualified ((OneLine.ofList (by decide)).append h.name)
  have hheader : Unread markOf? ("internal static " ++ s.qualified e.interface
      ++ " Decode(ulong handle)") := by
    rw [String.append_assoc]
    exact unread_internal
      ((((StartsOther.append (.ofList (by decide)) _).append _).append _).append _)
      (hinterface.append (.ofList (by decide)))
  have htag : Reads markOf? [.line ("var __tag = " ++ callImported e.tagSymbol ["handle"] ++ ";")]
      [entryCall e.tagSymbol ["handle"]] := by
    have hvariable : Binding ("var " ++ "__tag" ++ " = ") := .variable_ (by decide)
    exact reads_callImported hvariable h.tag hargs
  have hrecords : Reads markOf? (e.records.flatMap (·.decode s))
      (e.records.flatMap (·.decodeMarks)) :=
    Reads.flatMap fun r hr => reads_recordDecode hs (h.records r hr)
  have hdefault : Reads markOf? (lines ["default:",
      "    throw new NativeContractException($\"unknown " ++ e.native
        ++ " discriminant \x7b__tag\x7d\");"]) [] :=
    (unread_ofList (by decide) (by decide)).cons
      ((((unread_ofList (by decide) (by decide)).append h.native).append
        (.ofList (by decide))).line)
  have hswitch := reads_declared hbraces
    (unread_ofList (by decide) (by decide) : Unread markOf? "switch (__tag)").line
    (hrecords.before hdefault)
  have htry := reads_declared hbraces (reads_keyword "try" (by decide))
    ((reads_newStatus.append (htag.append reads_checkStatus)).append hswitch)
  have hfinally := reads_declared hbraces (reads_keyword "finally" (by decide))
    (unread_ofList (by decide) (by decide) : Unread markOf? "Free(handle);").line
  rw [EnumClass.decode_eq]
  exact reads_declared hbraces hheader.line (htry.before hfinally)

private theorem reads_lower (hs : s.IsOneLine) (h : e.Readable) :
    Reads markOf? (e.lower s) (e.records.map (·.lowerMark)) := by
  have hbraces := skipsBraces_markOf?
  have hinterface : OneLine e.interface := (OneLine.ofList (by decide)).append h.name
  have hheader : Unread markOf? s!"internal static ulong Lower({s.qualified e.interface} value)" :=
    ((unread_ofList (by decide) (by decide)).append (hs.qualified hinterface)).append
      (.ofList (by decide))
  have hrecords : Reads markOf? (e.records.flatMap (·.lower s)) (e.records.map (·.lowerMark)) := by
    rw [List.map_eq_flatMap]
    exact Reads.flatMap fun r hr => reads_recordLower hs (h.records r hr)
  have hdefault : Reads markOf? (lines ["default:",
      "    throw new global::System.ArgumentException($\"unknown " ++ e.interface
        ++ " implementation \x7bvalue?.GetType()\x7d\", nameof(value));"]) [] :=
    (unread_ofList (by decide) (by decide)).cons
      ((((unread_ofList (by decide) (by decide)).append hinterface).append
        (.ofList (by decide))).line)
  have hswitch := reads_declared hbraces
    (unread_ofList (by decide) (by decide) : Unread markOf? "switch (value)").line
    (hrecords.before hdefault)
  have hresult : Reads markOf? (lines ["ulong __ret;"]) [] :=
    (unread_ofList (by decide) (by decide)).line
  have hreturn : Reads markOf? (lines ["return __ret;"]) [] :=
    (unread_ofList (by decide) (by decide)).line
  rw [EnumClass.lower_eq]
  exact reads_declared hbraces hheader.line
    (((reads_newStatus.append hresult).behind hswitch).before (reads_checkStatus.append hreturn))

/-- **The class of an enum** tells variants apart, reads their fields, makes and releases them, and
calls the methods of the enum. -/
theorem reads_enumClass (hs : s.IsOneLine) (h : e.Readable) :
    Reads markOf? (e.code s) e.marks := by
  have hbraces := skipsBraces_markOf?
  have hinterface : OneLine e.interface := (OneLine.ofList (by decide)).append h.name
  have hvalue : Reads markOf? [summary s!"A value of native enum <c>{e.native}</c>."] [] :=
    reads_summary (((OneLine.ofList (by decide)).append h.native).append (.ofList (by decide)))
  have hvariants : Reads markOf? [summary s!"Variants of native enum <c>{e.native}</c>.",
      threadingRemarks] [] :=
    (reads_summary (((OneLine.ofList (by decide)).append h.native).append
      (.ofList (by decide)))).append reads_threadingRemarks
  have hempty : Reads markOf? (lines [s!"public interface {e.interface}", "\x7b", "\x7d"]) [] :=
    ((unread_ofList (by decide) (by decide)).append hinterface).cons
      (hbraces.1.cons hbraces.2.1.line)
  have hrecords : Reads markOf? (e.records.map (·.code s (s.qualified e.interface))) [] := by
    refine reads_nothing fun code hcode => ?_
    obtain ⟨r, hr, rfl⟩ := List.mem_map.mp hcode
    exact reads_record hs (h.records r hr) (hs.qualified hinterface)
  have hfree := reads_declared hbraces (unread_ofList (by decide) (by decide) :
    Unread markOf? "internal static void Free(ulong handle)").line (reads_freeBody h.free)
  have hmembers := reads_spaced (List.rel_append
    (.cons (reads_decode hs h) (.cons (reads_lower hs h) (.cons hfree .nil)))
    (forall₂_reads_map fun m hm => reads_method hs (h.methods m hm)))
  have hheader : Unread markOf? s!"public static class {e.name}" :=
    (unread_ofList (by decide) (by decide)).append h.name
  have hclass := ((hvalue.append hempty).append hvariants.blank).append
    (reads_declared hbraces hheader.line (hrecords.behind hmembers))
  have hmarks : e.marks = ([entryCall e.tagSymbol ["handle"] :: e.records.flatMap (·.decodeMarks),
      e.records.map (·.lowerMark), [entryCall e.freeSymbol ["handle"]]]
        ++ e.methods.map fun m => [m.call.mark]).flatten := by
    simp [EnumClass.marks, flatten_map_singleton]
  rw [hmarks, EnumClass.code_eq]
  exact hclass

/-! ## Free functions -/

/-- The calls in the class of the free functions. -/
def Facade.marks (f : Facade) : List Mark := f.methods.map (·.call.mark)

/-- **The class of the free functions** calls each of them. -/
theorem reads_facade (hs : s.IsOneLine) {libraryName : String} (hlibrary : OneLine libraryName)
    {f : Facade} (hname : OneLine f.name) (hmethods : ∀ m ∈ f.methods, m.Readable) :
    Reads markOf? (f.code s libraryName) f.marks := by
  have hsummary : Reads markOf? [summary s!"Free functions of native library <c>{libraryName}</c>.",
      threadingRemarks] [] :=
    (reads_summary (((OneLine.ofList (by decide)).append hlibrary).append
      (.ofList (by decide)))).append reads_threadingRemarks
  have hheader : Unread markOf? s!"public static class {f.name}" :=
    (unread_ofList (by decide) (by decide)).append hname
  have hbody := reads_interspaced (forall₂_reads_map fun m hm => reads_method hs (hmethods m hm))
  rw [flatten_map_singleton] at hbody
  rw [Facade.code_eq]
  exact hsummary.append (reads_declared skipsBraces_markOf? hheader.line hbody)

end Boundary.Managed
