import Boundary.Proofs.Native.Listing
import Boundary.Proofs.Source.Brackets

/-!
# Braces in native files

The braces of native source match if they match in the texts that it is put together of.

* `Spelling.IsNested`: tables and paths in which braces match.
* `nested_lift`, `nested_lowering`, `nested_construction`, `nested_call`: expressions.
* `nested_pattern`, `nested_binding`: patterns.
* `isNested_errorWrite`: the statements that serialize an error, by recursion over it.
* `isNested_body`, `isNested_entryCode`: bodies and entry points.
* `isNested_nativeCode`: the file of a schema.
-/

namespace Boundary

open Source Text

namespace Native

/-! ## Expressions -/

/-- The braces of the tables and paths in `names` match. -/
structure Spelling.IsNested (names : Spelling) : Prop where
  table : ∀ id, Nested (names.table id)
  path : ∀ name, Naming.IsWord name → Nested (names.path name)

variable {names : Spelling} {value : String}

theorem nested_toString (n : Nat) : Nested (toString n) :=
  nested_of_isWord (Naming.isWord_toString n)

theorem nested_nativeIdent {name : String} (h : Naming.IsWord name) :
    Nested (Naming.nativeIdent name) := nested_of_isWord h.nativeIdent

theorem nested_boundName (depth : Nat) : Nested (boundName depth) :=
  (nested_ofList (by decide)).append (nested_toString depth)

theorem nested_commas {parts : List String} (h : ∀ part ∈ parts, Nested part) :
    Nested (commas parts) := .intercalate (.ofList (by decide)) h

private theorem nested_idents {fields : List String} (h : ∀ n ∈ fields, Naming.IsWord n) :
    Nested (commas (fields.map Naming.nativeIdent)) := by
  refine nested_commas fun part hpart => ?_
  obtain ⟨n, hn, rfl⟩ := List.mem_map.mp hpart
  exact nested_nativeIdent (h n hn)

section Conversions

variable (hnames : names.IsNested)
include hnames

theorem nested_lift (l : Lift) (hvalue : Nested value) (depth : Nat) :
    Nested (l.expr names value depth) := by
  induction l generalizing value depth with
  | same => exact hvalue
  | bool => exact hvalue.append (.ofList (by decide))
  | lentText | ownText => exact .enclose (.ofList (by decide)) hvalue (.ofList (by decide))
  | lend id | copy id | take id =>
    exact (((hnames.table id).append (.ofList (by decide))).append hvalue).append
      (.ofList (by decide))
  | option inner ih =>
    -- The value is looked at between braces.
    have hbound := nested_boundName depth
    have hfront : Leads 0 1 ("match " ++ value ++ ".into_option() \x7b Some(") :=
      ((nested_ofList (by decide)).append hvalue).append (.ofList (by decide))
    have hbetween : Leads 1 1 ") => Some(" := .ofList (by decide)
    exact (((hfront.append (hbound.at 1)).append hbetween).append ((ih hbound _).at 1)).append
      (.ofList (by decide))

theorem nested_lowering (l : Lowering) (hvalue : Nested value) (depth : Nat) :
    Nested (l.expr names value depth) := by
  induction l generalizing value depth with
  | same => exact hvalue
  | bool | text => exact ((nested_ofList (by decide)).append hvalue).append (.ofList (by decide))
  | insert id =>
    exact (((hnames.table id).append (.ofList (by decide))).append hvalue).append
      (.ofList (by decide))
  | option inner ih =>
    have hbound := nested_boundName depth
    exact ((((((nested_ofList (by decide)).append hvalue).append (.ofList (by decide))).append
      hbound).append (.ofList (by decide))).append (ih hbound _)).append (.ofList (by decide))

/-! ## Variants and calls -/

theorem nested_variantPath {v : VariantRef} (h : ∀ n ∈ v.names, Naming.IsWord n) :
    Nested (v.path names) := by
  simp only [VariantRef.names, List.forall_mem_cons] at h
  exact ((hnames.path v.enum h.1).append (.ofList (by decide))).append (nested_nativeIdent h.2.1)

theorem nested_construction {c : Construction} (h : ∀ n ∈ c.names, Naming.IsWord n) :
    Nested (c.expr names) := by
  cases c with
  | struct name fields =>
    simp only [Construction.names, List.forall_mem_cons] at h
    have hpath := hnames.path name h.1
    unfold Construction.expr
    dsimp only
    split
    · exact hpath.append (.ofList (by decide))
    · exact .enclose (hpath.append (.ofList (by decide))) (nested_idents h.2) (.ofList (by decide))
  | variant v fields =>
    simp only [Construction.names, List.forall_mem_append] at h
    have hpath := nested_variantPath hnames h.1
    unfold Construction.expr
    dsimp only
    cases v.shape with
    | unit => exact hpath
    | tuple =>
      exact ((hpath.append (.ofList (by decide))).append (nested_idents h.2)).append
        (.ofList (by decide))
    | struct =>
      exact .enclose (hpath.append (.ofList (by decide))) (nested_idents h.2) (.ofList (by decide))

theorem nested_pattern {v : VariantRef} (h : ∀ n ∈ v.names, Naming.IsWord n) :
    Nested (v.pattern names) := by
  have hpath := nested_variantPath hnames h
  unfold VariantRef.pattern
  split
  · exact hpath
  · exact hpath.append (.ofList (by decide))
  · exact hpath.append (.ofList (by decide))

theorem nested_binding {v : VariantRef} {field : FieldName}
    (h : ∀ n ∈ v.names, Naming.IsWord n) (hfield : ∀ n ∈ field.names, Naming.IsWord n) :
    Nested (v.binding names field) := by
  have hpath := nested_variantPath hnames h
  unfold VariantRef.binding
  split
  · rename_i i _
    have hskipped : Nested (String.join (List.replicate i "_, ")) := by
      refine nested_join fun part hpart => ?_
      obtain rfl := List.eq_of_mem_replicate hpart
      exact .ofList (by decide)
    exact ((hpath.append (.ofList (by decide))).append hskipped).append (.ofList (by decide))
  · rename_i name _
    have hname := nested_nativeIdent (hfield name (by simp [FieldName.names]))
    exact .enclose (hpath.append (.ofList (by decide))) hname (.ofList (by decide))
  · exact nested_pattern hnames h

theorem nested_call {c : Call} (h : ∀ n ∈ c.names, Naming.IsWord n) : Nested (c.expr names) := by
  simp only [Call.names, List.cons_append, List.forall_mem_cons, List.forall_mem_append] at h
  have hargs : ∀ part ∈ c.args.map fun arg =>
      if arg.2 then "&" ++ Naming.nativeIdent arg.1 else Naming.nativeIdent arg.1, Nested part := by
    intro part hpart
    obtain ⟨⟨name, byReference⟩, harg, rfl⟩ := List.mem_map.mp hpart
    have hname := nested_nativeIdent (h.2.2 name (List.mem_map_of_mem harg))
    cases byReference with
    | false => exact hname
    | true => exact (nested_ofList (by decide)).append hname
  refine (((?callee : Nested _).append (.ofList (by decide))).append
    (nested_commas (List.forall_mem_append.mpr ⟨?receiver, hargs⟩))).append (.ofList (by decide))
  case callee =>
    cases howner : c.owner with
    | none => exact hnames.path _ h.1
    | some owner =>
      exact ((hnames.path owner (h.2.1 owner (by simp [howner]))).append
        (.ofList (by decide))).append (nested_nativeIdent h.1)
  case receiver =>
    cases c.receiver with
    | none => simp
    | some access => cases access <;> simpa using Leads.ofList (by decide)

/-! ## Statements -/

theorem isNested_step {step : Step} (h : ∀ n ∈ step.names, Naming.IsWord n) :
    IsNested [step.line names] := by
  have hhandle : Nested handleName := .ofList (by decide)
  cases step with
  | receive access id =>
    cases access <;>
    exact isNested_line (((((nested_ofList (by decide)).append (hnames.table id)).append
      (.ofList (by decide))).append hhandle).append (.ofList (by decide)))
  | lift place name l =>
    have hident := nested_nativeIdent (h name (by simp [Step.names]))
    exact isNested_line (((((nested_ofList (by decide)).append hident).append
      (.ofList (by decide))).append (nested_lift hnames l hident 0)).append (.ofList (by decide)))

private theorem isNested_steps {steps : List Step}
    (h : ∀ n ∈ steps.flatMap Step.names, Naming.IsWord n) : IsNested (steps.map (·.line names)) :=
  .map fun step hstep =>
    isNested_step hnames fun n hn => h n (List.mem_flatMap.mpr ⟨step, hstep, hn⟩)

theorem isNested_lowered (l : Lowering) (hvalue : Nested value) :
    IsNested [lowered names value l] :=
  isNested_line (((nested_ofList (by decide)).append (nested_lowering hnames l hvalue 0)).append
    (.ofList (by decide)))

/-- Each option of an error opens two blocks and closes them. -/
theorem isNested_errorWrite (w : ErrorWrite) (hvalue : Nested value) (depth : Nat) :
    IsNested (w.code names value depth) := by
  induction w generalizing value depth with
  | nothing => exact isNested_nil
  | primitive p =>
    have hname : Nested p.name := by cases p <;> exact .ofList (by decide)
    exact isNested_line (((((nested_ofList (by decide)).append hname).append
      (.ofList (by decide))).append hvalue).append (.ofList (by decide)))
  | text =>
    exact isNested_line (((nested_ofList (by decide)).append hvalue).append (.ofList (by decide)))
  | insert id =>
    exact isNested_line (((((nested_ofList (by decide)).append (hnames.table id)).append
      (.ofList (by decide))).append hvalue).append (.ofList (by decide)))
  | option inner ih =>
    have hbound := nested_boundName depth
    have hsome : IsNested (level s!"Some({boundName depth}) => \x7b" "\x7d"
        (.line "__writer.write_presence(true);" ::
          inner.code names (boundName depth) (depth + 1))) :=
      .level (((nested_ofList (by decide)).append hbound).append (.ofList (by decide)))
        ((isNested_line (.ofList (by decide))).append (ih hbound (depth + 1))) (.ofList (by decide))
    rw [ErrorWrite.code_option]
    exact .level (((nested_ofList (by decide)).append hvalue).append (.ofList (by decide)))
      (hsome.append (isNested_line (.ofList (by decide)))) (.ofList (by decide))

private theorem isNested_answer (a : Answer) {call : String} (hcall : Nested call) :
    IsNested (a.code names call) := by
  have hresult : Nested "__result" := .ofList (by decide)
  cases a with
  | nothing =>
    exact (isNested_line (hcall.append (.ofList (by decide)))).append
      (isNested_line (.ofList (by decide)))
  | value l =>
    exact (isNested_line (((nested_ofList (by decide)).append hcall).append
      (.ofList (by decide)))).append (isNested_lowered hnames l hresult)
  | result ok err =>
    -- An error leaves the function from inside both blocks.
    have hmatch {failure : List Code} (hfailure : IsNested failure) :
        IsNested (level s!"let __result = match {call} \x7b" "\x7d;"
          (.line "Ok(__value) => __value," :: level "Err(__error) => \x7b" "\x7d" failure)) :=
      .level (((nested_ofList (by decide)).append hcall).append (.ofList (by decide)))
        ((isNested_line (.ofList (by decide))).append
          (.level (.ofList (by decide)) hfailure (.ofList (by decide)))) (.ofList (by decide))
    rw [Answer.code_result]
    refine (hmatch ?_).append ?_
    · cases err with
      | none =>
        exact (isNested_line (.ofList (by decide))).append (isNested_line (.ofList (by decide)))
      | some write =>
        exact ((isNested_line (.ofList (by decide))).append
          (isNested_errorWrite hnames write (.ofList (by decide)) 0)).append
            (isNested_line (.ofList (by decide)))
    · cases ok with
      | none =>
        exact (isNested_line (.ofList (by decide))).append (isNested_line (.ofList (by decide)))
      | some lowering => exact isNested_lowered hnames lowering hresult

/-- **The braces of the body `b` match**, whatever it does. -/
theorem isNested_body {b : Body} (h : ∀ n ∈ b.names, Naming.IsWord n) :
    IsNested (b.code names) := by
  have hhandle : Nested handleName := .ofList (by decide)
  have hreceive (id : TypeId) : IsNested [(Step.receive .lend id).line names] :=
    isNested_step hnames (by simp [Step.names])
  cases b with
  | freeBuffer =>
    exact (isNested_line (.ofList (by decide))).append (isNested_line (.ofList (by decide)))
  | release id =>
    exact (isNested_line ((((hnames.table id).append (.ofList (by decide))).append hhandle).append
      (.ofList (by decide)))).append (isNested_line (.ofList (by decide)))
  | construct id steps value =>
    simp only [Body.names, List.forall_mem_append] at h
    exact (isNested_steps hnames h.1).append
      (isNested_line (((((nested_ofList (by decide)).append (hnames.table id)).append
        (.ofList (by decide))).append (nested_construction hnames h.2)).append
          (.ofList (by decide))))
  | field id place name isNumber lowering =>
    have hread : Nested s!"__this.{Naming.nativeIdent name}" :=
      (nested_ofList (by decide)).append (nested_nativeIdent (h name (by simp [Body.names])))
    have hline {value : String} (hvalue : Nested value) :
        IsNested [.line s!"let __field = {value};"] :=
      isNested_line (((nested_ofList (by decide)).append hvalue).append (.ofList (by decide)))
    have hlast : IsNested [lowered names "__field" lowering] :=
      isNested_lowered hnames lowering (.ofList (by decide))
    cases isNumber with
    | true => exact ((hreceive id).append (hline hread)).append hlast
    | false =>
      exact ((hreceive id).append (hline (hread.append (.ofList (by decide))))).append hlast
  | tag id arms =>
    have harms : IsNested (arms.map fun arm => .line s!"{arm.1.pattern names} => {arm.2},") := by
      refine .map ?_
      rintro ⟨v, n⟩ harm
      have hv : ∀ name ∈ v.names, Naming.IsWord name :=
        fun name hname => h name (List.mem_flatMap.mpr ⟨(v, n), harm, hname⟩)
      exact isNested_line ((((nested_pattern hnames hv).append (.ofList (by decide))).append
        (nested_toString n)).append (.ofList (by decide)))
    rw [Body.code_tag]
    exact (hreceive id).append (.level (.ofList (by decide)) harms (.ofList (by decide)))
  | variantField id v place name isNumber lowering =>
    simp only [Body.names, List.forall_mem_append] at h
    let value := if isNumber then "*__field" else "__field.clone()"
    have hvalue : Nested value := by cases isNumber <;> exact .ofList (by decide)
    have hfound : IsNested (level s!"{v.binding names name} => \x7b" "\x7d"
        [.line s!"let __value = {value};", lowered names "__value" lowering]) :=
      .level ((nested_binding hnames h.1 h.2).append (.ofList (by decide)))
        ((isNested_line (((nested_ofList (by decide)).append hvalue).append
          (.ofList (by decide)))).append (isNested_lowered hnames lowering (.ofList (by decide))))
        (.ofList (by decide))
    have hquoted {n : String} (hn : n ∈ v.names) : Nested (quoted n) :=
      nested_quoted (braceFree_of_isWord (h.1 n hn))
    let expected := s!"{Text.quoted v.enum}, {Text.quoted v.name}"
    have hexpected : Nested expected :=
      ((hquoted (by simp [VariantRef.names])).append (nested_ofList (by decide))).append
        (hquoted (by simp [VariantRef.names]))
    have hother : IsNested [.line "#[allow(unreachable_patterns)]",
        .line s!"_ => Err(__rt::CallError::variant_mismatch({expected})),"] :=
      (isNested_line (.ofList (by decide))).append
        (isNested_line (((nested_ofList (by decide)).append hexpected).append
          (.ofList (by decide))))
    rw [Body.code_variantField]
    exact (hreceive id).append
      (.level (.ofList (by decide)) (hfound.append hother) (.ofList (by decide)))
  | call steps c answer =>
    simp only [Body.names, List.forall_mem_append] at h
    exact (isNested_steps hnames h.1).append
      (isNested_answer hnames answer (nested_call hnames h.2))

end Conversions

/-! ## Entry points -/

theorem nested_native (t : FlatType) : Nested (t.native support) := by
  induction t with
  | scalar p => cases p <;> exact .ofList (by decide)
  | option inner ih =>
    exact (((nested_ofList (by decide)).append (nested_ofList (by decide))).append ih).append
      (.ofList (by decide))
  | strView | buffer => exact (nested_ofList (by decide)).append (nested_ofList (by decide))
  | void | handle => exact .ofList (by decide)

/-- `signature` opens the block of its function. -/
theorem leads_signature {e : EntryPoint} (hsymbol : Nested e.symbol)
    (hparams : ∀ p ∈ e.params, Naming.IsWord p.name) : Leads 0 1 (signature e) := by
  have hstatus : Nested statusParam :=
    ((nested_ofList (by decide)).append (nested_ofList (by decide))).append (.ofList (by decide))
  have hall : ∀ part ∈ e.params.map flatParam ++ [statusParam], Nested part := by
    rw [List.forall_mem_append, List.forall_mem_map, List.forall_mem_singleton]
    exact ⟨fun p hp => ((nested_nativeIdent (hparams p hp)).append (.ofList (by decide))).append
      (nested_native p.type), hstatus⟩
  have hfront : Nested ("pub extern \"C\" fn " ++ e.symbol ++ "("
      ++ commas (e.params.map flatParam ++ [statusParam]) ++ ")") :=
    ((((nested_ofList (by decide)).append hsymbol).append (.ofList (by decide))).append
      (nested_commas hall)).append (.ofList (by decide))
  have hlast : Leads 0 1 " \x7b" := .ofList (by decide)
  unfold signature
  dsimp only
  refine (hfront.append ?_).append hlast
  split
  · exact nested_empty
  · exact (nested_ofList (by decide)).append (nested_native _)

variable {names : Spelling}

/-- **The braces of the entry point `e` match.** -/
theorem isNested_entryCode (hnames : names.IsNested) {e : EntryPoint} {body : Option Body}
    (hsymbol : Nested e.symbol) (hparams : ∀ p ∈ e.params, Naming.IsWord p.name)
    (hbody : ∀ b ∈ body, ∀ n ∈ b.names, Naming.IsWord n) : IsNested (entryCode names e body) := by
  have hstatements : IsNested ((body.map (·.code names)).getD []) := by
    cases body with
    | none => exact isNested_nil
    | some b => exact isNested_body hnames (hbody b rfl)
  have hcall : IsNested (level "__rt::rust_call(__out_status, move || \x7b" "\x7d)"
      ((body.map (·.code names)).getD [])) :=
    .level (.ofList (by decide)) hstatements (.ofList (by decide))
  rw [entryCode_eq]
  exact (isNested_blank.append (isNested_line (.ofList (by decide)))).append
    (.level (leads_signature hsymbol hparams) hcall (.ofList (by decide)))

/-! ## Files -/

/-- `heading` has the braces of the names in it. -/
theorem isNested_heading {c : Config} (hlibrary : BraceFree c.libraryName)
    (hruntime : Nested c.runtimePath) : IsNested (heading c) := by
  have hfront : BraceFree
      "// @generated by crossbind. Do not edit.\n//\n// Native shims for `" := by
    decide
  have hback : BraceFree "`. Exported types must be `Clone + Send + Sync`.\n" := by decide
  have hlast : BraceFree "// Include this file in the crate that defines them." := by decide
  have hcomment := isNested_lines (((hfront.append hlibrary).append hback).append hlast).nested
  have huse : Nested s!"use {c.runtimePath} as {support};" :=
    ((((nested_ofList (by decide)).append hruntime).append (nested_ofList (by decide))).append
      (nested_ofList (by decide))).append (nested_ofList (by decide))
  exact hcomment.append ((isNested_blank.append (isNested_line huse)).append isNested_blank)

private theorem isNested_layoutChecks (t : FlatType) : IsNested (layoutChecks t) := by
  have hcheck {measure : String} (hmeasure : Nested measure) (expected : Nat) :
      IsNested (layoutCheck measure (t.native support) expected) :=
    (isNested_line (.ofList (by decide))).append (isNested_line
      (((((((nested_ofList (by decide)).append hmeasure).append (.ofList (by decide))).append
        (nested_native t)).append (.ofList (by decide))).append (nested_toString expected)).append
          (.ofList (by decide))))
  exact (hcheck (.ofList (by decide)) _).append (hcheck (.ofList (by decide)) _)

end Native

open Native

variable {c : Config} {facade : String} {ds : List Declaration} {s : Schema}

/-- The tables and the paths of a schema have the braces of the path to the declared items. -/
theorem Schema.isNested_spelling (h : Accepted facade ds s) (hpath : Nested c.nativePath) :
    (s.spelling c).IsNested := by
  refine ⟨fun id => ?_, fun name hname => ?_⟩
  · show Nested (tableName (s.typeName id))
    obtain hid | hunknown := s.typeName_cases id
    · exact nested_of_isWord (Naming.isWord_tableName (h.isIdentifier_typeName hid))
    · rw [hunknown]
      decide +kernel
  · exact (hpath.append (nested_ofList (by decide))).append (nested_nativeIdent hname)

/-- **The braces of a native file match** if they match in the settings that occur in it. -/
theorem Schema.isNested_nativeCode (h : Accepted facade ds s) (hlibrary : BraceFree c.libraryName)
    (hruntime : Nested c.runtimePath) (hpath : Nested c.nativePath)
    (hsymbols : ∀ e ∈ s.entryPoints c.symbols, Nested e.symbol) : IsNested (s.nativeCode c) := by
  have hnames := Schema.isNested_spelling h hpath
  have htable {id : TypeId} {name : String} (ht : (id, name) ∈ s.typeNames) :
      IsNested [tableCode (s.spelling c) id name] := by
    obtain ⟨hid, rfl⟩ := h.typeName_of_mem ht
    have hpath := hnames.path _ (Naming.isWord_of_isIdentifier (h.isIdentifier_typeName hid))
    exact isNested_line (((((nested_ofList (by decide)).append (hnames.table id)).append
      (nested_ofList (by decide))).append hpath).append (nested_ofList (by decide)))
  have hchecks : IsNested
      ((FlatType.strView :: .buffer :: optionTypes (s.entryPoints c.symbols)).flatMap
        layoutChecks) :=
    .flatMap fun t _ => isNested_layoutChecks t
  have hentries : IsNested ((s.entryPoints c.symbols).flatMap fun e =>
      entryCode (s.spelling c) e (s.body? e.purpose)) :=
    .flatMap fun e he => isNested_entryCode hnames (hsymbols e he)
      (fun _ hp => h.isWord_entryParam he hp) fun _ hb => h.isWord_of_body? hb
  exact ((((isNested_heading hlibrary hruntime).append (.map fun _ ht => htable ht)).append
    isNested_blank).append hchecks).append hentries

end Boundary
