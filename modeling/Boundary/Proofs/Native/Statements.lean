import Boundary.Proofs.Native.Items
import Boundary.Proofs.Native.Levels

/-!
# Statements in native files

Nothing but the signatures of entry points declares a function for callers outside.

* `Spelling.Readable`: tables and paths that can stand at the beginning of a statement.
* `Body.names`: the names that a body mentions.
* `reads_body`: the statements of a body declare nothing.
* `reads_entryCode`: an entry point declares one function.
-/

namespace Boundary

open Native Source Text

/-! ## Names in bodies -/

/-- The names that a field of a variant brings along. -/
def FieldName.names : FieldName → List String
  | .index _ => []
  | .named name => [name]

namespace Native

/-- The names that a step mentions. -/
def Step.names : Step → List String
  | .receive _ _ => []
  | .lift _ name _ => [name]

/-- The names that a variant is referred to with. -/
def VariantRef.names (v : VariantRef) : List String := [v.enum, v.name]

/-- The names that a value is made with. -/
def Construction.names : Construction → List String
  | .struct name fields => name :: fields
  | .variant v fields => v.names ++ fields

/-- The names that a call mentions. -/
def Call.names (c : Call) : List String := c.name :: c.owner.toList ++ c.args.map (·.1)

/-- The names that a body mentions. -/
def Body.names : Body → List String
  | .freeBuffer | .release _ => []
  | .construct _ steps value => steps.flatMap Step.names ++ value.names
  | .field _ _ name _ _ => [name]
  | .tag _ arms => arms.flatMap (·.1.names)
  | .variantField _ v _ name _ _ => v.names ++ name.names
  | .call steps c _ => steps.flatMap Step.names ++ c.names

/-! ## Expressions -/

/-- No statement that starts with a table or a path declares a function. -/
structure Spelling.Readable (names : Spelling) : Prop where
  table : ∀ id, Unread itemOfLine? (names.table id)
  path : ∀ name, Naming.IsWord name → Unread itemOfLine? (names.path name)

variable {names : Spelling}

theorem oneLine_toString (n : Nat) : OneLine (toString n) :=
  oneLine_of_isWord (Naming.isWord_toString n)

theorem oneLine_nativeIdent {name : String} (h : Naming.IsWord name) :
    OneLine (Naming.nativeIdent name) := oneLine_of_isWord h.nativeIdent

theorem oneLine_boundName (depth : Nat) : OneLine (boundName depth) :=
  .append (.ofList (by decide)) (oneLine_toString depth)

private theorem oneLine_lift (hnames : names.Readable) (l : Lift) {value : String}
    (hvalue : OneLine value) (depth : Nat) : OneLine (l.expr names value depth) := by
  have htable (id : TypeId) := (hnames.table id).oneLine
  induction l generalizing value depth with
  | same => exact hvalue
  | bool => exact hvalue.append (.ofList (by decide))
  | lentText | ownText => exact .append (.append (.ofList (by decide)) hvalue) (.ofList (by decide))
  | lend id | copy id | take id =>
    exact ((htable id).append (.ofList (by decide))).append hvalue |>.append (.ofList (by decide))
  | option inner ih =>
    have hbound := oneLine_boundName depth
    exact ((((OneLine.ofList (by decide)).append hvalue).append (.ofList (by decide))).append hbound
      |>.append (.ofList (by decide))).append (ih hbound _) |>.append (.ofList (by decide))

private theorem oneLine_lowering (hnames : names.Readable) (l : Lowering) {value : String}
    (hvalue : OneLine value) (depth : Nat) : OneLine (l.expr names value depth) := by
  induction l generalizing value depth with
  | same => exact hvalue
  | bool | text => exact .append (.append (.ofList (by decide)) hvalue) (.ofList (by decide))
  | insert id =>
    exact ((hnames.table id).oneLine.append (.ofList (by decide))).append hvalue
      |>.append (.ofList (by decide))
  | option inner ih =>
    have hbound := oneLine_boundName depth
    exact ((((OneLine.ofList (by decide)).append hvalue).append (.ofList (by decide))).append hbound
      |>.append (.ofList (by decide))).append (ih hbound _) |>.append (.ofList (by decide))

theorem oneLine_commas {parts : List String} (h : ∀ part ∈ parts, OneLine part) :
    OneLine (commas parts) := .intercalate (.ofList (by decide)) h

/-! ## Statements -/

private theorem oneLine_construction (hnames : names.Readable) {c : Construction}
    (h : ∀ n ∈ c.names, Naming.IsWord n) : OneLine (c.expr names) := by
  have hinits {fields : List String} (hfields : ∀ n ∈ fields, Naming.IsWord n) :
      OneLine (commas (fields.map Naming.nativeIdent)) := by
    refine oneLine_commas fun part hpart => ?_
    obtain ⟨n, hn, rfl⟩ := List.mem_map.mp hpart
    exact oneLine_nativeIdent (hfields n hn)
  cases c with
  | struct name fields =>
    simp only [Construction.names, List.forall_mem_cons] at h
    have hpath := (hnames.path name h.1).oneLine
    unfold Construction.expr
    dsimp only
    split
    · exact hpath.append (.ofList (by decide))
    · exact (hpath.append (.ofList (by decide))).append (hinits h.2) |>.append (.ofList (by decide))
  | variant v fields =>
    simp only [Construction.names, VariantRef.names, List.cons_append, List.nil_append,
      List.forall_mem_cons] at h
    have hpath : OneLine (v.path names) :=
      ((hnames.path v.enum h.1).oneLine.append (.ofList (by decide))).append
        (oneLine_nativeIdent h.2.1)
    unfold Construction.expr
    dsimp only
    cases v.shape with
    | unit => exact hpath
    | tuple | struct =>
      exact (hpath.append (.ofList (by decide))).append (hinits h.2.2)
        |>.append (.ofList (by decide))

theorem unread_path (hnames : names.Readable) {v : VariantRef}
    (h : ∀ n ∈ v.names, Naming.IsWord n) : Unread itemOfLine? (v.path names) := by
  simp only [VariantRef.names, List.forall_mem_cons] at h
  exact ((hnames.path v.enum h.1).append (.ofList (by decide))).append (oneLine_nativeIdent h.2.1)

theorem unread_pattern (hnames : names.Readable) {v : VariantRef}
    (h : ∀ n ∈ v.names, Naming.IsWord n) : Unread itemOfLine? (v.pattern names) := by
  unfold VariantRef.pattern
  split
  · exact unread_path hnames h
  all_goals exact (unread_path hnames h).append (.ofList (by decide))

private theorem unread_binding (hnames : names.Readable) {v : VariantRef} {field : FieldName}
    (h : ∀ n ∈ v.names, Naming.IsWord n) (hfield : ∀ n ∈ field.names, Naming.IsWord n) :
    Unread itemOfLine? (v.binding names field) := by
  unfold VariantRef.binding
  split
  · rename_i i _
    have hskipped : OneLine (String.join (List.replicate i "_, ")) := by
      rw [OneLine, String.toList_join, List.mem_flatMap]
      rintro ⟨part, hpart, hfeed⟩
      obtain rfl := List.eq_of_mem_replicate hpart
      revert hfeed
      decide
    exact ((unread_path hnames h).append (.ofList (by decide))).append hskipped
      |>.append (.ofList (by decide))
  · rename_i name _
    exact ((unread_path hnames h).append (.ofList (by decide))).append
      (oneLine_nativeIdent (hfield name (by simp [FieldName.names]))) |>.append
      (.ofList (by decide))
  · exact unread_pattern hnames h

private theorem unread_call (hnames : names.Readable) {c : Call}
    (h : ∀ n ∈ c.names, Naming.IsWord n) : Unread itemOfLine? (c.expr names) := by
  simp only [Call.names, List.cons_append, List.forall_mem_cons, List.forall_mem_append] at h
  have hargs : ∀ part ∈ c.args.map fun arg =>
      if arg.2 then "&" ++ Naming.nativeIdent arg.1 else Naming.nativeIdent arg.1,
      OneLine part := by
    intro part hpart
    obtain ⟨⟨name, byReference⟩, harg, rfl⟩ := List.mem_map.mp hpart
    have hname := oneLine_nativeIdent (h.2.2 name (List.mem_map_of_mem harg))
    cases byReference with
    | false => exact hname
    | true => exact .append (.ofList (by decide)) hname
  refine ((Unread.append ?callee (.ofList (by decide))).append
    (oneLine_commas (List.forall_mem_append.mpr ⟨?receiver, hargs⟩))).append (.ofList (by decide))
  case callee =>
    cases howner : c.owner with
    | none => exact hnames.path _ h.1
    | some owner =>
      exact ((hnames.path owner (h.2.1 owner (by simp [howner]))).append
        (.ofList (by decide))).append (oneLine_nativeIdent h.1)
  case receiver =>
    cases c.receiver with
    | none => simp
    | some access => cases access <;> simpa using OneLine.ofList (by decide)

theorem reads_step (hnames : names.Readable) {step : Step}
    (h : ∀ n ∈ step.names, Naming.IsWord n) : Reads itemOfLine? [step.line names] [] := by
  have hhandle : OneLine handleName := .ofList (by decide)
  cases step with
  | receive access id =>
    cases access <;>
    exact ((((unread_ofList (by decide)).append (hnames.table id).oneLine).append
      (.ofList (by decide))).append hhandle |>.append (.ofList (by decide))).line
  | lift place name l =>
    have hident := oneLine_nativeIdent (h name (by simp [Step.names]))
    exact ((((unread_ofList (by decide)).append hident).append (.ofList (by decide))).append
      (oneLine_lift hnames l hident 0) |>.append (.ofList (by decide))).line

private theorem reads_steps (hnames : names.Readable) {steps : List Step}
    (h : ∀ n ∈ steps.flatMap Step.names, Naming.IsWord n) :
    Reads itemOfLine? (steps.map (·.line names)) [] := by
  refine reads_nothing fun c hc => ?_
  obtain ⟨step, hstep, rfl⟩ := List.mem_map.mp hc
  exact reads_step hnames fun n hn => h n (List.mem_flatMap.mpr ⟨step, hstep, hn⟩)

theorem reads_lowered (hnames : names.Readable) (l : Lowering) {value : String}
    (hvalue : OneLine value) : Reads itemOfLine? [lowered names value l] [] :=
  (((unread_ofList (by decide)).append (oneLine_lowering hnames l hvalue 0)).append
    (.ofList (by decide))).line

private theorem reads_errorWrite (hnames : names.Readable) (w : ErrorWrite) {value : String}
    (hvalue : OneLine value) (depth : Nat) :
    Reads itemOfLine? (w.code names value depth) [] := by
  induction w generalizing value depth with
  | nothing => exact reads_nil
  | primitive p =>
    have hname : OneLine p.name := by cases p <;> exact .ofList (by decide)
    exact ((((unread_ofList (by decide)).append hname).append (.ofList (by decide))).append hvalue
      |>.append (.ofList (by decide))).line
  | text =>
    exact (((unread_ofList (by decide)).append hvalue).append (.ofList (by decide))).line
  | insert id =>
    exact ((((unread_ofList (by decide)).append (hnames.table id).oneLine).append
      (.ofList (by decide))).append hvalue |>.append (.ofList (by decide))).line
  | option inner ih =>
    have hbound := oneLine_boundName depth
    have hsome : Reads itemOfLine? (level s!"Some({boundName depth}) => \x7b" "\x7d"
        (.line "__writer.write_presence(true);" :: inner.code names (boundName depth) (depth + 1)))
        [] :=
      Unread.level (((unread_ofList (by decide)).append hbound).append (.ofList (by decide)))
        (Unread.cons (unread_ofList (by decide)) (ih hbound (depth + 1)))
        (unread_ofList (by decide))
    rw [ErrorWrite.code_option]
    exact Unread.level (((unread_ofList (by decide)).append hvalue).append (.ofList (by decide)))
      (hsome.append (unread_ofList (by decide)).line) (unread_ofList (by decide))

/-- The statements that tell success from failure. -/
theorem reads_match {call : String} (hcall : Unread itemOfLine? call) {failure success : List Code}
    (hfailure : Reads itemOfLine? failure []) (hsuccess : Reads itemOfLine? success []) :
    Reads itemOfLine? (level s!"let __result = match {call} \x7b" "\x7d;"
      (.line "Ok(__value) => __value," :: level "Err(__error) => \x7b" "\x7d" failure)
        ++ success) [] := by
  have hfailed : Reads itemOfLine? (level "Err(__error) => \x7b" "\x7d" failure) [] :=
    Unread.level (unread_ofList (by decide)) hfailure (unread_ofList (by decide))
  have hmatch : Reads itemOfLine? (level s!"let __result = match {call} \x7b" "\x7d;"
      (.line "Ok(__value) => __value," :: level "Err(__error) => \x7b" "\x7d" failure)) [] :=
    Unread.level (((unread_ofList (by decide)).append hcall.oneLine).append (.ofList (by decide)))
      (Unread.cons (unread_ofList (by decide)) hfailed) (unread_ofList (by decide))
  exact hmatch.append hsuccess

private theorem reads_answer (hnames : names.Readable) (a : Answer) {call : String}
    (hcall : Unread itemOfLine? call) : Reads itemOfLine? (a.code names call) [] := by
  have hresult : OneLine "__result" := .ofList (by decide)
  cases a with
  | nothing =>
    exact (hcall.append (.ofList (by decide))).line.append (unread_ofList (by decide)).line
  | value l =>
    exact (((unread_ofList (by decide)).append hcall.oneLine).append
      (.ofList (by decide))).line.append (reads_lowered hnames l hresult)
  | result ok err =>
    rw [Answer.code_result]
    refine reads_match hcall ?_ ?_
    · cases err with
      | none => exact (unread_ofList (by decide)).line.append (unread_ofList (by decide)).line
      | some write =>
        exact ((unread_ofList (by decide)).line.append
          (reads_errorWrite hnames write (.ofList (by decide)) 0)).append
            (unread_ofList (by decide)).line
    · cases ok with
      | none => exact (unread_ofList (by decide)).line.append (unread_ofList (by decide)).line
      | some lowering => exact reads_lowered hnames lowering hresult

/-- **Nothing is read off the statements of a body.** -/
theorem reads_body (hnames : names.Readable) {b : Body} (h : ∀ n ∈ b.names, Naming.IsWord n) :
    Reads itemOfLine? (b.code names) [] := by
  have hhandle : OneLine handleName := .ofList (by decide)
  have hreceive (id : TypeId) : Reads itemOfLine? [(Step.receive .lend id).line names] [] :=
    reads_step hnames (by simp [Step.names])
  cases b with
  | freeBuffer => exact (unread_ofList (by decide)).line.append (unread_ofList (by decide)).line
  | release id =>
    exact ((((hnames.table id).append (.ofList (by decide))).append hhandle).append
      (.ofList (by decide))).line.append (unread_ofList (by decide)).line
  | construct id steps value =>
    simp only [Body.names, List.forall_mem_append] at h
    exact (reads_steps hnames h.1).append
      (((((unread_ofList (by decide)).append (hnames.table id).oneLine).append
        (.ofList (by decide))).append (oneLine_construction hnames h.2)).append
          (.ofList (by decide))).line
  | field id place name isNumber lowering =>
    have hread : OneLine s!"__this.{Naming.nativeIdent name}" :=
      .append (.ofList (by decide)) (oneLine_nativeIdent (h name (by simp [Body.names])))
    have hline {value : String} (hvalue : OneLine value) :
        Reads itemOfLine? [.line s!"let __field = {value};"] [] :=
      (((unread_ofList (by decide)).append hvalue).append (.ofList (by decide))).line
    have hlast : Reads itemOfLine? [lowered names "__field" lowering] [] :=
      reads_lowered hnames lowering (.ofList (by decide))
    cases isNumber with
    | true => exact ((hreceive id).append (hline hread)).append hlast
    | false =>
      exact ((hreceive id).append (hline (hread.append (.ofList (by decide))))).append hlast
  | tag id arms =>
    have harms : Reads itemOfLine?
        (arms.map fun arm => .line s!"{arm.1.pattern names} => {arm.2},") [] := by
      refine reads_nothing fun c hc => ?_
      obtain ⟨⟨v, n⟩, harm, rfl⟩ := List.mem_map.mp hc
      have hv : ∀ name ∈ v.names, Naming.IsWord name :=
        fun name hname => h name (List.mem_flatMap.mpr ⟨(v, n), harm, hname⟩)
      exact ((((unread_pattern hnames hv).append (.ofList (by decide))).append
        (oneLine_toString n)).append (.ofList (by decide))).line
    rw [Body.code_tag]
    exact (hreceive id).append
      (Unread.level (unread_ofList (by decide)) harms (unread_ofList (by decide)))
  | variantField id v place name isNumber lowering =>
    simp only [Body.names, List.forall_mem_append] at h
    have hline {value : String} (hvalue : OneLine value) :
        Reads itemOfLine? [.line s!"let __value = {value};"] [] :=
      (((unread_ofList (by decide)).append hvalue).append (.ofList (by decide))).line
    let value := if isNumber then "*__field" else "__field.clone()"
    have hvalue : Reads itemOfLine? [.line s!"let __value = {value};"] [] := by
      cases isNumber <;> exact hline (.ofList (by decide))
    have hfound : Reads itemOfLine? (level s!"{v.binding names name} => \x7b" "\x7d"
        [.line s!"let __value = {value};", lowered names "__value" lowering]) [] :=
      Unread.level ((unread_binding hnames h.1 h.2).append (.ofList (by decide)))
        (hvalue.append (reads_lowered hnames lowering (.ofList (by decide))))
        (unread_ofList (by decide))
    have hexpected : OneLine s!"{Text.quoted v.enum}, {Text.quoted v.name}" :=
      ((oneLine_quoted _).append (.ofList (by decide))).append (oneLine_quoted _)
    rw [Body.code_variantField]
    exact (hreceive id).append (Unread.level (unread_ofList (by decide))
      (hfound.append (Unread.cons (unread_ofList (by decide))
        (((unread_ofList (by decide)).append hexpected).append (.ofList (by decide))).line))
      (unread_ofList (by decide)))
  | call steps c answer =>
    simp only [Body.names, List.forall_mem_append] at h
    exact (reads_steps hnames h.1).append (reads_answer hnames answer (unread_call hnames h.2))

/-! ## Entry points -/

/-- **One function is read off an entry point.** -/
theorem reads_entryCode (hnames : names.Readable) {e : EntryPoint} {body : Option Body}
    (hsymbol : Naming.IsWord e.symbol) (hparams : ∀ p ∈ e.params, Naming.IsWord p.name)
    (hbody : ∀ b ∈ body, ∀ n ∈ b.names, Naming.IsWord n) :
    Reads itemOfLine? (entryCode names e body) [e.item] := by
  have hstatements : Reads itemOfLine? ((body.map (·.code names)).getD []) [] := by
    cases body with
    | none => exact reads_nil
    | some b => exact reads_body hnames (hbody b rfl)
  have hcall : Reads itemOfLine? (level "__rt::rust_call(__out_status, move || \x7b" "\x7d)"
      ((body.map (·.code names)).getD [])) [] :=
    Unread.level (unread_ofList (by decide)) hstatements (unread_ofList (by decide))
  have hsignature : Reads itemOfLine? [.line (signature e)] [e.item] :=
    reads_line (oneLine_signature hsymbol hparams) (itemOfLine?_signature hsymbol hparams)
  rw [entryCode_eq]
  exact Reads.blank (Unread.cons (unread_ofList (by decide))
    (hsignature.level hcall (unread_ofList (by decide))))

end Native

end Boundary
