import Boundary.Demo.Declarations
import Boundary.Proofs.Config
import Boundary.Proofs.EntryPoint
import Boundary.Proofs.Naming.SourceName
import Boundary.Proofs.Native.Steps
import Boundary.Proofs.Schema.Words

/-!
# Names of handle tables

A native file declares a handle table for each exported type, and its entry points use no others.
What a table is called is made from the name of its type. If the type begins with an underscore
before a digit, the underscore is lost, and the digit is what the table begins with.

* `Lift.tables`, `Lowering.tables`, `ErrorWrite.tables`, `Body.tables`: the types whose tables are
  used.
* `Spelling.AgreesOn`: spellings that call these tables the same.
* `Body.code_congr`: a body says no more about a spelling.
* `Accepted.mem_typeIds_of_mem_tables`: bodies use the tables of exported types.
* `isSourceName_tableName_iff`: which tables have names that native source can spell.
* `Schema.NamesTablesOf`, `isSourceName_table_iff`: the tables of a whole file;
  `not_isSourceName_table`: that not all are spelled well.
-/

namespace Boundary

open Naming Native Text

/-! ## Tables in bodies -/

namespace Native

/-- The types whose tables a lift uses. -/
def Lift.tables : Lift → List TypeId
  | .lend id | .copy id | .take id => [id]
  | .option inner => inner.tables
  | .same | .bool | .lentText | .ownText => []

/-- The types whose tables a lowering uses. -/
def Lowering.tables : Lowering → List TypeId
  | .insert id => [id]
  | .option inner => inner.tables
  | .same _ | .bool | .text => []

/-- The types whose tables the serialization of an error uses. -/
def ErrorWrite.tables : ErrorWrite → List TypeId
  | .insert id => [id]
  | .option inner => inner.tables
  | .nothing | .primitive _ | .text => []

/-- The types whose tables a step uses. -/
def Step.tables : Step → List TypeId
  | .receive _ id => [id]
  | .lift _ _ l => l.tables

/-- The types whose tables an answer uses. -/
def Answer.tables : Answer → List TypeId
  | .nothing => []
  | .value lowering => lowering.tables
  | .result ok err =>
    (ok.map Lowering.tables).getD [] ++ (err.map ErrorWrite.tables).getD []

/-- The types whose tables a body uses. -/
def Body.tables : Body → List TypeId
  | .freeBuffer => []
  | .release id | .tag id _ => [id]
  | .construct id steps _ => id :: steps.flatMap Step.tables
  | .field id _ _ _ lowering | .variantField id _ _ _ _ lowering => id :: lowering.tables
  | .call steps _ answer => steps.flatMap Step.tables ++ answer.tables

/-! ### What a body says about a spelling -/

/-- Two spellings `names` and `names'` that call everything the same, as far as the tables of `ids`
are concerned. -/
structure Spelling.AgreesOn (names names' : Spelling) (ids : List TypeId) : Prop where
  path : names.path = names'.path
  table : ∀ id ∈ ids, names.table id = names'.table id

variable {names names' : Spelling} {ids : List TypeId}

theorem Spelling.AgreesOn.mono (h : names.AgreesOn names' ids) {used : List TypeId}
    (hused : ∀ id ∈ used, id ∈ ids) : names.AgreesOn names' used :=
  ⟨h.path, fun id hid => h.table id (hused id hid)⟩

theorem Lift.expr_congr {l : Lift} (h : names.AgreesOn names' l.tables) (value : String)
    (depth : Nat) : l.expr names value depth = l.expr names' value depth := by
  induction l generalizing value depth with
  | same | bool | lentText | ownText => rfl
  | lend id | copy id | take id =>
    have htable := h.table id List.mem_cons_self
    simp only [Lift.expr, htable]
  | option inner ih => simp only [Lift.expr, ih h]

theorem Lowering.expr_congr {l : Lowering} (h : names.AgreesOn names' l.tables) (value : String)
    (depth : Nat) : l.expr names value depth = l.expr names' value depth := by
  induction l generalizing value depth with
  | same | bool | text => rfl
  | insert id =>
    exact congrArg (fun table => s!"{table}.insert({value})") (h.table id List.mem_cons_self)
  | option inner ih =>
    let around (lowered : String) : String :=
      s!"__rt::FfiOption::from_option({value}.map(|{boundName depth}| {lowered}))"
    exact congrArg around (ih h (boundName depth) (depth + 1))

theorem ErrorWrite.code_congr {w : ErrorWrite} (h : names.AgreesOn names' w.tables) (value : String)
    (depth : Nat) : w.code names value depth = w.code names' value depth := by
  induction w generalizing value depth with
  | nothing | primitive | text => rfl
  | insert id =>
    have htable := h.table id List.mem_cons_self
    simp only [ErrorWrite.code, htable]
  | option inner ih => simp only [ErrorWrite.code, ih h]

theorem lowered_congr {l : Lowering} (h : names.AgreesOn names' l.tables) (value : String) :
    lowered names value l = lowered names' value l := by
  simp only [lowered, Lowering.expr_congr h]

theorem Step.line_congr {step : Step} (h : names.AgreesOn names' step.tables) :
    step.line names = step.line names' := by
  cases step with
  | receive access id => cases access <;> simp only [Step.line, h.table id List.mem_cons_self]
  | lift place name l => simp only [Step.line, Lift.expr_congr h]

private theorem map_line_congr {steps : List Step}
    (h : names.AgreesOn names' (steps.flatMap Step.tables)) :
    steps.map (·.line names) = steps.map (·.line names') :=
  List.map_congr_left fun step hstep =>
    Step.line_congr (h.mono fun _ hid => List.mem_flatMap.mpr ⟨step, hstep, hid⟩)

theorem Answer.code_congr {a : Answer} (h : names.AgreesOn names' a.tables) (call : String) :
    a.code names call = a.code names' call := by
  cases a with
  | nothing => rfl
  | value lowering => simp only [Answer.code, lowered_congr h]
  | result ok err =>
    have hok : ∀ lowering ∈ ok, lowered names "__result" lowering =
        lowered names' "__result" lowering := by
      rintro lowering rfl
      exact lowered_congr (h.mono fun _ => List.mem_append_left _) _
    have herr : ∀ write ∈ err, write.code names "__error" 0 = write.code names' "__error" 0 := by
      rintro write rfl
      exact ErrorWrite.code_congr (h.mono fun _ => List.mem_append_right _) _ _
    cases ok <;> cases err <;> simp_all [Answer.code]

/-- **The body `b` says nothing about other tables** than `b.tables`. -/
theorem Body.code_congr {b : Body} (h : names.AgreesOn names' b.tables) :
    b.code names = b.code names' := by
  have hpath (v : VariantRef) : v.path names = v.path names' := by
    simp only [VariantRef.path, h.path]
  have hpattern (v : VariantRef) : v.pattern names = v.pattern names' := by
    simp only [VariantRef.pattern, hpath]
  have hbinding (v : VariantRef) (field : FieldName) :
      v.binding names field = v.binding names' field := by
    simp only [VariantRef.binding, hpath, hpattern]
  cases b with
  | freeBuffer => rfl
  | release id => simp only [Body.code, h.table id List.mem_cons_self]
  | construct id steps value =>
    have hvalue : value.expr names = value.expr names' := by
      cases value <;> simp only [Construction.expr, h.path, hpath]
    have hsteps := h.mono fun _ => List.mem_cons_of_mem id
    simp only [Body.code, hvalue, map_line_congr hsteps, h.table id List.mem_cons_self]
  | field id place name isNumber lowering =>
    have hlowering := h.mono fun _ => List.mem_cons_of_mem id
    simp only [Body.code, Step.line, h.table id List.mem_cons_self, lowered_congr hlowering]
  | tag id arms => simp only [Body.code, Step.line, h.table id List.mem_cons_self, hpattern]
  | variantField id v place name isNumber lowering =>
    have hlowering := h.mono fun _ => List.mem_cons_of_mem id
    simp only [Body.code, Step.line, h.table id List.mem_cons_self, lowered_congr hlowering,
      hbinding]
  | call steps c answer =>
    have hcall : c.expr names = c.expr names' := by simp only [Call.expr, h.path]
    have hsteps := h.mono fun _ => List.mem_append_left _
    have hanswer := h.mono fun _ => List.mem_append_right _
    simp only [Body.code, hcall, map_line_congr hsteps, Answer.code_congr hanswer]

/-! ### Tables of types -/

theorem Lift.tables_of (mode : ParamMode) (t : TypeRef) : (Lift.of mode t).tables ⊆ t.handles := by
  induction t generalizing mode with
  | primitive p => cases p <;> cases mode <;> simp [Lift.of, Lift.tables]
  | option inner ih =>
    have hinner := ih .owned
    cases mode <;> simpa [Lift.of, Lift.tables, TypeRef.handles] using hinner
  | _ => cases mode <;> simp [Lift.of, Lift.tables, TypeRef.handles]

theorem Lowering.tables_of (t : TypeRef) : (Lowering.of t).tables ⊆ t.handles := by
  induction t with
  | primitive p => cases p <;> simp [Lowering.of, Lowering.tables]
  | option inner ih => exact ih
  | result ok err ih => exact fun _ hid => List.mem_append_left _ (ih hid)
  | _ => simp [Lowering.of, Lowering.tables, TypeRef.handles]

theorem ErrorWrite.tables_of (t : TypeRef) : (ErrorWrite.of t).tables ⊆ t.handles := by
  induction t with
  | option inner ih => exact ih
  | _ => simp [ErrorWrite.of, ErrorWrite.tables, TypeRef.handles]

theorem Answer.tables_of (t : TypeRef) : (Answer.of t).tables ⊆ t.handles := by
  cases t with
  | unit => simp [Answer.of, Answer.tables]
  | result ok err =>
    have hok : ((if ok = .unit then none else some (Lowering.of ok)).map Lowering.tables).getD [] ⊆
        ok.handles := by
      split
      · simp
      · exact Lowering.tables_of ok
    have herr : ((if err = .unit then none else some (ErrorWrite.of err)).map
        ErrorWrite.tables).getD [] ⊆ err.handles := by
      split
      · simp
      · exact ErrorWrite.tables_of err
    exact List.append_subset.mpr ⟨fun _ hid => List.mem_append_left _ (hok hid),
      fun _ hid => List.mem_append_right _ (herr hid)⟩
  | primitive p => exact Lowering.tables_of (.primitive p)
  | str => exact Lowering.tables_of .str
  | handle id => exact Lowering.tables_of (.handle id)
  | option inner => exact Lowering.tables_of (.option inner)
  | unsupported reason => exact Lowering.tables_of (.unsupported reason)

private theorem exists_field_of_mem_tables {fields : List (String × TypeRef)} {id : TypeId}
    (hid : id ∈ (ownedSteps fields).flatMap Step.tables) : ∃ f ∈ fields, id ∈ f.2.handles := by
  obtain ⟨step, hstep, hid⟩ := List.mem_flatMap.mp hid
  obtain ⟨⟨⟨name, t⟩, i⟩, hf, hstep⟩ := List.mem_filterMap.mp hstep
  replace hstep : (if needsLift t then some (.lift i name (Lift.of .owned t)) else none) =
      some step := hstep
  split at hstep
  · cases hstep
    exact ⟨_, List.fst_mem_of_mem_zipIdx hf, Lift.tables_of .owned t hid⟩
  · cases hstep

/-- A call uses the table of its receiver and the tables of its parameters. -/
theorem cases_of_mem_tables_callSteps {f : ExportedFunction} {id : TypeId}
    (hid : id ∈ (callSteps f).flatMap Step.tables) :
    f.receiver.typeId? = some id ∨ ∃ p ∈ f.params, id ∈ p.type.handles := by
  have hreceiver {access : Access} {step : Step} (hstep : step ∈ receiverSteps access f.receiver)
      (hid : id ∈ step.tables) : f.receiver.typeId? = some id := by
    obtain ⟨owner, howner, rfl⟩ := mem_receiverSteps_iff.mp hstep
    obtain rfl := List.mem_singleton.mp hid
    cases hcase : f.receiver <;> simp_all [receiverAccess?, Receiver.typeId?]
  obtain ⟨step, hstep, hid⟩ := List.mem_flatMap.mp hid
  simp only [callSteps, List.mem_append] at hstep
  obtain ((hstep | hstep) | hstep) | hstep := hstep
  · exact .inl (hreceiver hstep hid)
  · obtain ⟨p, i, hp, -, -, rfl⟩ := mem_gentleSteps_iff.mp hstep
    exact .inr ⟨p, List.mem_of_getElem? hp, Lift.tables_of _ _ hid⟩
  · obtain ⟨p, i, hp, -, rfl⟩ := mem_consumingSteps_iff.mp hstep
    exact .inr ⟨p, List.mem_of_getElem? hp, Lift.tables_of _ _ hid⟩
  · exact .inl (hreceiver hstep hid)

end Native

/-! ## Tables of entry points -/

namespace Accepted

variable {facade start : String} {ds : List Declaration} {s : Schema}

-- The types of fields, parameters and results are types of the schema, and all handles of these are
-- handles of exported types.

private theorem mem_typeIds_of_field (h : Accepted facade ds s) {x : ExportedStruct}
    (hx : x ∈ s.structs) {f : Field} (hf : f ∈ x.fields) :
    ∀ id ∈ f.type.handles, id ∈ s.typeIds := by
  have htype : f.type ∈ s.types :=
    List.mem_append_left _ (List.mem_append_left _
      (List.mem_flatMap.mpr ⟨x, hx, List.mem_map_of_mem hf⟩))
  exact fun id => h.mem_typeIds_of_mem_handles htype

private theorem mem_typeIds_of_payloadField (h : Accepted facade ds s) {x : ExportedEnum}
    (hx : x ∈ s.enums) {v : Variant} (hv : v ∈ x.variants) {f : PayloadField}
    (hf : f ∈ v.payload.fields) : ∀ id ∈ f.type.handles, id ∈ s.typeIds := by
  have htype : f.type ∈ s.types :=
    List.mem_append_left _ (List.mem_append_right _ (List.mem_flatMap.mpr
      ⟨x, hx, List.mem_flatMap.mpr ⟨v, hv, List.mem_map_of_mem hf⟩⟩))
  exact fun id => h.mem_typeIds_of_mem_handles htype

private theorem mem_typeIds_of_callFunction (h : Accepted facade ds s) {f : ExportedFunction}
    (hf : f ∈ s.functions) (owner : Option String) :
    ∀ id ∈ (callFunction owner f).tables, id ∈ s.typeIds := by
  have htype {t : TypeRef} (ht : t ∈ f.params.map (·.type) ++ [f.returns]) :
      ∀ id ∈ t.handles, id ∈ s.typeIds := fun id => h.mem_typeIds_of_mem_handles
    (List.mem_append_right _ (List.mem_flatMap.mpr ⟨f, hf, ht⟩))
  intro id hid
  obtain hid | hid := List.mem_append.mp hid
  · obtain hreceiver | ⟨p, hp, hid⟩ := cases_of_mem_tables_callSteps hid
    · exact h.mem_typeIds_of_receiver hf hreceiver
    · exact htype (List.mem_append_left _ (List.mem_map_of_mem hp)) id hid
  · exact htype (List.mem_append_right _ (List.mem_singleton_self _)) id (Answer.tables_of _ hid)

/-- **An entry point uses the tables of exported types.** -/
theorem mem_typeIds_of_mem_tables (h : Accepted facade ds s) {e : EntryPoint}
    (he : e ∈ s.entryPoints start) {b : Body} (hb : s.body? e.purpose = some b) :
    ∀ id ∈ b.tables, id ∈ s.typeIds := by
  obtain ⟨kind, entry, hentry, rfl⟩ := Schema.exists_entry_of_mem he
  cases hentry with
  | bufferFree =>
    cases hb
    simp [Body.tables]
  | ctor hx =>
    obtain rfl := Option.some.inj ((h.body?_ctor hx start).symm.trans hb)
    refine List.forall_mem_cons.mpr ⟨mem_typeIds_struct hx, fun id hid => ?_⟩
    obtain ⟨_, hmem, hid⟩ := exists_field_of_mem_tables hid
    obtain ⟨f, hf, rfl⟩ := List.mem_map.mp hmem
    exact h.mem_typeIds_of_field hx hf id hid
  | getter hx hf =>
    obtain rfl := Option.some.inj ((h.body?_getter hx hf start).symm.trans hb)
    have htype := h.mem_typeIds_of_field hx (List.mem_of_getElem? hf)
    exact List.forall_mem_cons.mpr
      ⟨mem_typeIds_struct hx, fun id hid => htype id (Lowering.tables_of _ hid)⟩
  | variantCtor hx hv =>
    obtain rfl := Option.some.inj ((h.body?_variantCtor hx hv start).symm.trans hb)
    refine List.forall_mem_cons.mpr ⟨mem_typeIds_enum hx, fun id hid => ?_⟩
    obtain ⟨_, hmem, hid⟩ := exists_field_of_mem_tables hid
    obtain ⟨f, hf, rfl⟩ := List.mem_map.mp hmem
    exact h.mem_typeIds_of_payloadField hx (List.mem_of_getElem? hv) hf id hid
  | tag hx =>
    obtain rfl := Option.some.inj ((h.body?_tag hx start).symm.trans hb)
    exact List.forall_mem_singleton.mpr (mem_typeIds_enum hx)
  | variantGetter hx hv hf =>
    obtain rfl := Option.some.inj ((h.body?_variantGetter hx hv hf start).symm.trans hb)
    have htype := h.mem_typeIds_of_payloadField hx (List.mem_of_getElem? hv)
      (List.mem_of_getElem? hf)
    exact List.forall_mem_cons.mpr
      ⟨mem_typeIds_enum hx, fun id hid => htype id (Lowering.tables_of _ hid)⟩
  | free hname =>
    cases hb
    exact List.forall_mem_singleton.mpr (h.typeName_of_mem hname).1
  | function hf | method hf =>
    obtain rfl := Option.some.inj ((h.body?_function hf start).symm.trans hb)
    exact h.mem_typeIds_of_callFunction hf _

end Accepted

/-! ## What tables are called -/

/-- Whether a digit follows the underscore that `name` begins with. -/
def Naming.leadsWithDigit (name : String) : Bool :=
  match bareChars name.toList with
  | '_' :: d :: _ => d.isDigit
  | _ => false

/-- A table begins with a digit exactly if a digit follows the underscore that its type begins
with. -/
theorem isDigit_head?_tableName {name : String} (h : isUsableName name = true) :
    (tableName name).toList.head?.any Char.isDigit = leadsWithDigit name := by
  have hidentifier := isIdentifier_of_isUsableName h
  have hcased : ∀ c : Char, c.isAlphanum = true →
      toUpper c.toLower = [c.toLower.toUpper] ∧ c.toLower.toUpper.isDigit = c.isDigit := by
    intro c hc
    have hascii := isAscii_of_isAlphanum hc
    exact forall_of_isAscii (p := fun c => toUpper c.toLower = [c.toLower.toUpper] ∧
      c.toLower.toUpper.isDigit = c.isDigit) (by decide +kernel) hascii
  -- The first character of the form in symbols is the first letter or digit of the name.
  have hhead {c : Char} (hc : c.isAlphanum = true)
      (hfirst : ((bareChars name.toList).filter (· ≠ '_')).head? = some c) :
      (tableName name).toList.head?.any Char.isDigit = c.isDigit := by
    have hsnake := head?_snakeChars hidentifier
    rw [hfirst, Option.map_some] at hsnake
    obtain ⟨rest, hrest⟩ := List.head?_eq_some_iff.mp hsnake
    rw [toList_tableName, hrest, List.flatMap_cons, (hcased c hc).1]
    exact (hcased c hc).2
  obtain ⟨c, rest, hbare, hc⟩ | ⟨d, rest, hbare, hd⟩ | rfl := bareChars_cases h
  · have hunderscore : c ≠ '_' := by
      rintro rfl
      cases hc
    have halphanum : c.isAlphanum = true := by simp [Char.isAlphanum, hc]
    have hdigit : c.isAlpha = true → c.isDigit = false :=
      forall_of_isAscii (p := fun c => c.isAlpha = true → c.isDigit = false) (by decide)
        (isAscii_of_isAlphanum halphanum)
    rw [hhead halphanum (by simp [hbare, hunderscore]), hdigit hc]
    simp [leadsWithDigit, hbare, hunderscore]
  · have hunderscore : d ≠ '_' := by
      rintro rfl
      cases hd
    rw [hhead hd (by simp [hbare, hunderscore])]
    simp [leadsWithDigit, hbare]
  · decide

/-- A table has a name that native source can spell exactly if its type does not begin with an
underscore before a digit. -/
theorem isSourceName_tableName_iff {name : String} (h : isUsableName name = true) :
    IsSourceName (tableName name) ↔ leadsWithDigit name = false := by
  constructor
  · intro hname
    rw [← isDigit_head?_tableName h]
    exact hname.not_isDigit_head
  · intro hdigit
    refine ⟨?_, fun c => isIdentPart_of_mem_tableName (isIdentifier_of_isUsableName h), ?_⟩
    · intro hempty
      have hend := toList_tableName name
      rw [hempty, String.toList_empty, eq_comm, List.append_eq_nil_iff] at hend
      exact absurd hend.2 (by decide)
    · rw [isDigit_head?_tableName h, hdigit]

/-! ## The tables of a file -/

/-- The tables that a native file declares, and those that its entry points use, are the tables of
these types: about no others it matters what a spelling calls them. -/
def Schema.NamesTablesOf (s : Schema) (c : Config) (ids : List TypeId) : Prop :=
  ∀ names : Spelling, (s.spelling c).AgreesOn names ids →
    (∀ t ∈ s.typeNames, tableCode (s.spelling c) t.1 t.2 = tableCode names t.1 t.2) ∧
      ∀ e ∈ s.entryPoints c.symbols, entryCode (s.spelling c) e (s.body? e.purpose) =
        entryCode names e (s.body? e.purpose)

section Files

variable {c : Config} {ds : List Declaration} {s : Schema}

theorem Accepted.namesTablesOf {facade : String} (h : Accepted facade ds s) :
    s.NamesTablesOf c s.typeIds := by
  intro names hnames
  constructor
  · rintro ⟨id, name⟩ hname
    simp only [tableCode, hnames.table id (h.typeName_of_mem hname).1, hnames.path]
  · intro e he
    cases hb : s.body? e.purpose with
    | none => simp only [entryCode, Option.map_none]
    | some b =>
      have hbody := Body.code_congr (hnames.mono (h.mem_typeIds_of_mem_tables he hb))
      simp only [entryCode, Option.map_some, hbody]

/-- **The handle tables of a native file are those of its exported types**, and each has a name that
native source can spell exactly if its type does not begin with an underscore before a digit. -/
theorem isSourceName_table_iff (h : c.schema ds = .ok s) :
    s.NamesTablesOf c s.typeIds ∧ ∀ id ∈ s.typeIds,
      (IsSourceName ((s.spelling c).table id) ↔ leadsWithDigit (s.typeName id) = false) := by
  have haccepted := Config.accepted h
  refine ⟨haccepted.namesTablesOf, fun id hid => ?_⟩
  obtain ⟨t, ht⟩ := haccepted.exists_type_of_mem_typeIds hid
  refine isSourceName_tableName_iff ?_
  rw [haccepted.typeName_eq ht]
  exact haccepted.isUsableName_type (List.mem_of_getElem? ht)

/-- The tables of the small library. -/
theorem isSourceName_table_demo :
    ({ libraryName := "demo" } : Config).schema Demo.declarations = .ok Demo.schema ∧
      ∀ id ∈ Demo.schema.typeIds,
        IsSourceName ((Demo.schema.spelling { libraryName := "demo" }).table id) := by
  have hnames : ∀ id ∈ Demo.schema.typeIds,
      leadsWithDigit (Demo.schema.typeName id) = false := by decide +kernel
  exact ⟨Demo.schema_eq_ok,
    fun id hid => ((isSourceName_table_iff Demo.schema_eq_ok).2 id hid).mpr (hnames id hid)⟩

/-- A struct whose name begins with an underscore before a digit. -/
def digitDeclarations : List Declaration := [.struct ⟨"_3d", [], Demo.at_ 1⟩]

/-- It is accepted, and its table begins with the digit. -/
theorem not_isSourceName_table : ∃ s, ({} : Config).schema digitDeclarations = .ok s ∧
    ∃ id ∈ s.typeIds, (s.spelling {}).table id = "3D_HANDLES" ∧
      ¬ IsSourceName ((s.spelling {}).table id) := by
  have hschema : ({} : Config).schema digitDeclarations =
      .ok (Surroundings.ofDeclarations defaultFacade digitDeclarations).schema :=
    Config.schema_eq_ok_iff.mpr
      ⟨by decide +kernel, Schema.build_eq_ok_iff.mpr ⟨by decide +kernel, rfl⟩⟩
  exact ⟨_, hschema, by decide +kernel⟩

end Files

end Boundary
