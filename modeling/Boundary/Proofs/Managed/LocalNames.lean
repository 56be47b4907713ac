import Mathlib.Data.List.Perm.Subperm
import Boundary.Proofs.Managed.Listing
import Boundary.Proofs.Managed.Variables
import Boundary.Proofs.Native.ParameterNames

/-!
# Names inside of managed bodies

A body in a managed file has parameters, temporaries for its arguments, and variables of fixed
names. Parameters are named in camel case, in Pascal case or as declared, and none of them starts
like a made up name; temporaries are named in Pascal case behind a start that no fixed name has.

* `LocalNames`: the names that a body declares, with its statements.
* `File.locals`: the bodies of a managed file that declared names stand in.
* `LocalNames.Distinct`: all names of a body are different, and its statements declare no others.
* `nodup_localNames`: why they are different.
* `locals_distinct`: this holds of all these bodies.
-/

namespace Boundary

open Managed Naming Source

/-! ## Bodies -/

namespace Managed

/-- The names that a body declares. -/
structure LocalNames where
  params : List String
  /-- The temporaries for the arguments of a call. -/
  temporaries : List String
  /-- The variables that bodies of this kind have anyway. -/
  fixed : List String
  /-- The statements. -/
  code : List Code

/-- The variables around a call: the status, the result, and the reader of an error. -/
def callNames : List String := ["__status", "__ret", "__reader"]

/-- The function that is imported for an entry point. Its status stands behind the parameters. -/
def importLocals (e : EntryPoint) : LocalNames :=
  ⟨e.params.map fun p => importName p.name, [], ["__status"], []⟩

/-- The constructor of the class of a struct. -/
def Wrapper.constructorLocals (s : Surface) (w : Wrapper) : LocalNames :=
  ⟨w.params.map (·.name), temporariesOf w.make.args, callNames, w.make.code s⟩

/-- A method. -/
def Method.locals (s : Surface) (m : Method) : LocalNames :=
  ⟨m.params.map (·.name), temporariesOf m.call.args, callNames, m.call.returning s⟩

/-- The constructor of the record of a variant. -/
def VariantRecord.constructorLocals (r : VariantRecord) : LocalNames :=
  ⟨r.fields.map (·.name), [], [], []⟩

/-- The method that makes records from handles, as far as one variant is concerned: the cases are
blocks of their own. -/
def VariantRecord.decodeLocals (s : Surface) (tagSymbol : String) (r : VariantRecord) :
    LocalNames :=
  ⟨["handle"], [], ["__status", "__tag"] ++ (List.range r.fields.length).flatMap fieldVariables,
    [newStatus, .line ("var __tag = " ++ callImported tagSymbol ["handle"] ++ ";"), checkStatus]
      ++ r.decode s⟩

/-- The method that makes handles from records, as far as one variant is concerned. -/
def VariantRecord.lowerLocals (s : Surface) (r : VariantRecord) : LocalNames :=
  ⟨["value"], temporariesOf (r.fields.map (·.argument)), ["__status", "__ret", "__v"],
    newStatus :: lines ["ulong __ret;"] ++ r.lower s⟩

/-- The bodies of the class of an enum and of its records. -/
def EnumClass.locals (s : Surface) (e : EnumClass) : List LocalNames :=
  (e.records.flatMap fun r =>
    [r.constructorLocals, r.decodeLocals s e.tagSymbol, r.lowerLocals s]) ++
    e.methods.map (·.locals s)

/-- The bodies of a managed file that declared names stand in. -/
def File.locals (s : Surface) (f : File) : List LocalNames :=
  f.entryPoints.map importLocals ++
    f.wrappers.flatMap (fun w => w.constructorLocals s :: w.methods.map (·.locals s)) ++
    f.enums.flatMap (·.locals s) ++ f.facade.methods.map (·.locals s)

/-- The names of a body are different, not counting the mark of a keyword, and its statements
declare none but these, each of them once. -/
structure LocalNames.Distinct (l : LocalNames) : Prop where
  nodup : ((l.params ++ l.temporaries ++ l.fixed).map unmarked).Nodup
  declares : List.Subperm (varsOf l.code) (l.temporaries ++ l.fixed)

/-! ## Kinds of names -/

/-- The name starts like a temporary. -/
def IsTemporary (name : String) : Prop := ['_', '_', 'a', 'r', 'g'] <+: name.toList

instance (name : String) : Decidable (IsTemporary name) := by unfold IsTemporary; infer_instance

theorem isTemporary_localName (name : String) : IsTemporary (localName name) := by
  rw [IsTemporary, localName, String.toList_append]
  exact List.prefix_append _ _

theorem IsTemporary.isMade {name : String} (h : IsTemporary name) : IsMade name :=
  List.IsPrefix.trans ⟨['a', 'r', 'g'], rfl⟩ h

theorem unmarked_of_head? {name : String} (h : ∀ c ∈ name.toList.head?, c ≠ '@') :
    unmarked name = name := by
  rw [unmarked]
  cases hchars : name.toList with
  | nil => rw [List.dropWhile_nil, ← hchars, String.ofList_toList]
  | cons c rest =>
    rw [List.dropWhile_cons_of_neg (by simpa using h c (by rw [hchars]; rfl)), ← hchars,
      String.ofList_toList]

theorem map_unmarked {names : List String} {form form' : String → String}
    (h : ∀ name ∈ names, unmarked (form name) = form' name) :
    (names.map form).map unmarked = names.map form' := by
  rw [List.map_map]
  exact List.map_congr_left h

theorem unmarked_of_isMade {name : String} (h : IsMade name) : unmarked name = name := by
  obtain ⟨rest, hrest⟩ := h
  refine unmarked_of_head? fun c hc => ?_
  rw [← hrest] at hc
  obtain rfl : '_' = c := Option.some.inj hc
  decide

private theorem unmarked_pascal {name : String} (h : isIdentifier name = true) :
    unmarked (pascal name) = pascal name := by
  refine unmarked_of_head? ?_
  rintro c hc rfl
  rw [pascal, String.toList_ofList] at hc
  cases hchars : pascalChars name.toList with
  | nil =>
    rw [hchars] at hc
    cases hc
  | cons d rest =>
    rw [hchars] at hc
    obtain rfl : d = '@' := Option.some.inj hc
    obtain hupper | ⟨hunderscore, -⟩ := pascalChars_head_cases h hchars
    · exact absurd hupper (by decide)
    · exact absurd hunderscore (by decide)

/-- **Why the names of a body are different.** Its own names stand before its parameters and its
temporaries, and the others behind these. None of them starts like a temporary, and no parameter is
made up. -/
theorem nodup_localNames (own own' fixed : List String) {params temporaries : List String}
    (hfixed : (own ++ own' ++ fixed).Nodup)
    (hown : ∀ name ∈ own ++ own' ++ fixed, ¬ IsTemporary name ∧ unmarked name = name)
    (hparams : (params.map unmarked).Nodup)
    (hapart : ∀ p ∈ params, ¬ IsMade (unmarked p) ∧ ∀ name ∈ own ++ own' ++ fixed, IsMade name)
    (htemporaries : temporaries.Nodup) (htemporary : ∀ name ∈ temporaries, IsTemporary name) :
    ((own ++ params ++ (own' ++ temporaries) ++ fixed).map unmarked).Nodup := by
  -- Grouped by kind, so that each kind is compared with the others once.
  have hperm : (params ++ (temporaries ++ (own ++ own' ++ fixed))).Perm
      (own ++ params ++ (own' ++ temporaries) ++ fixed) := by
    rw [List.perm_iff_count]
    intro name
    simp only [List.count_append]
    omega
  have hsame {names : List String} (h : ∀ name ∈ names, unmarked name = name) :
      names.map unmarked = names := (List.map_congr_left h).trans names.map_id'
  refine (hperm.map unmarked).nodup_iff.mp ?_
  rw [List.map_append, List.map_append, hsame fun name hname => (hown name hname).2,
    hsame fun name hname => unmarked_of_isMade (htemporary name hname).isMade]
  refine hparams.append (htemporaries.append hfixed ?_) ?_
  · exact fun name htemp hmem => (hown name hmem).1 (htemporary name htemp)
  · intro name hname hmem
    obtain ⟨p, hp, rfl⟩ := List.mem_map.mp hname
    refine (hapart p hp).1 ?_
    obtain htemp | hmem := List.mem_append.mp hmem
    · exact (htemporary _ htemp).isMade
    · exact (hapart p hp).2 _ hmem

/-- A body that calls an entry point with the parameters of one list. -/
theorem distinctLocals_call (own own' : List String) {names : List String}
    (hnames : AreParams names)
    (hfixed : (own ++ own' ++ callNames).Nodup)
    (hown : ∀ name ∈ own ++ own' ++ callNames,
      IsMade name ∧ ¬ IsTemporary name ∧ unmarked name = name)
    {temporaries : List String} (htemporaries : temporaries.Sublist (names.map localName))
    {code : List Code}
    (hcode : (varsOf code).Sublist (own' ++ temporaries ++ ["__status", "__ret"])) :
    LocalNames.Distinct ⟨own ++ names.map paramName, own' ++ temporaries, callNames, code⟩ := by
  have hunmarked : ∀ name ∈ names, unmarked (paramName name) = camel name :=
    fun name hname => unmarked_paramName (hnames.isIdentifier name hname)
  have hparams : ((names.map paramName).map unmarked).Nodup := by
    rw [map_unmarked hunmarked]
    exact hnames.nodup_camel
  refine ⟨nodup_localNames own own' callNames hfixed (fun name hname => (hown name hname).2)
    hparams ?_ (hnames.nodup_localName.sublist htemporaries) ?_, ?_⟩
  · intro p hp
    obtain ⟨name, hname, rfl⟩ := List.mem_map.mp hp
    rw [hunmarked name hname]
    exact ⟨not_isMade_camel (hnames.isIdentifier name hname), fun n hn => (hown n hn).1⟩
  · intro t ht
    obtain ⟨name, -, rfl⟩ := List.mem_map.mp (htemporaries.subset ht)
    exact isTemporary_localName name
  · have hfirst : List.Sublist ["__status", "__ret"] callNames := by decide
    exact (hcode.trans ((List.Sublist.refl _).append hfirst)).subperm

/-- The temporaries of arguments that are named after parameters of one list. -/
theorem temporaries_sublist {names : List String} {args : List Argument}
    (h : args.map (·.temporary) = names.map localName) :
    (temporariesOf args).Sublist (names.map localName) :=
  h ▸ (List.filter_sublist (l := args)).map _

theorem isWord_temporary {names : List String} (hnames : AreParams names) {args : List Argument}
    (h : args.map (·.temporary) = names.map localName) :
    ∀ a ∈ args, IsWord a.temporary := by
  intro a ha
  have hmem : a.temporary ∈ names.map localName := h ▸ List.mem_map_of_mem ha
  obtain ⟨name, hname, heq⟩ := List.mem_map.mp hmem
  exact heq ▸ isWord_localName (isWord_of_isIdentifier (hnames.isIdentifier name hname))

theorem ArgumentForm.of_ne_receiver (isEnum : TypeId → Bool) (t : TypeRef) :
    ArgumentForm.of isEnum t ≠ .receiver := by
  unfold ArgumentForm.of
  grind

/-! ### Variants -/

theorem toList_of_mem_fieldVariables {i : Nat} {v : String} (h : v ∈ fieldVariables i) :
    ∃ c ∈ ['r', 'f'], v.toList = ['_', '_', c] ++ (toString i).toList := by
  obtain rfl | h := List.mem_cons.mp h
  · exact ⟨'r', by simp, String.toList_append⟩
  · obtain rfl := List.mem_singleton.mp h
    exact ⟨'f', by simp, String.toList_append⟩

/-- The names in the method that makes records from handles are different. -/
theorem nodup_decodeLocals (n : Nat) :
    (["handle", "__status", "__tag"] ++ (List.range n).flatMap fieldVariables).Nodup := by
  refine List.Nodup.append (by decide) ?_ ?_
  · rw [List.nodup_flatMap]
    refine ⟨?_, List.nodup_range.imp ?_⟩
    · intro i _
      have hne : "__r" ++ toString i ≠ "__f" ++ toString i := by
        intro heq
        have hchars := congrArg String.toList heq
        simp at hchars
      exact List.nodup_cons.mpr ⟨fun hmem => hne (List.mem_singleton.mp hmem),
        List.nodup_singleton _⟩
    · intro i j hij v hi hj
      obtain ⟨c, -, hc⟩ := toList_of_mem_fieldVariables hi
      obtain ⟨d, -, hd⟩ := toList_of_mem_fieldVariables hj
      rw [hc] at hd
      exact hij (toString_nat_injective (String.toList_injective (List.append_inj hd rfl).2))
  · intro v hv hfield
    obtain ⟨i, -, hi⟩ := List.mem_flatMap.mp hfield
    obtain ⟨c, hc, hchars⟩ := toList_of_mem_fieldVariables hi
    have hthird : ∀ name ∈ ["handle", "__status", "__tag"],
        name.toList[2]? ∉ [some 'r', some 'f'] := by
      decide
    refine hthird v hv ?_
    rw [hchars]
    simpa using hc

private theorem distinctLocals_decode (s : Surface) (tagSymbol : String) (r : VariantRecord) :
    (r.decodeLocals s tagSymbol).Distinct := by
  have hnodup := nodup_decodeLocals r.fields.length
  have hsame : ∀ name ∈ ["handle", "__status", "__tag"] ++
      (List.range r.fields.length).flatMap fieldVariables, unmarked name = name := by
    intro name hname
    obtain hname | hname := List.mem_append.mp hname
    · have hall : ∀ name ∈ ["handle", "__status", "__tag"], unmarked name = name := by decide
      exact hall name hname
    · obtain ⟨i, -, hi⟩ := List.mem_flatMap.mp hname
      obtain ⟨d, -, hchars⟩ := toList_of_mem_fieldVariables hi
      exact unmarked_of_isMade ⟨_, hchars.symm⟩
  have htag : varsOf [.line ("var __tag = " ++ callImported tagSymbol ["handle"] ++ ";")] =
      ["__tag"] := by
    have htext : "var __tag = " ++ callImported tagSymbol ["handle"] ++ ";" =
        "var " ++ ("__tag" ++ (" = " ++ (callImported tagSymbol ["handle"] ++ ";"))) := by
      show "var " ++ "__tag" ++ " = " ++ _ ++ ";" = _
      simp only [String.append_assoc]
    rw [htext]
    exact varsOf_binding (by decide) _
  have hvars : varsOf (r.decodeLocals s tagSymbol).code =
      (r.decodeLocals s tagSymbol).temporaries ++ (r.decodeLocals s tagSymbol).fixed := by
    have hparts : (r.decodeLocals s tagSymbol).code = [newStatus] ++
        [.line ("var __tag = " ++ callImported tagSymbol ["handle"] ++ ";")] ++ [checkStatus] ++
          r.decode s := rfl
    rw [hparts, varsOf_append, varsOf_append, varsOf_append, varsOf_newStatus, htag,
      varsOf_checkStatus, varsOf_recordDecode]
    rfl
  refine ⟨?_, hvars ▸ List.Subperm.refl _⟩
  have hlist : (r.decodeLocals s tagSymbol).params ++ (r.decodeLocals s tagSymbol).temporaries ++
      (r.decodeLocals s tagSymbol).fixed = ["handle", "__status", "__tag"] ++
        (List.range r.fields.length).flatMap fieldVariables := rfl
  rw [hlist, (List.map_congr_left hsame).trans (List.map_id' _)]
  exact hnodup

private theorem distinctLocals_lower (s : Surface) {names : List String} (hnames : AreParams names)
    {r : VariantRecord}
    (hargs : (r.fields.map (·.argument)).map (·.temporary) = names.map localName) :
    (r.lowerLocals s).Distinct := by
  have hsublist := temporaries_sublist hargs
  refine ⟨?_, ?_⟩
  · have hnothing : (([] : List String).map unmarked).Nodup := List.nodup_nil
    refine nodup_localNames ["value"] [] ["__status", "__ret", "__v"] (by decide) (by decide)
      hnothing (by simp) (hnames.nodup_localName.sublist hsublist) ?_
    intro t ht
    obtain ⟨name, -, rfl⟩ := List.mem_map.mp (hsublist.subset ht)
    exact isTemporary_localName name
  · have hresult : varsOf (lines ["ulong __ret;"]) = ["__ret"] :=
      varsOf_line (varOfLine?_of_mark (by decide : ulongMark ∈ declaringMarks)
        (by decide : IsWord "__ret") (by decide : ∀ c ∈ ";".toList.head?, isWordChar c = false))
    have hparts : (r.lowerLocals s).code = [newStatus] ++ lines ["ulong __ret;"] ++ r.lower s := rfl
    rw [hparts, varsOf_append, varsOf_append, varsOf_newStatus, hresult]
    have hfirst : List.Sublist ["__status", "__ret"] ["__status", "__ret", "__v"] := by decide
    have hsub := hfirst.append (varsOf_recordLower s (isWord_temporary hnames hargs))
    exact hsub.subperm.trans List.perm_append_comm.subperm

end Managed

/-! ## Imported functions -/

section Imports

variable {s : Schema}

/-- The parameters of an entry point that are not named after anything. -/
theorem Schema.ownParams_cases (s : Schema) (p : EntryPurpose) :
    s.ownParams p = [] ∨ s.ownParams p = [handleName] ∨
      s.ownParams p = ["buf"] ∧ s.paramNames p = [] := by
  cases p with
  | bufferFree => exact .inr (.inr ⟨rfl, rfl⟩)
  | ctor | variantCtor => exact .inl rfl
  | free | tag | getter | variantGetter => exact .inr (.inl rfl)
  | function id =>
    rw [Schema.ownParams]
    split
    · exact .inr (.inl rfl)
    · exact .inl rfl

theorem Accepted.distinctLocals_import {facade start : String} {ds : List Declaration}
    (h : Accepted facade ds s) {e : EntryPoint} (he : e ∈ s.entryPoints start) :
    (importLocals e).Distinct := by
  have hnames := h.areParams_paramNames he
  have hunmarked : ∀ name ∈ s.paramNames e.purpose, unmarked (importName name) = bare name :=
    fun name hname => unmarked_importName (hnames.isIdentifier name hname)
  have hparams : (((s.paramNames e.purpose).map importName).map unmarked).Nodup := by
    rw [map_unmarked hunmarked]
    exact hnames.nodup_bare
  have hnotMade : ∀ p ∈ (s.paramNames e.purpose).map importName, ¬ IsMade (unmarked p) := by
    intro p hp
    obtain ⟨name, hname, rfl⟩ := List.mem_map.mp hp
    rw [hunmarked name hname]
    exact not_isMade_bare (hnames.usable name hname)
  have hlocals : (importLocals e).params =
      (s.ownParams e.purpose).map importName ++ (s.paramNames e.purpose).map importName := by
    rw [← List.map_append, ← h.params_eq he, List.map_map]
    rfl
  refine ⟨?_, List.nil_subperm⟩
  rw [hlocals]
  obtain hown | hown | ⟨hown, hnone⟩ := s.ownParams_cases e.purpose
  · rw [hown]
    exact nodup_localNames [] [] ["__status"] (by decide) (by decide) hparams
      (fun p hp => ⟨hnotMade p hp, by decide⟩) List.nodup_nil (by simp)
  · rw [hown]
    exact nodup_localNames [handleName] [] ["__status"] (by decide) (by decide) hparams
      (fun p hp => ⟨hnotMade p hp, by decide⟩) List.nodup_nil (by simp)
  · rw [hown, hnone]
    exact (by decide : ((["buf"].map importName ++ ["__status"]).map unmarked).Nodup)

end Imports

/-! ## Managed files -/

section Files

variable {facade : String} {ds : List Declaration} {s : Schema}

theorem Accepted.distinctLocals_wrapper (h : Accepted facade ds s) (c : Context)
    {x : ExportedStruct} (hx : x ∈ s.structs) :
    ((c.wrapper x).constructorLocals c.surface).Distinct := by
  have hnames := h.areParams_fields hx
  have hargs : (c.wrapper x).make.args.map (·.temporary) =
      (x.fields.map (·.name)).map localName := by
    simp [Context.wrapper, Surface.argument, Function.comp_def]
  have hparams : (c.wrapper x).params.map (·.name) =
      [] ++ (x.fields.map (·.name)).map paramName := by
    simp [Context.wrapper, Function.comp_def]
  rw [Wrapper.constructorLocals, hparams]
  exact distinctLocals_call [] [] hnames (by decide) (by decide) (temporaries_sublist hargs)
    (varsOf_invocation c.surface (isWord_temporary hnames hargs))

/-- A method with names of its own before its parameters and its arguments. -/
theorem Accepted.distinctLocals_method (h : Accepted facade ds s) (c : Context)
    {f : ExportedFunction} (hf : f ∈ s.functions) (isStatic : Bool) {extended : List Parameter}
    {receiver : List Argument} (owner : String)
    (hfixed : (extended.map (·.name) ++ temporariesOf receiver ++ callNames).Nodup)
    (hown : ∀ name ∈ extended.map (·.name) ++ temporariesOf receiver ++ callNames,
      IsMade name ∧ ¬ IsTemporary name ∧ unmarked name = name)
    (hreceiver : ∀ a ∈ receiver, IsWord a.temporary) :
    ((c.method f isStatic extended receiver owner).locals c.surface).Distinct := by
  have hnames := h.areParams_function hf
  have hargs : (c.arguments f).map (·.temporary) = (f.params.map (·.name)).map localName := by
    simp [Context.arguments, Surface.argument, Function.comp_def]
  have hparams : (c.method f isStatic extended receiver owner).params.map (·.name) =
      extended.map (·.name) ++ (f.params.map (·.name)).map paramName := by
    simp [Context.method, Context.params, Function.comp_def]
  have htemporaries : temporariesOf (receiver ++ c.arguments f) =
      temporariesOf receiver ++ temporariesOf (c.arguments f) := by
    rw [temporariesOf, List.filter_append, List.map_append]
    rfl
  have hwords : ∀ a ∈ receiver ++ c.arguments f, IsWord a.temporary := by
    intro a ha
    obtain ha | ha := List.mem_append.mp ha
    · exact hreceiver a ha
    · exact isWord_temporary hnames hargs a ha
  have hcode := varsOf_returning c.surface
    (i := (c.method f isStatic extended receiver owner).call) hwords
  have hcall : (c.method f isStatic extended receiver owner).call.args =
      receiver ++ c.arguments f := rfl
  rw [Method.locals, hparams, hcall, htemporaries]
  rw [hcall, htemporaries] at hcode
  exact distinctLocals_call _ _ hnames hfixed hown (temporaries_sublist hargs) hcode

/-- The bodies for a variant. -/
theorem Accepted.distinctLocals_record (h : Accepted facade ds s) (c : Context) {x : ExportedEnum}
    (hx : x ∈ s.enums) {v : Variant} (hv : v ∈ x.variants) :
    (c.record x v).constructorLocals.Distinct ∧
      (∀ tagSymbol, ((c.record x v).decodeLocals c.surface tagSymbol).Distinct) ∧
      ((c.record x v).lowerLocals c.surface).Distinct := by
  have hnames := h.areParams_variant hx hv
  have hargs : ((c.record x v).fields.map (·.argument)).map (·.temporary) =
      v.paramNames.map localName := by
    simp [Context.record, Context.recordField, Surface.argument, Variant.paramNames,
      Function.comp_def]
  refine ⟨?_, ?_, ?_⟩
  · have hparams : (c.record x v).fields.map (·.name) = v.paramNames.map pascal := by
      rw [Context.record, Variant.paramNames, List.map_map, List.map_map]
      refine List.map_congr_left fun f _ => ?_
      show recordField f.name = pascal f.name.paramName
      cases f.name with
      | index n => exact (pascal_itemName n).symm
      | named name => rfl
    refine ⟨?_, List.nil_subperm⟩
    rw [VariantRecord.constructorLocals, List.append_nil, List.append_nil, hparams,
      map_unmarked fun name hname => unmarked_pascal (hnames.isIdentifier name hname)]
    exact hnames.nodup_pascal
  · intro tagSymbol
    exact distinctLocals_decode c.surface tagSymbol _
  · exact distinctLocals_lower c.surface hnames hargs

/-- The bodies for an enum. -/
theorem Accepted.distinctLocals_enum (h : Accepted facade ds s) {c : Context} (hc : c.schema = s)
    {x : ExportedEnum} (hx : x ∈ s.enums) :
    ∀ l ∈ (c.enumClass x).locals c.surface, l.Distinct := by
  subst hc
  intro l hl
  obtain hl | hl := List.mem_append.mp hl
  · obtain ⟨r, hr, hl⟩ := List.mem_flatMap.mp hl
    obtain ⟨v, hv, rfl⟩ := List.mem_map.mp hr
    obtain ⟨hconstructor, hdecode, hlower⟩ := h.distinctLocals_record c hx hv
    simp only [List.mem_cons, List.not_mem_nil, or_false] at hl
    obtain rfl | rfl | rfl := hl
    · exact hconstructor
    · exact hdecode _
    · exact hlower
  · obtain ⟨m, hm, rfl⟩ := List.mem_map.mp hl
    obtain ⟨f, hf, rfl⟩ := List.mem_map.mp hm
    have hreceiver : temporariesOf [c.surface.argument "__self" "__selfHandle" (.handle x.id)] =
        ["__selfHandle"] := by
      simp [temporariesOf, Surface.argument, ArgumentForm.of_ne_receiver]
    refine h.distinctLocals_method c (List.mem_of_mem_filter hf) true "__selfHandle" ?_ ?_ ?_
    · rw [hreceiver]
      exact (by decide : (["__self"] ++ ["__selfHandle"] ++ callNames).Nodup)
    · rw [hreceiver]
      exact (by decide : ∀ name ∈ ["__self"] ++ ["__selfHandle"] ++ callNames,
        IsMade name ∧ ¬ IsTemporary name ∧ unmarked name = name)
    · intro a ha
      obtain rfl := List.mem_singleton.mp ha
      exact (by decide : IsWord "__selfHandle")

/-- **The names of every body of a managed file are different**: its parameters, its temporaries and
its variables of fixed names. -/
theorem locals_distinct {c : Config} (h : c.schema ds = .ok s) :
    ∀ l ∈ (s.managedFile c).locals (s.surface c), l.Distinct := by
  have haccepted := Schema.build_eq_ok_iff_accepted.mp (Config.schema_eq_ok_iff.mp h).2
  let context : Context := ⟨s, c.symbols, s.surface c⟩
  have hmethod {f : ExportedFunction} (hf : f ∈ s.functions) (isStatic : Bool) (owner : String) :
      ((context.method f isStatic [] [thisArgument] owner).locals (s.surface c)).Distinct ∧
        ((context.method f isStatic [] [] owner).locals (s.surface c)).Distinct :=
    ⟨haccepted.distinctLocals_method context hf isStatic owner (by decide) (by decide) (by decide),
      haccepted.distinctLocals_method context hf isStatic owner (by decide) (by decide) (by simp)⟩
  intro l hl
  simp only [File.locals, List.mem_append] at hl
  obtain ((hl | hl) | hl) | hl := hl
  · obtain ⟨e, he, rfl⟩ := List.mem_map.mp hl
    exact haccepted.distinctLocals_import he
  · obtain ⟨w, hw, hl⟩ := List.mem_flatMap.mp hl
    obtain ⟨x, hx, rfl⟩ := List.mem_map.mp hw
    obtain rfl | hl := List.mem_cons.mp hl
    · exact haccepted.distinctLocals_wrapper context hx
    · obtain ⟨m, hm, rfl⟩ := List.mem_map.mp hl
      obtain ⟨f, hf, rfl⟩ := List.mem_map.mp hm
      exact (hmethod (List.mem_of_mem_filter hf) _ _).1
  · obtain ⟨e, he, hl⟩ := List.mem_flatMap.mp hl
    obtain ⟨x, hx, rfl⟩ := List.mem_map.mp he
    exact haccepted.distinctLocals_enum (c := context) rfl hx l hl
  · obtain ⟨m, hm, rfl⟩ := List.mem_map.mp hl
    obtain ⟨f, hf, rfl⟩ := List.mem_map.mp hm
    exact (hmethod (List.mem_of_mem_filter hf) _ _).2

/-- The managed file of the small library. -/
theorem locals_distinct_demo :
    ({ libraryName := "demo" } : Config).schema Demo.declarations = .ok Demo.schema ∧
      ∀ l ∈ (Demo.schema.managedFile { libraryName := "demo" }).locals
        (Demo.schema.surface { libraryName := "demo" }), l.Distinct :=
  ⟨Demo.schema_eq_ok, locals_distinct Demo.schema_eq_ok⟩

end Files

end Boundary
