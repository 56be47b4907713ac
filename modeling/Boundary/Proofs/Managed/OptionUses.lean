import Boundary.Managed.Source
import Boundary.Proofs.Managed.Creations

/-!
# Options that the classes of a file create

Wrappers create options for their arguments. What else they create is never named like an option,
but for the records of an enum, which have the names of its variants.

* `Surface.IsNamed`: how types are called.
* `Argument.Suits`, `createsOnly_argument`: the options that arguments need.
* `onlyCreates_invocation`, `onlyCreates_method`: calls, and members.
* `onlyCreates_wrapper`, `onlyCreates_enumClass`, `onlyCreates_facade`: classes.
-/

namespace Boundary.Managed

open Source Text

variable {s : Surface} {p : String → Prop}

/-! ## Types -/

/-- A surface in which no type is called `new`. -/
structure Surface.IsNamed (s : Surface) : Prop where
  space : ' ' ∉ s.managedNamespace.toList
  typeName : ∀ id, ' ' ∉ (s.typeName id).toList
  managed : ∀ id, ' ' ∉ (Naming.pascal (s.typeName id)).toList
  class_ : ∀ id, EndsOther ('.' :: (Naming.pascal (s.typeName id)).toList)
  interface : ∀ id, EndsOther ('I' :: (Naming.pascal (s.typeName id)).toList)

section Types

theorem notMem_append {a b : String} (ha : ' ' ∉ a.toList) (hb : ' ' ∉ b.toList) :
    ' ' ∉ (a ++ b).toList := by
  rw [String.toList_append, List.mem_append]
  exact fun h => h.elim ha hb

theorem notMem_typeParts : ∀ w ∈ typeParts, ' ' ∉ w.toList := by decide

theorem EndsOther.behind {x : List Char} (h : EndsOther x) (front : List Char) :
    EndsOther (front ++ x) := fun first => List.append_assoc first front x ▸ h _

/-- A name that is not the word `new`, behind a sign that does not make it that word. -/
theorem endsOther_name {sign : Char} (hsign : sign ∉ newWord) {name : String}
    (hname : Naming.IsWord name) (hne : name.toList ≠ newWord) :
    EndsOther (sign :: name.toList) := by
  have hreverse : ∀ c ∈ name.toList.reverse, Naming.isWordChar c = true :=
    fun c hc => hname c (List.mem_reverse.mp hc)
  refine endsOther_of ?_ fun hsuffix => hsign (hsuffix.subset List.mem_cons_self)
  rw [List.rtakeWhile, List.reverse_cons, List.takeWhile_append_of_pos hreverse]
  by_cases hword : Naming.isWordChar sign = true
  · rw [List.takeWhile_cons_of_pos hword]
    intro hnew
    refine hsign ?_
    rw [← hnew]
    simp
  · rw [List.takeWhile_cons_of_neg hword, List.append_nil, List.reverse_reverse]
    exact hne

variable (hs : s.IsNamed)
include hs

theorem Surface.IsNamed.qualified {name : String} (h : ' ' ∉ name.toList) :
    ' ' ∉ (s.qualified name).toList :=
  Surface.forall_qualified (p := fun text => ' ' ∉ text.toList) (fun _ _ => notMem_append)
    notMem_typeParts hs.space h

theorem Surface.IsNamed.classOf (id : TypeId) : CreatesOnly p (s.classOf id) :=
  .of_notMem (hs.qualified (hs.managed id))

theorem Surface.IsNamed.type (t : TypeRef) : CreatesOnly p (s.type t) :=
  .of_notMem (Surface.forall_type (p := fun text => ' ' ∉ text.toList) (fun _ _ => notMem_append)
    notMem_typeParts hs.space hs.managed t)

omit hs in
theorem endsOther_qualified {name : String} (h : EndsOther ('.' :: name.toList)) :
    EndsOther (s.qualified name).toList := by
  have htext : (s.qualified name).toList =
      ("global::" ++ s.managedNamespace).toList ++ '.' :: name.toList := by
    show ("global::" ++ s.managedNamespace ++ "." ++ name).toList = _
    simp
  rw [htext]
  exact h.behind _

omit hs in
theorem endsOther_interface {name : String} (h : EndsOther ('I' :: name.toList)) :
    EndsOther (s.qualified ("I" ++ name)).toList := by
  refine endsOther_qualified ?_
  have htext : ("I" ++ name).toList = 'I' :: name.toList := by simp
  rw [htext]
  exact h.behind ['.']

theorem Surface.IsNamed.endsOther_handleType (id : TypeId) :
    EndsOther (s.handleType id).toList := by
  unfold Surface.handleType
  split
  · exact endsOther_interface (hs.interface id)
  · exact endsOther_qualified (hs.class_ id)

/-- No type ends in the word `new`. -/
theorem Surface.IsNamed.endsOther_type (t : TypeRef) : EndsOther (s.type t).toList := by
  have hparts : ∀ w ∈ typeParts, EndsOther w.toList := by
    have hall : ∀ w ∈ typeParts, w.toList.rtakeWhile Naming.isWordChar ≠ newWord ∧
        ¬ w.toList <:+ newWord := by
      decide
    exact fun w hw => endsOther_of (hall w hw).1 (hall w hw).2
  induction t with
  | primitive q => exact hparts _ (List.mem_append_right _ (List.mem_map_of_mem q.mem_all))
  | handle id => exact hs.endsOther_handleType id
  | option inner ih =>
    rw [Surface.type, String.toList_append]
    exact (hparts "?" (by decide)).behind _
  | result ok err ih => exact ih
  | unit => exact hparts "void" (by decide)
  | str => exact hparts "string" (by decide)
  | unsupported _ => exact hparts "object" (by decide)

end Types

/-! ## Arguments -/

/-- The option that an argument of this form is passed as. -/
def ArgumentForm.option? : ArgumentForm → Option FlatType
  | .optionNumber type | .optionBool type | .optionWrapper type | .optionText type
  | .optionEnum type _ => some type
  | _ => none

/-- An argument that needs one of certain options, if it needs any. -/
structure Argument.Suits (p : String → Prop) (a : Argument) : Prop where
  source : CreatesOnly p a.source
  temporary : CreatesOnly p a.temporary
  option : ∀ t ∈ a.form.option?, p t.managed

private theorem createsOnly_byteOf {source : String} (h : CreatesOnly p source) :
    CreatesOnly p (byteOf source) := h.append (.ofList (by decide))

/-- What a created value is of, if the name is followed by a sign. -/
theorem createsOnly_named {front name back : String} {c : Char} {rest : List Char}
    (hfront : CreatesOnly p front) (hname : Naming.IsWord name) (hback : CreatesOnly p back)
    (hsign : back.toList = c :: rest) (hc : Naming.isWordChar c = false)
    (hp : optionPrefix.toList <+: name.toList → p name) :
    CreatesOnly p (front ++ " " ++ (name ++ back)) := by
  refine hfront.blank ((createsOnly_of_isWord hname).append hback) ?_
  exact .named (by rw [String.toList_append, hsign]) hname hc hp

theorem createsOnly_presentOption {type : FlatType} (htype : p type.managed) {value : String}
    (h : CreatesOnly p value) : CreatesOnly p (presentOption type value) := by
  have htext : presentOption type value = "new" ++ " " ++
      (type.managed ++ (" \x7b Present = 1, Value = " ++ value ++ " \x7d")) := by
    show "new " ++ type.managed ++ " \x7b Present = 1, Value = " ++ value ++ " \x7d" = _
    simp only [String.append_assoc]
    rfl
  have hback : CreatesOnly p (" \x7b Present = 1, Value = " ++ value ++ " \x7d") :=
    ((CreatesOnly.ofList (by decide)).append h).append (.ofList (by decide))
  have hsign : (" \x7b Present = 1, Value = " ++ value ++ " \x7d").toList =
      ' ' :: ("\x7b Present = 1, Value = " ++ value ++ " \x7d").toList := by
    rw [String.toList_append, String.toList_append, String.toList_append, String.toList_append]
    rfl
  rw [htext]
  exact createsOnly_named (.ofList (by decide)) (isWord_managed type) hback hsign (by decide)
    fun _ => htype

private theorem createsOnly_optionOfValue {type : FlatType} (htype : p type.managed) {a : Argument}
    (ha : a.Suits p) {value : String} (h : CreatesOnly p value) :
    CreatesOnly p (optionOfValue type a value) :=
  ((((ha.source.append (.ofList (by decide))).append ha.temporary).append
    (.ofList (by decide))).append (createsOnly_presentOption htype h)).append (.ofList (by decide))

private theorem createsOnly_optionUnlessNull {type : FlatType} (htype : p type.managed)
    {source value : String} (hsource : CreatesOnly p source) (h : CreatesOnly p value) :
    CreatesOnly p (optionUnlessNull type source value) :=
  (hsource.append (.ofList (by decide))).append (createsOnly_presentOption htype h)

/-- **The option that an argument creates is the one that it is passed as.** -/
theorem createsOnly_argument {a : Argument} (ha : a.Suits p) : CreatesOnly p a.expr := by
  have hoption := ha.option
  unfold Argument.expr
  split
  all_goals rename_i hform; rw [hform] at hoption
  · exact ha.source
  · exact createsOnly_byteOf ha.source
  · exact ha.temporary.append (.ofList (by decide))
  · exact ha.temporary.append (.ofList (by decide))
  · exact ha.source.append (.ofList (by decide))
  · exact .ofList (by decide)
  · exact createsOnly_optionOfValue (hoption _ rfl) ha ha.temporary
  · exact createsOnly_optionOfValue (hoption _ rfl) ha (createsOnly_byteOf ha.temporary)
  · exact createsOnly_optionUnlessNull (hoption _ rfl) ha.source
      (ha.source.append (.ofList (by decide)))
  · exact createsOnly_optionUnlessNull (hoption _ rfl) ha.temporary
      (ha.temporary.append (.ofList (by decide)))
  · exact createsOnly_optionUnlessNull (hoption _ rfl) ha.temporary
      (ha.temporary.append (.ofList (by decide)))

section Code

variable (hs : s.IsNamed)
include hs

private theorem createsOnly_enumTemporary (id : TypeId) {source : String}
    (h : CreatesOnly p source) : CreatesOnly p (enumTemporary s id source) :=
  ((((((((CreatesOnly.ofList (by decide)).append (hs.classOf id)).append
    (.ofList (by decide))).append h).append (.ofList (by decide))).append (hs.classOf id)).append
      (.ofList (by decide))).append (.of_notMem (hs.typeName id))).append (.ofList (by decide))

private theorem createsOnly_setup {a : Argument} (ha : a.Suits p) :
    ∀ text ∈ a.setup s, CreatesOnly p text := by
  have htext : CreatesOnly p (textTemporary a.source) :=
    ((CreatesOnly.ofList (by decide)).append ha.source).append (.ofList (by decide))
  have hnullable {value : String} (h : CreatesOnly p value) :
      CreatesOnly p (nullable a.source value) :=
    (ha.source.append (.ofList (by decide))).append h
  have hbind {value : String} (h : CreatesOnly p value) : CreatesOnly p (bindTemporary a value) :=
    ((((CreatesOnly.ofList (by decide)).append ha.temporary).append (.ofList (by decide))).append
      h).append (.ofList (by decide))
  unfold Argument.setup
  split
  · simpa using hbind htext
  · simpa using hbind (createsOnly_enumTemporary hs _ ha.source)
  · simpa using hbind (hnullable htext)
  · simpa using hbind (hnullable (createsOnly_enumTemporary hs _ ha.source))
  · simp

/-! ## Calls -/

theorem createsOnly_ofHandle (id : TypeId) {handle : String} (h : CreatesOnly p handle) :
    CreatesOnly p (s.ofHandle id handle) := by
  have hmethod : CreatesOnly p (if s.isEnum id then "Decode(" else "FromHandle(") := by
    split <;> exact .ofList (by decide)
  exact ((((hs.classOf id).append (.ofList (by decide))).append hmethod).append h).append
    (.ofList (by decide))

theorem createsOnly_liftForm (l : LiftForm) {value : String} (h : CreatesOnly p value) :
    CreatesOnly p (l.expr s value) := by
  induction l generalizing value with
  | same => exact h
  | bool => exact h.append (.ofList (by decide))
  | text => exact ((CreatesOnly.ofList (by decide)).append h).append (.ofList (by decide))
  | handle id => exact createsOnly_ofHandle hs id h
  | option type inner ih =>
    exact ((((h.append (.ofList (by decide))).append (hs.type type)).append
      (.ofList (by decide))).append (ih (h.append (.ofList (by decide))))).append
        (.ofList (by decide))

private theorem createsOnly_readForm (r : ReadForm) {reader : String} (h : CreatesOnly p reader) :
    CreatesOnly p (r.expr s reader) := by
  induction r with
  | nothing => exact .ofList (by decide)
  | primitive q =>
    have hname : CreatesOnly p (Naming.pascal q.name) := by
      cases q <;> exact createsOnly_of_isWord (Naming.isWord_pascal (by decide))
    exact ((h.append (.ofList (by decide))).append hname).append (.ofList (by decide))
  | text => exact h.append (.ofList (by decide))
  | handle id => exact createsOnly_ofHandle hs id (h.append (.ofList (by decide)))
  | option type inner ih =>
    exact ((((h.append (.ofList (by decide))).append (hs.type type)).append
      (.ofList (by decide))).append ih).append (.ofList (by decide))

omit hs in
theorem createsOnly_commas {parts : List String} (h : ∀ part ∈ parts, CreatesOnly p part) :
    CreatesOnly p (commas parts) := .intercalate (.ofList (by decide)) h

omit hs in
theorem createsOnly_callImported {symbol : String} (hsymbol : Naming.IsWord symbol)
    {args : List String} (hargs : ∀ a ∈ args, CreatesOnly p a) :
    CreatesOnly p (callImported symbol args) := by
  have hall : ∀ a ∈ args ++ [statusArgument], CreatesOnly p a := by
    intro a ha
    obtain ha | ha := List.mem_append.mp ha
    · exact hargs a ha
    · obtain rfl := List.mem_singleton.mp ha
      exact .ofList (by decide)
  exact ((((CreatesOnly.ofList (by decide)).append
    (createsOnly_of_isWord hsymbol.managedIdent)).append (.ofList (by decide))).append
      (createsOnly_commas hall)).append (.ofList (by decide))

omit hs in
theorem onlyCreates_newStatus : OnlyCreates p [newStatus] := (CreatesOnly.ofList (by decide)).line

omit hs in
theorem onlyCreates_checkStatus : OnlyCreates p [checkStatus] :=
  (CreatesOnly.ofList (by decide)).line

omit hs in
theorem onlyCreates_keepAlives {args : List Argument} (h : ∀ a ∈ args, a.Suits p) :
    OnlyCreates p ((args.filterMap (·.keepAlive?)).map keepAlive) := by
  have howners := forall_keptAlive (p := CreatesOnly p) fun a ha => (h a ha).source
  exact .map fun owner howner => (((CreatesOnly.ofList (by decide)).append
    (howners owner howner)).append (.ofList (by decide))).line

/-- A call whose arguments need certain options. -/
structure Invocation.Suits (p : String → Prop) (i : Invocation) : Prop where
  symbol : Naming.IsWord i.symbol
  args : ∀ a ∈ i.args, a.Suits p
  forget : ∀ owner ∈ i.forget, CreatesOnly p owner

omit hs in
theorem Invocation.Suits.exprs {i : Invocation} (h : i.Suits p) :
    ∀ e ∈ i.args.map (·.expr), CreatesOnly p e := by
  rintro _ he
  obtain ⟨a, ha, rfl⟩ := List.mem_map.mp he
  exact createsOnly_argument (h.args a ha)

theorem onlyCreates_setups {args : List Argument} (h : ∀ a ∈ args, a.Suits p) :
    OnlyCreates p (lines (args.flatMap (·.setup s))) := by
  refine .lines fun text htext => ?_
  obtain ⟨a, ha, htext⟩ := List.mem_flatMap.mp htext
  exact createsOnly_setup hs (h a ha) text htext

private theorem onlyCreates_check (i : Invocation) : OnlyCreates p [i.check s] := by
  unfold Invocation.check
  split
  · exact onlyCreates_checkStatus
  · exact onlyCreates_checkStatus
  · exact (((CreatesOnly.ofList (by decide)).append
      (createsOnly_readForm hs _ (.ofList (by decide)))).append (.ofList (by decide))).line

theorem onlyCreates_invocation {i : Invocation} (h : i.Suits p) : OnlyCreates p (i.code s) := by
  have hcall := createsOnly_callImported h.symbol h.exprs
  have hline : CreatesOnly p (if i.flat = .void
      then s!"{callImported i.symbol (i.args.map (·.expr))};"
      else s!"var __ret = {callImported i.symbol (i.args.map (·.expr))};") := by
    split
    · exact hcall.append (.ofList (by decide))
    · exact ((CreatesOnly.ofList (by decide)).append hcall).append (.ofList (by decide))
  have hforget : OnlyCreates p (i.forget.map forgetConsumed) := by
    refine .map fun owner howner => ?_
    exact (((CreatesOnly.ofList (by decide)).append (h.forget owner howner)).append
      (.ofList (by decide))).line
  exact ((((onlyCreates_setups hs h.args).append (onlyCreates_newStatus.append hline.line)).append
    (onlyCreates_keepAlives h.args)).append hforget).append (onlyCreates_check hs i)

theorem onlyCreates_returning {i : Invocation} (h : i.Suits p) :
    OnlyCreates p (i.returning s) := by
  refine (onlyCreates_invocation hs h).append ?_
  split
  · exact onlyCreates_nil
  · exact (((CreatesOnly.ofList (by decide)).append
      (createsOnly_liftForm hs _ (.ofList (by decide)))).append (.ofList (by decide))).line

/-! ## Members -/

omit hs in
theorem onlyCreates_summary (text : String) : OnlyCreates p [summary text] := by
  refine onlyCreates_comment ?_
  show ['/', '/'] <+: ("/// <summary>" ++ text ++ "</summary>").toList
  rw [String.append_assoc, String.toList_append]
  exact ⟨_, rfl⟩

omit hs in
theorem onlyCreates_threadingRemarks : OnlyCreates p [threadingRemarks] := by
  refine onlyCreates_comment ?_
  rw [String.toList_append]
  exact ⟨_, rfl⟩

omit hs in
/-- A name behind a type. -/
theorem createsOnly_typed {type name : String} (htype : CreatesOnly p type)
    (hend : EndsOther type.toList) (hname : CreatesOnly p name) :
    CreatesOnly p (type ++ " " ++ name) := htype.blank hname (.otherWord hend)

/-- Parameters of which nothing is created. -/
def Parameters.Suit (p : String → Prop) (params : List Parameter) : Prop :=
  ∀ q ∈ params, CreatesOnly p q.type ∧ EndsOther q.type.toList ∧ CreatesOnly p q.name

omit hs in
theorem createsOnly_parameters {params : List Parameter} (h : Parameters.Suit p params) :
    CreatesOnly p (parameters params) := by
  refine ((CreatesOnly.ofList (by decide)).append (createsOnly_commas ?_)).append
    (.ofList (by decide))
  intro text htext
  obtain ⟨q, hq, rfl⟩ := List.mem_map.mp htext
  obtain ⟨htype, hend, hname⟩ := h q hq
  exact createsOnly_typed htype hend hname

omit hs in
private theorem onlyCreates_doc (m : Method) : OnlyCreates p (m.doc s) := by
  have hcomment (front back : String) (h : ['/', '/'] <+: front.toList) :
      OnlyCreates p [.line (front ++ back)] := by
    refine onlyCreates_comment ?_
    rw [String.toList_append]
    exact h.trans (List.prefix_append _ _)
  have htransferred : OnlyCreates p (m.transferred.map transferRemark) := by
    refine .map fun name _ => ?_
    rw [transferRemark, String.append_assoc, String.append_assoc]
    exact hcomment _ _ (by decide)
  have hexceptions : OnlyCreates p (m.returns.error?.toList.map (exceptionRemark s)) := by
    refine .map fun err _ => ?_
    unfold exceptionRemark
    dsimp only
    rw [String.append_assoc]
    exact hcomment _ _ (by decide)
  exact ((onlyCreates_summary _).append htransferred).append hexceptions

/-- A method whose call needs certain options. -/
structure Method.Suits (p : String → Prop) (m : Method) : Prop where
  name : CreatesOnly p m.name
  params : Parameters.Suit p m.params
  call : m.call.Suits p

theorem onlyCreates_method {m : Method} (h : m.Suits p) : OnlyCreates p (m.code s) := by
  have hmodifiers : CreatesOnly p (if m.isStatic then "public static " else "public ") := by
    split <;> exact .ofList (by decide)
  have hend : EndsOther
      ((if m.isStatic then "public static " else "public ") ++ s.type m.returns).toList := by
    rw [String.toList_append]
    exact (hs.endsOther_type _).behind _
  have hheader : CreatesOnly p ((if m.isStatic then "public static " else "public ")
      ++ s.type m.returns ++ " " ++ m.name ++ parameters m.params) :=
    (createsOnly_typed (hmodifiers.append (hs.type _)) hend h.name).append
      (createsOnly_parameters h.params)
  rw [Method.code_eq]
  exact (onlyCreates_doc m).append (.declared hheader (onlyCreates_returning hs h.call))

/-- A property whose call needs certain options. -/
structure Property.Suits (p : String → Prop) (q : Property) : Prop where
  name : CreatesOnly p q.name
  read : q.read.Suits p

private theorem onlyCreates_property {q : Property} (h : q.Suits p) : OnlyCreates p (q.code s) := by
  have hend : EndsOther ("public " ++ s.type q.type).toList := by
    rw [String.toList_append]
    exact (hs.endsOther_type _).behind _
  have hheader : CreatesOnly p ("public " ++ s.type q.type ++ " " ++ q.name) :=
    createsOnly_typed ((CreatesOnly.ofList (by decide)).append (hs.type _)) hend h.name
  have hread : OnlyCreates p (declared ("public " ++ s.type q.type ++ " " ++ q.name)
      (declared "get" (q.read.returning s))) :=
    .declared hheader (.declared (.ofList (by decide)) (onlyCreates_returning hs h.read))
  rw [Property.code_eq]
  refine OnlyCreates.append ?_ hread
  -- Only a handle has a remark.
  split
  · exact onlyCreates_comment (by decide)
  · exact onlyCreates_nil

omit hs in
theorem onlyCreates_freeBody {symbol : String} (h : Naming.IsWord symbol) :
    OnlyCreates p (freeBody symbol) := by
  have hhandle : ∀ a ∈ ["handle"], CreatesOnly p a := by
    intro a ha
    obtain rfl := List.mem_singleton.mp ha
    exact .ofList (by decide)
  exact onlyCreates_newStatus.append
    ((createsOnly_callImported h hhandle).append (.ofList (by decide))).line

/-! ## Classes -/

/-- A class of a struct whose calls need certain options. -/
structure Wrapper.Suits (p : String → Prop) (w : Wrapper) : Prop where
  name : Naming.IsWord w.name
  /-- The class itself is not named like another option. -/
  own : optionPrefix.toList <+: w.name.toList → p w.name
  params : Parameters.Suit p w.params
  make : w.make.Suits p
  properties : ∀ q ∈ w.properties, q.Suits p
  methods : ∀ m ∈ w.methods, m.Suits p
  freeSymbol : Naming.IsWord w.freeSymbol

omit hs in
private theorem createsOnly_fromHandle {w : Wrapper} (h : w.Suits p) {owned : String}
    (howned : CreatesOnly p owned) :
    CreatesOnly p
      s!"internal static {w.name} FromHandle(ulong handle) => new {w.name}({owned});" := by
  have htext : s!"internal static {w.name} FromHandle(ulong handle) => new {w.name}({owned});" =
      "internal static " ++ w.name ++ " FromHandle(ulong handle) => new" ++ " "
        ++ (w.name ++ ("(" ++ owned ++ ");")) := by
    show "internal static " ++ w.name ++ " FromHandle(ulong handle) => new " ++ w.name ++ "("
      ++ owned ++ ");" = _
    simp [← String.toList_inj]
  have hfront : CreatesOnly p
      ("internal static " ++ w.name ++ " FromHandle(ulong handle) => new") :=
    ((CreatesOnly.ofList (by decide)).append (createsOnly_of_isWord h.name)).append
      (.ofList (by decide))
  have hsign : ("(" ++ owned ++ ");").toList = '(' :: (owned ++ ");").toList := by simp
  rw [htext]
  exact createsOnly_named hfront h.name
    (((CreatesOnly.ofList (by decide)).append howned).append (.ofList (by decide))) hsign
    (by decide) h.own

/-- **The class of a struct creates the options that its calls need.** -/
theorem onlyCreates_wrapper {w : Wrapper} (h : w.Suits p) : OnlyCreates p (w.code s) := by
  have hname := createsOnly_of_isWord (p := p) h.name
  have howned : CreatesOnly p s!"new OwnedHandle(handle, Free, nameof({w.name}))" :=
    ((CreatesOnly.ofList (by decide)).append hname).append (.ofList (by decide))
  have hmade : CreatesOnly p s!"_handle = new OwnedHandle(__ret, Free, nameof({w.name}));" :=
    ((CreatesOnly.ofList (by decide)).append hname).append (.ofList (by decide))
  have hsuppress : CreatesOnly p "global::System.GC.SuppressFinalize(this);" := .ofList (by decide)
  have hconstructor : OnlyCreates p (declared s!"public {w.name}{parameters w.params}"
      (w.make.code s ++ lines [s!"_handle = new OwnedHandle(__ret, Free, nameof({w.name}));"])) :=
    .declared (((CreatesOnly.ofList (by decide)).append hname).append
      (createsOnly_parameters h.params)) ((onlyCreates_invocation hs h.make).append hmade.line)
  have hadopting : OnlyCreates p (declared s!"private {w.name}(OwnedHandle handle)"
      (lines ["_handle = handle;"])) :=
    .declared (((CreatesOnly.ofList (by decide)).append hname).append (.ofList (by decide)))
      (CreatesOnly.ofList (by decide)).line
  have hraw : OnlyCreates p (lines ["internal ulong RawHandle => _handle.Value;"]) :=
    (CreatesOnly.ofList (by decide)).line
  have hforget : OnlyCreates p (declared "internal void Forget()"
      (lines ["_handle.Forget();", "global::System.GC.SuppressFinalize(this);"])) :=
    .declared (.ofList (by decide)) ((CreatesOnly.ofList (by decide)).line.append hsuppress.line)
  have hdispose : OnlyCreates p (declared "public void Dispose()"
      (lines ["_handle?.Dispose();", "global::System.GC.SuppressFinalize(this);"])) :=
    .declared (.ofList (by decide)) ((CreatesOnly.ofList (by decide)).line.append hsuppress.line)
  have hfinalizer : OnlyCreates p (declared s!"~{w.name}()" (lines ["_handle?.Dispose();"])) :=
    .declared (((CreatesOnly.ofList (by decide)).append hname).append (.ofList (by decide)))
      (CreatesOnly.ofList (by decide)).line
  have hfree : OnlyCreates p (declared "private static void Free(ulong handle)"
      (freeBody w.freeSymbol)) :=
    .declared (.ofList (by decide)) (onlyCreates_freeBody h.freeSymbol)
  have hheader : CreatesOnly p s!"public sealed class {w.name} : IDisposable" :=
    ((CreatesOnly.ofList (by decide)).append hname).append (.ofList (by decide))
  have hhandle : OnlyCreates p (lines ["private readonly OwnedHandle _handle;"]) :=
    (CreatesOnly.ofList (by decide)).line
  rw [Wrapper.code_eq]
  refine ((onlyCreates_summary _).append onlyCreates_threadingRemarks).append
    (.declared hheader (hhandle.append (.spaced ?_)))
  simp only [List.forall_mem_append, List.forall_mem_cons, List.forall_mem_map, List.not_mem_nil,
    false_imp_iff, implies_true, and_true]
  exact ⟨⟨⟨⟨hconstructor, hadopting, (createsOnly_fromHandle h howned).line, hraw, hforget⟩,
    fun q hq => onlyCreates_property hs (h.properties q hq)⟩,
    fun m hm => onlyCreates_method hs (h.methods m hm)⟩, hdispose, hfinalizer, hfree⟩

/-- The record of a variant whose calls need certain options. -/
structure VariantRecord.Suits (p : String → Prop) (r : VariantRecord) : Prop where
  name : Naming.IsWord r.name
  /-- The record itself is not named like another option. -/
  own : optionPrefix.toList <+: r.name.toList → p r.name
  fields : ∀ f ∈ r.fields, CreatesOnly p f.name ∧ Naming.IsWord f.getter ∧ f.argument.Suits p
  makeSymbol : Naming.IsWord r.makeSymbol

private theorem onlyCreates_record {r : VariantRecord} (h : r.Suits p) {interface : String}
    (hinterface : CreatesOnly p interface) : OnlyCreates p [r.code s interface] := by
  have hfields : ∀ text ∈ r.fields.map fun f => s!"{s.type f.type} {f.name}",
      CreatesOnly p text := by
    intro text htext
    obtain ⟨f, hf, rfl⟩ := List.mem_map.mp htext
    exact createsOnly_typed (hs.type _) (hs.endsOther_type _) (h.fields f hf).1
  exact ((((((CreatesOnly.ofList (by decide)).append (createsOnly_of_isWord h.name)).append
    (.ofList (by decide))).append (createsOnly_commas hfields)).append (.ofList (by decide))).append
      hinterface).append (.ofList (by decide)) |>.line

omit hs in
theorem createsOnly_numbered {front : String} (hfront : CreatesOnly p front) (i : Nat) :
    CreatesOnly p (front ++ toString i) :=
  hfront.append (createsOnly_of_isWord (Naming.isWord_toString i))

private theorem onlyCreates_fieldDecode {f : RecordField} (hgetter : Naming.IsWord f.getter)
    (i : Nat) : OnlyCreates p (f.decode s i) := by
  have hhandle : ∀ a ∈ ["handle"], CreatesOnly p a := by
    intro a ha
    obtain rfl := List.mem_singleton.mp ha
    exact .ofList (by decide)
  have hraw : CreatesOnly p (s!"var __r{i} = " ++ callImported f.getter ["handle"] ++ ";") :=
    (((createsOnly_numbered (.ofList (by decide)) i).append (.ofList (by decide))).append
      (createsOnly_callImported hgetter hhandle)).append (.ofList (by decide))
  have hlifted : CreatesOnly p
      (s!"var __f{i} = " ++ (LiftForm.of f.type).expr s s!"__r{i}" ++ ";") :=
    (((createsOnly_numbered (.ofList (by decide)) i).append (.ofList (by decide))).append
      (createsOnly_liftForm hs _ (createsOnly_numbered (.ofList (by decide)) i))).append
        (.ofList (by decide))
  exact (CreatesOnly.ofList (by decide)).line.append
    (hraw.line.append (onlyCreates_checkStatus.append hlifted.line))

omit hs in
/-- The statement that makes the record of a variant creates it, and nothing else. -/
theorem createsOnly_return {r : VariantRecord} (h : r.Suits p) {values : String}
    (hvalues : CreatesOnly p values) : CreatesOnly p s!"return new {r.name}({values});" := by
  have htext : s!"return new {r.name}({values});" =
      "return new" ++ " " ++ (r.name ++ ("(" ++ values ++ ");")) := by
    show "return new " ++ r.name ++ "(" ++ values ++ ");" = _
    simp [← String.toList_inj]
  have hsign : ("(" ++ values ++ ");").toList = '(' :: (values ++ ");").toList := by simp
  rw [htext]
  exact createsOnly_named (.ofList (by decide)) h.name
    (((CreatesOnly.ofList (by decide)).append hvalues).append (.ofList (by decide))) hsign
    (by decide) h.own

private theorem onlyCreates_recordDecode {r : VariantRecord} (h : r.Suits p) :
    OnlyCreates p (r.decode s) := by
  have hcase : CreatesOnly p s!"case {r.discriminant}:" :=
    (createsOnly_numbered (.ofList (by decide)) _).append (.ofList (by decide))
  have hvalues : CreatesOnly p (commas ((List.range r.fields.length).map fun i => s!"__f{i}")) := by
    refine createsOnly_commas fun value hvalue => ?_
    obtain ⟨i, -, rfl⟩ := List.mem_map.mp hvalue
    exact createsOnly_numbered (.ofList (by decide)) i
  rw [VariantRecord.decode_eq]
  refine .declared hcase (.append (.flatMap ?_) (createsOnly_return h hvalues).line)
  rintro ⟨f, i⟩ hf
  exact onlyCreates_fieldDecode hs (h.fields f (List.fst_mem_of_mem_zipIdx hf)).2.1 i

private theorem onlyCreates_recordLower {r : VariantRecord} (h : r.Suits p) :
    OnlyCreates p (r.lower s) := by
  have hargs : ∀ a ∈ r.fields.map (·.argument), a.Suits p := by
    intro a ha
    obtain ⟨f, hf, rfl⟩ := List.mem_map.mp ha
    exact (h.fields f hf).2.2
  have hexprs : ∀ e ∈ (r.fields.map (·.argument)).map (·.expr), CreatesOnly p e := by
    intro e he
    obtain ⟨a, ha, rfl⟩ := List.mem_map.mp he
    exact createsOnly_argument (hargs a ha)
  have hcase {binding : String} (hbinding : CreatesOnly p binding) :
      CreatesOnly p s!"case {r.name}{binding}:" :=
    (((CreatesOnly.ofList (by decide)).append (createsOnly_of_isWord h.name)).append
      hbinding).append (.ofList (by decide))
  have hcall : CreatesOnly p ("__ret = "
      ++ callImported r.makeSymbol ((r.fields.map (·.argument)).map (·.expr)) ++ ";") :=
    ((CreatesOnly.ofList (by decide)).append (createsOnly_callImported h.makeSymbol hexprs)).append
      (.ofList (by decide))
  have hbinding : CreatesOnly p (if r.fields.isEmpty then "" else " __v") := by
    split <;> exact .ofList (by decide)
  rw [VariantRecord.lower_eq]
  exact .declared (hcase hbinding) ((((onlyCreates_setups hs hargs).append hcall.line).append
    (onlyCreates_keepAlives hargs)).append (CreatesOnly.ofList (by decide)).line)

/-- A class of an enum whose calls need certain options. -/
structure EnumClass.Suits (p : String → Prop) (e : EnumClass) : Prop where
  native : CreatesOnly p e.native
  name : Naming.IsWord e.name
  records : ∀ r ∈ e.records, r.Suits p
  tagSymbol : Naming.IsWord e.tagSymbol
  freeSymbol : Naming.IsWord e.freeSymbol
  methods : ∀ m ∈ e.methods, m.Suits p

theorem createsOnly_interface {e : EnumClass} (h : e.Suits p) :
    CreatesOnly p (s.qualified e.interface) :=
  .of_notMem (hs.qualified (notMem_append (by decide) (h.name.notMem (by decide))))

private theorem onlyCreates_decode {e : EnumClass} (h : e.Suits p) :
    OnlyCreates p (e.decode s) := by
  have hhandle : ∀ a ∈ ["handle"], CreatesOnly p a := by
    intro a ha
    obtain rfl := List.mem_singleton.mp ha
    exact .ofList (by decide)
  have hheader : CreatesOnly p ("internal static " ++ s.qualified e.interface
      ++ " Decode(ulong handle)") :=
    ((CreatesOnly.ofList (by decide)).append (createsOnly_interface hs h)).append
      (.ofList (by decide))
  have htag : CreatesOnly p ("var __tag = " ++ callImported e.tagSymbol ["handle"] ++ ";") :=
    ((CreatesOnly.ofList (by decide)).append (createsOnly_callImported h.tagSymbol hhandle)).append
      (.ofList (by decide))
  have hdefault : OnlyCreates p (lines ["default:",
      "    throw new NativeContractException($\"unknown " ++ e.native
        ++ " discriminant \x7b__tag\x7d\");"]) :=
    (CreatesOnly.ofList (by decide)).line.append
      (((CreatesOnly.ofList (by decide)).append h.native).append (.ofList (by decide))).line
  have hrecords : OnlyCreates p (e.records.flatMap (·.decode s)) :=
    .flatMap fun r hr => onlyCreates_recordDecode hs (h.records r hr)
  have hstatus : OnlyCreates p [newStatus,
      .line ("var __tag = " ++ callImported e.tagSymbol ["handle"] ++ ";"), checkStatus] :=
    onlyCreates_newStatus.append (htag.line.append onlyCreates_checkStatus)
  have hfinally : OnlyCreates p (declared "finally" (lines ["Free(handle);"])) :=
    .declared (.ofList (by decide)) (CreatesOnly.ofList (by decide)).line
  rw [EnumClass.decode_eq]
  exact .declared hheader ((OnlyCreates.declared (.ofList (by decide)) (hstatus.append
    (.declared (.ofList (by decide)) (hrecords.append hdefault)))).append hfinally)

private theorem onlyCreates_lower {e : EnumClass} (h : e.Suits p) : OnlyCreates p (e.lower s) := by
  have hname : CreatesOnly p e.interface :=
    createsOnly_of_isWord (Naming.IsWord.append (by decide) h.name)
  have hheader : CreatesOnly p
      s!"internal static ulong Lower({s.qualified e.interface} value)" :=
    ((CreatesOnly.ofList (by decide)).append (createsOnly_interface hs h)).append
      (.ofList (by decide))
  have hdefault : OnlyCreates p (lines ["default:",
      "    throw new global::System.ArgumentException($\"unknown " ++ e.interface
        ++ " implementation \x7bvalue?.GetType()\x7d\", nameof(value));"]) :=
    (CreatesOnly.ofList (by decide)).line.append
      (((CreatesOnly.ofList (by decide)).append hname).append (.ofList (by decide))).line
  have hrecords : OnlyCreates p (e.records.flatMap (·.lower s)) :=
    .flatMap fun r hr => onlyCreates_recordLower hs (h.records r hr)
  have hstart : OnlyCreates p (newStatus :: lines ["ulong __ret;"]) :=
    onlyCreates_newStatus.append (CreatesOnly.ofList (by decide)).line
  have hreturn : OnlyCreates p (checkStatus :: lines ["return __ret;"]) :=
    onlyCreates_checkStatus.append (CreatesOnly.ofList (by decide)).line
  rw [EnumClass.lower_eq]
  exact .declared hheader ((hstart.append
    (.declared (.ofList (by decide)) (hrecords.append hdefault))).append hreturn)

/-- **The class of an enum creates the options that its calls need, and records.** -/
theorem onlyCreates_enumClass {e : EnumClass} (h : e.Suits p) : OnlyCreates p (e.code s) := by
  have hname := createsOnly_of_isWord (p := p) h.name
  have hline : CreatesOnly p s!"public interface {e.interface}" :=
    (CreatesOnly.ofList (by decide)).append ((CreatesOnly.ofList (by decide)).append hname)
  have hinterface : OnlyCreates p (lines [s!"public interface {e.interface}", "\x7b", "\x7d"]) :=
    hline.line.append ((CreatesOnly.ofList (by decide)).line.append
      (CreatesOnly.ofList (by decide)).line)
  have hheader : CreatesOnly p s!"public static class {e.name}" :=
    (CreatesOnly.ofList (by decide)).append hname
  have hfree : OnlyCreates p (declared "internal static void Free(ulong handle)"
      (freeBody e.freeSymbol)) :=
    .declared (.ofList (by decide)) (onlyCreates_freeBody h.freeSymbol)
  have hrecords : OnlyCreates p (e.records.map (·.code s (s.qualified e.interface))) :=
    .map fun r hr => onlyCreates_record hs (h.records r hr) (createsOnly_interface hs h)
  have hvariants : OnlyCreates p [.blank, summary s!"Variants of native enum <c>{e.native}</c>.",
      threadingRemarks] :=
    onlyCreates_blank.append ((onlyCreates_summary _).append onlyCreates_threadingRemarks)
  rw [EnumClass.code_eq]
  refine (((onlyCreates_summary _).append hinterface).append hvariants).append
    (.declared hheader (hrecords.append (.spaced ?_)))
  simp only [List.forall_mem_append, List.forall_mem_cons, List.forall_mem_map, List.not_mem_nil,
    false_imp_iff, implies_true, and_true]
  exact ⟨⟨onlyCreates_decode hs h, onlyCreates_lower hs h, hfree⟩,
    fun m hm => onlyCreates_method hs (h.methods m hm)⟩

/-- **The class of the free functions creates the options that they need.** -/
theorem onlyCreates_facade {f : Facade} (hname : Naming.IsWord f.name)
    (hmethods : ∀ m ∈ f.methods, m.Suits p) (libraryName : String) :
    OnlyCreates p (f.code s libraryName) := by
  have hheader : CreatesOnly p s!"public static class {f.name}" :=
    (CreatesOnly.ofList (by decide)).append (createsOnly_of_isWord hname)
  have hbody : OnlyCreates p (interspaced (f.methods.map (·.code s))) := by
    have hcodes : ∀ code ∈ f.methods.map (·.code s), OnlyCreates p code := by
      simpa using fun m hm => onlyCreates_method hs (hmethods m hm)
    cases hparts : f.methods.map (·.code s) with
    | nil => exact onlyCreates_nil
    | cons first rest =>
      rw [hparts, List.forall_mem_cons] at hcodes
      exact hcodes.1.append (.spaced hcodes.2)
  rw [Facade.code_eq]
  exact ((onlyCreates_summary _).append onlyCreates_threadingRemarks).append
    (.declared hheader hbody)

end Code

end Boundary.Managed
