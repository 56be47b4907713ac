import Boundary.Proofs.Managed.TypeNames
import Boundary.Proofs.Managed.Types

/-!
# Members in managed files

The members that the bodies in a managed file declare, read off their lines. Constructors and
finalizers have no name of their own and do not count.

* `Member`, `memberOfLine?`: the member that a line declares.
* `parametersOf`: the parameters in a line by name; those of a record are its members.
* `bodiesOf`: the types in some code with their members.
* `IsPlain`, `declaredWords_eq`: the words of a line that is put together of plain ones.
* `Declares`: some code declares members of the given names and no record.
-/

namespace Boundary.Managed

open Source

/-! ## Lines of words -/

/-- The signs behind the name in a declaration. -/
def headEnds : List Char := ['(', '=', ';']

/-- The words that may stand before the type of a member. -/
def memberModifiers : List String :=
  ["public", "private", "internal", "static", "readonly", "sealed"]

/-- The words of a declaration from the type to the name. -/
def declaredWords (line : String) : List String :=
  (Text.split ' ' (String.ofList (line.toList.takeWhile (· ∉ headEnds)))).dropWhile
    memberModifiers.contains

/-- A text `s` that is one word of a declaration. -/
def IsPlain (s : String) : Prop := ∀ c ∈ s.toList, c ∉ [' ', ',', ')'] ++ headEnds

instance (s : String) : Decidable (IsPlain s) := inferInstanceAs (Decidable (∀ c ∈ s.toList, _))

theorem IsPlain.append {a b : String} (ha : IsPlain a) (hb : IsPlain b) : IsPlain (a ++ b) := by
  intro c hc
  rw [String.toList_append, List.mem_append] at hc
  exact hc.elim (ha c) (hb c)

theorem IsPlain.notMem {s : String} (h : IsPlain s) {c : Char}
    (hc : c ∈ [' ', ',', ')'] ++ headEnds) : c ∉ s.toList := fun hmem => h c hmem hc

theorem isPlain_of_isWord {s : String} (h : Naming.IsWord s) : IsPlain s := by
  have hsigns : ∀ c ∈ [' ', ',', ')'] ++ headEnds, Naming.isWordChar c = false := by decide
  exact fun c hc hmem => h.notMem (hsigns c hmem) hc

theorem takeWhile_append_of_head? {α : Type} {p : α → Bool} {front back : List α}
    (hfront : ∀ a ∈ front, p a = true) (hback : ∀ a ∈ back.head?, p a = false) :
    (front ++ back).takeWhile p = front := by
  rw [List.takeWhile_append_of_pos hfront]
  cases back with
  | nil => simp
  | cons a rest => rw [List.takeWhile_cons_of_neg (by simpa using hback a), List.append_nil]

/-- The words of a line without the modifiers before them and what stands behind them. -/
theorem declaredWords_eq {line : String} (modifiers words : List String) (back : String)
    (hline : line = " ".intercalate (modifiers ++ words) ++ back)
    (hmodifiers : ∀ m ∈ modifiers, m ∈ memberModifiers) (hwords : ∀ w ∈ words, IsPlain w)
    (hne : words ≠ []) (hhead : ∀ w ∈ words.head?, w ∉ memberModifiers)
    (hback : ∀ c ∈ back.toList.head?, c ∈ headEnds) : declaredWords line = words := by
  have hplain : ∀ m ∈ memberModifiers, IsPlain m := by decide
  have hall : ∀ w ∈ modifiers ++ words, IsPlain w := by
    intro w hw
    obtain hw | hw := List.mem_append.mp hw
    · exact hplain w (hmodifiers w hw)
    · exact hwords w hw
  have htake : line.toList.takeWhile (· ∉ headEnds) =
      (" ".intercalate (modifiers ++ words)).toList := by
    rw [hline, String.toList_append]
    refine takeWhile_append_of_head? ?_ ?_
    · intro c hc
      rw [decide_eq_true_eq]
      obtain hc | ⟨w, hw, hc⟩ := Text.mem_intercalate hc
      · obtain rfl := List.mem_singleton.mp hc
        decide
      · exact fun hmem => hall w hw c hc (List.mem_append_right _ hmem)
    · intro c hc
      simpa using hback c hc
  rw [declaredWords, htake, String.ofList_toList, Text.split_intercalate rfl (by simp [hne])
    fun w hw => (hall w hw).notMem (by decide),
    List.dropWhile_append_of_pos (by simpa using hmodifiers)]
  cases words with
  | nil => rfl
  | cons w rest => exact List.dropWhile_cons_of_neg (by simpa using hhead w rfl)

/-! ## Members -/

/-- A member with the line that declares it. -/
structure Member where
  type : String
  name : String
  line : String
deriving Repr, DecidableEq

/-- What a line starts with that documents something. -/
def remarkMark : String := "///"

/-- The member that `line` declares, if it declares one. -/
def memberOfLine? (line : String) : Option Member :=
  match declaredWords line with
  | type :: name :: _ => if type = remarkMark then none else some ⟨type, name, line⟩
  | _ => none

/-- The members that the lines of a body declare. -/
def membersOf (body : List Part) : List Member := body.filterMap (readPart memberOfLine?)

/-- The word that stands for the type of a record. -/
def recordWord : String := "record"

/-- The parameters in `line`, by name. -/
def parametersOf (line : String) : List String :=
  let inside := ((line.toList.dropWhile (· ≠ '(')).drop 1).takeWhile (· ≠ ')')
  ((Text.split ',' (String.ofList inside)).filterMap fun part =>
    memberOfLine? (Text.trimStart part)).map (·.name)

/-- A type with the names of its members. -/
structure ReadBody where
  name : String
  members : List String
deriving Repr, DecidableEq

/-- The `body` of the type `name`, and those of the records in it. -/
def bodiesOfType (name : String) (body : List Part) : List ReadBody :=
  ⟨name, (membersOf body).map (·.name)⟩ ::
    ((membersOf body).filter (·.type = recordWord)).map fun m => ⟨m.name, parametersOf m.line⟩

/-- Whether a part is a closing brace on a line of its own. -/
def isClosingLine : Part → Bool
  | .line text => text = "\x7d"
  | .blank | .block _ _ _ => false

/-- The bodies of the types in some parts behind a line. The body of a type is a level, or it stands
between braces that are lines. -/
def bodiesBehind (header : String) : List Part → List ReadBody
  | [] => []
  | .line text :: rest =>
    let body := rest.takeWhile (!isClosingLine ·)
    (if text = "\x7b" then (typeOfLine? header).toList.flatMap (bodiesOfType · body) else [])
      ++ bodiesBehind text rest
  | .blank :: rest => bodiesBehind "" rest
  | .block _ body _ :: rest =>
    (typeOfLine? header).toList.flatMap (bodiesOfType · body) ++ bodiesBehind "" rest

/-- The bodies of the types in some code. -/
def bodiesOf (code : List Code) : List ReadBody := bodiesBehind "" (parts code)

/-! ### Lines that declare a member -/

/-- The words that the type of a member is none of. -/
def noTypes : List String := memberModifiers ++ [remarkMark, recordWord]

theorem memberOfLine?_eq_some {line type name : String} {rest : List String}
    (h : declaredWords line = type :: name :: rest) (htype : type ≠ remarkMark) :
    memberOfLine? line = some ⟨type, name, line⟩ := by
  rw [memberOfLine?, h]
  exact if_neg htype

/-- A line that documents something declares nothing. -/
theorem memberOfLine?_remark {line : String} (h : ['/', '/', '/', ' '] <+: line.toList) :
    memberOfLine? line = none := by
  obtain ⟨cs, hcs⟩ := h
  have htake : String.ofList (line.toList.takeWhile (· ∉ headEnds)) =
      remarkMark ++ " " ++ String.ofList (cs.takeWhile (· ∉ headEnds)) := by
    rw [← hcs, List.takeWhile_append_of_pos (by decide)]
    simp [← String.toList_inj, remarkMark]
  have hmark : remarkMark ∉ memberModifiers := by decide
  have hwords : declaredWords line =
      remarkMark :: Text.split ' ' (String.ofList (cs.takeWhile (· ∉ headEnds))) := by
    rw [declaredWords, htake, Text.split_separated rfl, Text.split_of_notMem (by decide)]
    exact List.dropWhile_cons_of_neg (by simpa using hmark)
  rw [memberOfLine?, hwords]
  cases Text.split ' ' (String.ofList (cs.takeWhile (· ∉ headEnds))) with
  | nil => rfl
  | cons name rest => exact if_pos rfl

private theorem memberOfLine?_constructor (modifiers : List String) (name back : String)
    {line : String} (hline : line = " ".intercalate (modifiers ++ [name]) ++ back)
    (hmodifiers : ∀ m ∈ modifiers, m ∈ memberModifiers) (hname : IsPlain name)
    (hfree : name ∉ memberModifiers) (hback : ∀ c ∈ back.toList.head?, c ∈ headEnds) :
    memberOfLine? line = none := by
  rw [memberOfLine?, declaredWords_eq modifiers [name] back hline hmodifiers (by simpa using hname)
    (by simp) (by simpa using hfree) hback]

/-! ### Code that declares members -/

/-- Balanced `code` that declares members of these `names` and no record. -/
structure Declares (code : List Code) (names : List String) : Prop where
  balanced : Balanced code
  names_eq : (membersOf (parts code)).map (·.name) = names
  no_record : ∀ m ∈ membersOf (parts code), m.type ≠ recordWord

theorem ReadsLines.declares {code : List Code} {members : List Member}
    (h : ReadsLines memberOfLine? code members) (hrecord : ∀ m ∈ members, m.type ≠ recordWord) :
    Declares code (members.map (·.name)) := by
  obtain ⟨hbalanced, rfl⟩ := h
  exact ⟨hbalanced, rfl, hrecord⟩

theorem declares_nil : Declares [] [] := ⟨.nil, rfl, by simp [membersOf]⟩

theorem Declares.append {a b : List Code} {names names' : List String} (ha : Declares a names)
    (hb : Declares b names') : Declares (a ++ b) (names ++ names') := by
  have hmembers : membersOf (parts (a ++ b)) = membersOf (parts a) ++ membersOf (parts b) := by
    rw [parts_append ha.balanced hb.balanced]
    exact List.filterMap_append
  refine ⟨ha.balanced.append hb.balanced, ?_, ?_⟩
  · rw [hmembers, List.map_append, ha.names_eq, hb.names_eq]
  · intro m hm
    rw [hmembers, List.mem_append] at hm
    exact hm.elim (ha.no_record m) (hb.no_record m)

theorem Declares.flatMap {α : Type} {f : α → List Code} {name : α → String} {as : List α}
    (h : ∀ a ∈ as, Declares (f a) [name a]) : Declares (as.flatMap f) (as.map name) := by
  induction as with
  | nil => exact declares_nil
  | cons a rest ih =>
    exact (h a (by simp)).append (ih fun b hb => h b (by simp [hb]))

private theorem declares_nothing {code : List Code} (h : ∀ c ∈ code, Declares [c] []) :
    Declares code [] := by
  induction code with
  | nil => exact declares_nil
  | cons c rest ih => exact (h c (by simp)).append (ih fun d hd => h d (by simp [hd]))

/-- A line that declares nothing. -/
theorem declares_line {line : String} (h : memberOfLine? line = none) : Declares [.line line] [] :=
  (readsLines_nil.skip h).declares (List.forall_mem_nil _)

theorem declares_member (modifiers : List String) (type name : String) (rest : List String)
    (back : String) {line : String}
    (hline : line = " ".intercalate (modifiers ++ type :: name :: rest) ++ back)
    (hmodifiers : ∀ m ∈ modifiers, m ∈ memberModifiers)
    (hwords : ∀ w ∈ type :: name :: rest, IsPlain w) (htype : type ∉ noTypes)
    (hback : ∀ c ∈ back.toList.head?, c ∈ headEnds) : Declares [.line line] [name] := by
  simp only [noTypes, List.mem_append, List.mem_cons, not_or] at htype
  have hmember := memberOfLine?_eq_some (declaredWords_eq modifiers (type :: name :: rest) back
    hline hmodifiers hwords (by simp) (by simpa using htype.1) hback) htype.2.1
  refine (readsLines_line (congrArg Option.toList hmember)).declares ?_
  simpa using htype.2.2.1

theorem Declares.declared {header : String} {names : List String} {body : List Code}
    (h : Declares [.line header] names) (hbody : Balanced body) :
    Declares (declared header body) names := by
  have hlines : membersOf (parts (Managed.declared header body)) =
      membersOf (parts [.line header]) := by
    rw [Managed.declared, parts_line header hbody.level, parts_level _ _ hbody,
      parts_line header .nil]
    rfl
  refine ⟨balanced_declared hbody, ?_, ?_⟩
  · rw [hlines]
    exact h.names_eq
  · rw [hlines]
    exact h.no_record

theorem Declares.blank {code : List Code} {names : List String} (h : Declares code names) :
    Declares (.blank :: code) names := by
  have hparts : parts (.blank :: code) = .blank :: parts code := parts_blank h.balanced
  exact ⟨.blank h.balanced, hparts ▸ h.names_eq, hparts ▸ h.no_record⟩

theorem declares_remark {line : String} (h : ['/', '/', '/', ' '] <+: line.toList) :
    Declares [.line line] [] := declares_line (memberOfLine?_remark h)

theorem isPrefix_append_text {cs : List Char} {a : String} (h : cs <+: a.toList) (b : String) :
    cs <+: (a ++ b).toList := by
  rw [String.toList_append]
  exact h.trans (List.prefix_append _ _)

private theorem declares_summary (text : String) : Declares [summary text] [] :=
  declares_remark (isPrefix_append_text (isPrefix_append_text (by decide) _) _)

/-! ### Types -/

/-- The types of a surface are words of a declaration. -/
structure Surface.IsPlain (s : Surface) : Prop where
  qualified_plain : ∀ name, Managed.IsPlain name → Managed.IsPlain (s.qualified name)
  type_plain : ∀ t, Managed.IsPlain (s.type t)

variable {s : Surface}

theorem qualified_notMem_noTypes (s : Surface) (name : String) : s.qualified name ∉ noTypes := by
  have hheads : ∀ w ∈ noTypes, w.toList.head? ≠ some 'g' := by decide
  intro hmem
  exact hheads _ hmem (by simp [Surface.qualified, toString])

/-- No type is a word that means something else. -/
theorem type_notMem_noTypes (s : Surface) (t : TypeRef) : s.type t ∉ noTypes := by
  have hprimitive (p : Primitive) : p.managedName ∉ noTypes := by cases p <;> decide
  have hfixed : ∀ w ∈ ["void", "string", "object"], w ∉ noTypes := by decide
  induction t with
  | primitive p => exact hprimitive p
  | handle id => exact qualified_notMem_noTypes s _
  | option inner ih =>
    have hlast : ∀ w ∈ noTypes, w.toList.getLast? ≠ some '?' := by decide
    intro hmem
    exact hlast _ hmem (by simp [Surface.type])
  | result ok err ih => exact ih
  | unit => exact hfixed "void" (by decide)
  | str => exact hfixed "string" (by decide)
  | unsupported reason => exact hfixed "object" (by decide)

theorem type_ne_empty (s : Surface) (t : TypeRef) : s.type t ≠ "" := by
  have hprimitive (p : Primitive) : p.managedName ≠ "" := by cases p <;> decide
  have happend {a b : String} (hb : b ≠ "") : a ++ b ≠ "" := by simp [hb]
  induction t with
  | primitive p => exact hprimitive p
  | handle id => simp [Surface.type, Surface.handleType, Surface.qualified, toString]
  | option inner ih => exact happend (by decide)
  | result ok err ih => exact ih
  | unit | str | unsupported reason => simp [Surface.type]

theorem Surface.isPlain_of_names (hspace : Managed.IsPlain s.managedNamespace)
    (hnames : ∀ id, Managed.IsPlain (Naming.pascal (s.typeName id))) : s.IsPlain := by
  have hparts : ∀ w ∈ typeParts, Managed.IsPlain w := by decide
  exact ⟨fun _ => Surface.forall_qualified (fun _ _ => .append) hparts hspace,
    Surface.forall_type (fun _ _ => .append) hparts hspace hnames⟩

/-! ### Methods and properties -/

private theorem declares_doc (s : Surface) (m : Method) : Declares (m.doc s) [] := by
  refine declares_nothing fun c hc => ?_
  rw [Method.doc, List.cons_append, List.mem_cons, List.mem_append] at hc
  obtain rfl | hc | hc := hc
  · exact declares_summary _
  · obtain ⟨name, -, rfl⟩ := List.mem_map.mp hc
    exact declares_remark (isPrefix_append_text (isPrefix_append_text (isPrefix_append_text
      (by decide) _) _) _)
  · obtain ⟨err, -, rfl⟩ := List.mem_map.mp hc
    exact declares_remark (isPrefix_append_text (isPrefix_append_text (by decide) _) _)

theorem declares_method (hs : s.IsPlain) {m : Method} (hname : IsPlain m.name) :
    Declares (m.code s) [m.name] := by
  have hback : ∀ c ∈ (parameters m.params).toList.head?, c ∈ headEnds := by
    simp [parameters, headEnds]
  have hwords : ∀ w ∈ [s.type m.returns, m.name], IsPlain w := by
    simpa using ⟨hs.type_plain _, hname⟩
  rw [Method.code_eq]
  refine (declares_doc s m).append (Declares.declared ?_ (m.call.balanced_returning s))
  cases m.isStatic with
  | false =>
    exact declares_member ["public"] _ _ [] _ (by simp [← String.toList_inj]) (by decide)
      hwords (type_notMem_noTypes s _) hback
  | true =>
    exact declares_member ["public", "static"] _ _ [] _ (by simp [← String.toList_inj])
      (by decide) hwords (type_notMem_noTypes s _) hback

private theorem declares_property (hs : s.IsPlain) {p : Property} (hname : IsPlain p.name) :
    Declares (p.code s) [p.name] := by
  have hwords : ∀ w ∈ [s.type p.type, p.name], IsPlain w := by
    simpa using ⟨hs.type_plain _, hname⟩
  have hheader : Declares [.line s!"public {s.type p.type} {p.name}"] [p.name] :=
    declares_member ["public"] _ _ [] "" (by simp [← String.toList_inj, toString]) (by decide)
      hwords (type_notMem_noTypes s _) (by simp)
  rw [Property.code_eq]
  refine (?_ : Declares _ []).append
    (hheader.declared (balanced_declared (p.read.balanced_returning s)))
  split
  · exact declares_remark (by decide)
  · exact declares_nil

/-! ### Records -/

private theorem split_commas (front part : String) (rest : List String)
    (hfront : ',' ∉ front.toList) (hpart : ',' ∉ part.toList) (hrest : ∀ p ∈ rest, ',' ∉ p.toList) :
    Text.split ',' (front ++ commas (part :: rest)) = (front ++ part) :: rest.map (" " ++ ·) := by
  induction rest generalizing front part with
  | nil =>
    rw [commas, String.intercalate_singleton]
    exact Text.split_of_notMem (by simp [hfront, hpart])
  | cons q rest ih =>
    have hcons : front ++ commas (part :: q :: rest) =
        (front ++ part) ++ "," ++ (" " ++ commas (q :: rest)) := by
      simp [commas, ← String.toList_inj]
    have hblank : ',' ∉ " ".toList := by decide
    rw [hcons, Text.split_separated rfl, Text.split_of_notMem (by simp [hfront, hpart]),
      ih _ _ hblank (hrest q (by simp)) fun p hp => hrest p (by simp [hp])]
    rfl

/-- A parameter that is made of words. -/
structure Parameter.IsPlain (p : Parameter) : Prop where
  type_plain : Managed.IsPlain p.type
  type_notMem : p.type ∉ noTypes
  type_ne_empty : p.type ≠ ""
  name_plain : Managed.IsPlain p.name

theorem Parameter.IsPlain.notMem_text {p : Parameter} (h : p.IsPlain) {c : Char}
    (hc : c = ',' ∨ c = ')') : c ∉ p.text.toList := by
  have hsign : c ∈ [' ', ',', ')'] ++ headEnds := by obtain rfl | rfl := hc <;> decide
  have hblank : c ≠ ' ' := by obtain rfl | rfl := hc <;> decide
  simp [Parameter.text, toString, h.type_plain.notMem hsign, h.name_plain.notMem hsign, hblank]

theorem Parameter.IsPlain.trimStart_text {p : Parameter} (h : p.IsPlain) :
    Text.trimStart p.text = p.text ∧ Text.trimStart (" " ++ p.text) = p.text := by
  have hself : Text.trimStart p.text = p.text := by
    refine Text.trimStart_eq_self ?_
    cases hchars : p.type.toList with
    | nil => exact absurd (String.toList_eq_nil_iff.mp hchars) h.type_ne_empty
    | cons d rest =>
      have hd : d ≠ ' ' := by
        rintro rfl
        exact h.type_plain.notMem (by decide) (hchars ▸ List.mem_cons_self)
      simpa [Parameter.text, toString, hchars] using hd
  exact ⟨hself, (Text.trimStart_append (by simp) _).trans hself⟩

theorem Parameter.IsPlain.memberOfLine?_text {p : Parameter} (h : p.IsPlain) :
    memberOfLine? p.text = some ⟨p.type, p.name, p.text⟩ := by
  have hnone := h.type_notMem
  simp only [noTypes, List.mem_append, List.mem_cons, not_or] at hnone
  exact memberOfLine?_eq_some (declaredWords_eq [] [p.type, p.name] ""
    (by simp [Parameter.text, toString]) (by simp) (by simpa using ⟨h.type_plain, h.name_plain⟩)
    (by simp) (by simpa using hnone.1) (by simp)) hnone.2.1

/-- `parametersOf` a line are those that have been written there. -/
theorem parametersOf_eq {line front back : String} {params : List Parameter}
    (hline : line = front ++ "(" ++ commas (params.map Parameter.text) ++ ")" ++ back)
    (hfront : '(' ∉ front.toList) (hparams : ∀ p ∈ params, p.IsPlain) :
    parametersOf line = params.map (·.name) := by
  have hclosed : ∀ c ∈ (commas (params.map Parameter.text)).toList, c ≠ ')' := by
    intro c hc
    obtain hc | ⟨text, htext, hc⟩ := Text.mem_intercalate hc
    · rintro rfl
      revert hc
      decide
    · obtain ⟨p, hp, rfl⟩ := List.mem_map.mp htext
      rintro rfl
      exact (hparams p hp).notMem_text (.inr rfl) hc
  have hinside : (((line.toList.dropWhile (· ≠ '(')).drop 1).takeWhile (· ≠ ')')) =
      (commas (params.map Parameter.text)).toList := by
    have hopen : ∀ c ∈ front.toList, decide (c ≠ '(') = true := by
      intro c hc
      rw [decide_eq_true_eq]
      rintro rfl
      exact hfront hc
    have hchars : line.toList = front.toList ++ '(' ::
        ((commas (params.map Parameter.text)).toList ++ ')' :: back.toList) := by
      simp [hline]
    rw [hchars, List.dropWhile_append_of_pos hopen, List.dropWhile_cons_of_neg (by decide),
      List.drop_one, List.tail_cons]
    exact takeWhile_append_of_head? (by simpa using hclosed) (by simp)
  have hcomma : ∀ p ∈ params, ',' ∉ p.text.toList :=
    fun p hp => (hparams p hp).notMem_text (.inl rfl)
  rw [parametersOf, hinside, String.ofList_toList]
  cases params with
  | nil => rfl
  | cons p rest =>
    have hsplit := split_commas "" p.text (rest.map Parameter.text) (by simp) (hcomma p (by simp))
      (by simpa using fun q hq => hcomma q (by simp [hq]))
    have hread : ∀ q ∈ p :: rest, (memberOfLine? q.text).map (·.name) = some q.name := by
      intro q hq
      rw [(hparams q hq).memberOfLine?_text]
      rfl
    have htail : ((rest.map Parameter.text).map (" " ++ ·)).filterMap
        (fun part => (memberOfLine? (Text.trimStart part)).map (·.name)) = rest.map (·.name) := by
      rw [List.map_map, List.filterMap_map, ← List.filterMap_eq_map]
      refine List.filterMap_congr fun q hq => ?_
      have hq : q ∈ p :: rest := List.mem_cons_of_mem p hq
      simp [(hparams q hq).trimStart_text.2, hread q hq]
    simp only [String.empty_append] at hsplit
    rw [List.map_cons, hsplit, List.map_filterMap, List.filterMap_cons_some, htail]
    · rfl
    · rw [(hparams p (by simp)).trimStart_text.1]
      exact hread p (by simp)

/-- The record of a variant with the line that declares it. -/
def VariantRecord.member (s : Surface) (interface : String) (r : VariantRecord) : Member :=
  let fields := r.fields.map fun f => s!"{s.type f.type} {f.name}"
  ⟨recordWord, r.name, s!"public sealed record {r.name}({commas fields}) : {interface};"⟩

theorem memberOfLine?_record (s : Surface) (interface : String) {r : VariantRecord}
    (hname : IsPlain r.name) : memberOfLine? (r.member s interface).line =
      some (r.member s interface) := by
  have hwords : ∀ w ∈ [recordWord, r.name], IsPlain w := by
    simpa using ⟨by decide, hname⟩
  exact memberOfLine?_eq_some (declaredWords_eq ["public", "sealed"] [recordWord, r.name]
    ("(" ++ commas (r.fields.map fun f => s!"{s.type f.type} {f.name}") ++ ") : " ++
      interface ++ ";")
    (by simp [VariantRecord.member, recordWord, toString, ← String.toList_inj]) (by decide) hwords
    (by simp) (by simp; decide) (by simp [toString, headEnds])) (by decide)

variable {s : Surface}

theorem parametersOf_record (hs : s.IsPlain) (interface : String) {r : VariantRecord}
    (hname : IsPlain r.name) (hfields : ∀ f ∈ r.fields, IsPlain f.name) :
    parametersOf (r.member s interface).line = r.fields.map (·.name) := by
  have hopen : '(' ∉ (s!"public sealed record {r.name}").toList := by
    simp [toString, hname.notMem (c := '(') (by decide)]
  have hparams : ∀ p ∈ r.fields.map (fun f => (⟨s.type f.type, f.name⟩ : Parameter)),
      p.IsPlain := by
    intro p hp
    obtain ⟨f, hf, rfl⟩ := List.mem_map.mp hp
    exact ⟨hs.type_plain _, type_notMem_noTypes s _, type_ne_empty s _, hfields f hf⟩
  have htexts : (r.fields.map fun f => s!"{s.type f.type} {f.name}") =
      (r.fields.map fun f => (⟨s.type f.type, f.name⟩ : Parameter)).map Parameter.text := by
    rw [List.map_map]
    rfl
  have hline : (r.member s interface).line = s!"public sealed record {r.name}" ++ "(" ++
      commas ((r.fields.map fun f => (⟨s.type f.type, f.name⟩ : Parameter)).map Parameter.text) ++
      ")" ++ s!" : {interface};" := by
    rw [← htexts]
    simp [VariantRecord.member, toString, ← String.toList_inj]
  rw [parametersOf_eq hline hopen hparams, List.map_map]
  rfl

/-! ## Bodies -/

theorem declares_spaced_nil : Declares (spaced []) [] := declares_nil

theorem Declares.spaced_cons {code : List Code} {rest : List (List Code)}
    {names names' : List String} (h : Declares code names) (hrest : Declares (spaced rest) names') :
    Declares (spaced (code :: rest)) (names ++ names') := h.blank.append hrest

theorem Declares.spaced_append {a b : List (List Code)} {names names' : List String}
    (ha : Declares (spaced a) names) (hb : Declares (spaced b) names') :
    Declares (spaced (a ++ b)) (names ++ names') := by
  rw [Managed.spaced_append]
  exact ha.append hb

theorem Declares.spaced_map {α : Type} {f : α → List Code} {name : α → String} {as : List α}
    (h : ∀ a ∈ as, Declares (f a) [name a]) : Declares (spaced (as.map f)) (as.map name) := by
  rw [spaced, List.flatMap_map]
  exact Declares.flatMap fun a ha => (h a ha).blank

theorem declares_wrapper (hs : s.IsPlain) {w : Wrapper} (hname : IsPlain w.name)
    (hfree : w.name ∉ noTypes) (hproperties : ∀ p ∈ w.properties, IsPlain p.name)
    (hmethods : ∀ m ∈ w.methods, IsPlain m.name) :
    Declares (w.members s) (["_handle"] ++ (["FromHandle", "RawHandle", "Forget"] ++
      w.properties.map (·.name) ++ w.methods.map (·.name) ++ ["Dispose", "Free"])) := by
  have hmodifier : w.name ∉ memberModifiers := fun h => hfree (List.mem_append_left _ h)
  have hhandle : Declares (lines ["private readonly OwnedHandle _handle;"]) ["_handle"] :=
    declares_member ["private", "readonly"] "OwnedHandle" "_handle" [] ";" (by decide) (by decide)
      (by decide) (by decide) (by decide)
  have hmake : Declares [.line s!"public {w.name}{parameters w.params}"] [] :=
    declares_line (memberOfLine?_constructor ["public"] w.name (parameters w.params)
      (by simp [toString]) (by decide) hname hmodifier (by simp [parameters, headEnds]))
  have hwrap : Declares [.line s!"private {w.name}(OwnedHandle handle)"] [] :=
    declares_line (memberOfLine?_constructor ["private"] w.name "(OwnedHandle handle)"
      (by simp [toString]) (by decide) hname hmodifier (by decide))
  let owned := s!"new OwnedHandle(handle, Free, nameof({w.name}))"
  have hfromHandle : Declares
      (lines [s!"internal static {w.name} FromHandle(ulong handle) => new {w.name}({owned});"])
      ["FromHandle"] := by
    have hwords : ∀ v ∈ [w.name, "FromHandle"], IsPlain v := by
      simpa using ⟨hname, by decide⟩
    exact declares_member ["internal", "static"] w.name "FromHandle" []
      s!"(ulong handle) => new {w.name}({owned});"
      (by simp [← String.toList_inj, toString]) (by decide) hwords hfree
      (by simp [toString, headEnds])
  have hrawHandle : Declares (lines ["internal ulong RawHandle => _handle.Value;"]) ["RawHandle"] :=
    declares_member ["internal"] "ulong" "RawHandle" [""] "=> _handle.Value;" (by decide)
      (by decide) (by decide) (by decide) (by decide)
  have hforget : Declares [.line "internal void Forget()"] ["Forget"] :=
    declares_member ["internal"] "void" "Forget" [] "()" (by decide) (by decide) (by decide)
      (by decide) (by decide)
  have hdispose : Declares [.line "public void Dispose()"] ["Dispose"] :=
    declares_member ["public"] "void" "Dispose" [] "()" (by decide) (by decide) (by decide)
      (by decide) (by decide)
  have hfinalizer : Declares [.line s!"~{w.name}()"] [] := by
    have hmark : ∀ v ∈ memberModifiers, v.toList.head? ≠ some '~' := by decide
    refine declares_line (memberOfLine?_constructor [] ("~" ++ w.name) "()"
      (by simp [toString]) (by decide) (.append (by decide) hname) ?_ (by decide))
    intro hmem
    exact hmark _ hmem (by simp)
  have hfreeMethod : Declares [.line "private static void Free(ulong handle)"] ["Free"] :=
    declares_member ["private", "static"] "void" "Free" [] "(ulong handle)" (by decide) (by decide)
      (by decide) (by decide) (by decide)
  have hbody : Balanced (w.make.code s ++
      lines [s!"_handle = new OwnedHandle(__ret, Free, nameof({w.name}));"]) :=
    (w.make.balanced_code s).append (balanced_lines _)
  refine hhandle.append (.spaced_append (.spaced_append (.spaced_append ?front ?properties)
    ?methods) ?back)
  case front =>
    exact (hmake.declared hbody).spaced_cons <|
      (hwrap.declared (balanced_lines _)).spaced_cons <| hfromHandle.spaced_cons <|
      hrawHandle.spaced_cons <| (hforget.declared (balanced_lines _)).spaced_cons
      declares_spaced_nil
  case properties => exact .spaced_map fun p hp => declares_property hs (hproperties p hp)
  case methods => exact .spaced_map fun m hm => declares_method hs (hmethods m hm)
  case back =>
    exact (hdispose.declared (balanced_lines _)).spaced_cons <|
      (hfinalizer.declared (balanced_lines _)).spaced_cons <|
      (hfreeMethod.declared (balanced_freeBody _)).spaced_cons declares_spaced_nil

/-- The class of an enum has records besides the members that the others have. -/
theorem exists_enumClass_members (hs : s.IsPlain) {e : EnumClass}
    (hinterface : IsPlain (s.qualified e.interface)) (hmethods : ∀ m ∈ e.methods, IsPlain m.name) :
    ∃ rest, e.members s = e.records.map (·.code s (s.qualified e.interface)) ++ rest ∧
      Declares rest (["Decode", "Lower", "Free"] ++ e.methods.map (·.name)) := by
  have hdecode : Declares [.line s!"internal static {s.qualified e.interface} Decode(ulong handle)"]
      ["Decode"] := by
    have hwords : ∀ w ∈ [s.qualified e.interface, "Decode"], IsPlain w := by
      simpa using ⟨hinterface, by decide⟩
    exact declares_member ["internal", "static"] _ "Decode" [] "(ulong handle)"
      (by simp [toString, ← String.toList_inj]) (by decide) hwords
      (qualified_notMem_noTypes s _) (by decide)
  have hlower : Declares [.line s!"internal static ulong Lower({s.qualified e.interface} value)"]
      ["Lower"] :=
    declares_member ["internal", "static"] "ulong" "Lower" [] s!"({s.qualified e.interface} value)"
      (by simp [toString, ← String.toList_inj]) (by decide) (by decide) (by decide)
      (by simp [toString, headEnds])
  have hfree : Declares [.line "internal static void Free(ulong handle)"] ["Free"] :=
    declares_member ["internal", "static"] "void" "Free" [] "(ulong handle)" (by decide) (by decide)
      (by decide) (by decide) (by decide)
  refine ⟨_, rfl, .spaced_append ?_ (.spaced_map fun m hm => declares_method hs (hmethods m hm))⟩
  have hdecoding : Declares (e.decode s) ["Decode"] := by
    rw [EnumClass.decode_eq]
    exact hdecode.declared (e.balanced_decoding s)
  have hlowering : Declares (e.lower s) ["Lower"] := by
    rw [EnumClass.lower_eq]
    exact hlower.declared (e.balanced_lowering s)
  exact hdecoding.spaced_cons <| hlowering.spaced_cons <|
    (hfree.declared (balanced_freeBody _)).spaced_cons declares_spaced_nil

theorem declares_interspaced {α : Type} {f : α → List Code} {name : α → String} {as : List α}
    (h : ∀ a ∈ as, Declares (f a) [name a]) : Declares (interspaced (as.map f)) (as.map name) := by
  cases as with
  | nil => exact declares_nil
  | cons a rest => exact (h a (by simp)).append (.spaced_map fun b hb => h b (by simp [hb]))

end Boundary.Managed
