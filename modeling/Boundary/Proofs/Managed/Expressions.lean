import Boundary.Proofs.Managed.Support
import Boundary.Proofs.Managed.Types

/-!
# Expressions in managed files

What stands around the call of an entry point takes one line, and an argument of a call stays one
argument whatever becomes of it.

* `Surface.IsOneLine`: how managed source refers to types takes no line feeds.
* `oneLine_liftForm`, `oneLine_readForm`: results and errors.
* `Inline`, `Argument.Readable`, `inline_argument`: arguments.
* `unread_setup`: the statements before a call.
-/

namespace Boundary.Managed

open Source Text

/-! ## Types -/

/-- How managed source refers to types takes no line feeds. -/
structure Surface.IsOneLine (s : Surface) : Prop where
  space : OneLine s.managedNamespace
  typeName : ∀ id, OneLine (s.typeName id)
  managed : ∀ id, OneLine (Naming.pascal (s.typeName id))

variable {s : Surface}

theorem oneLine_typeParts : ∀ w ∈ typeParts, OneLine w := by decide

theorem Surface.IsOneLine.qualified (hs : s.IsOneLine) {name : String} (h : OneLine name) :
    OneLine (s.qualified name) :=
  Surface.forall_qualified (fun _ _ => .append) oneLine_typeParts hs.space h

theorem Surface.IsOneLine.classOf (hs : s.IsOneLine) (id : TypeId) : OneLine (s.classOf id) :=
  Surface.forall_classOf (fun _ _ => .append) oneLine_typeParts hs.space hs.managed id

theorem Surface.IsOneLine.type (hs : s.IsOneLine) (t : TypeRef) : OneLine (s.type t) :=
  Surface.forall_type (fun _ _ => .append) oneLine_typeParts hs.space hs.managed t

theorem startsOther_type (t : TypeRef) : StartsOther '=' (s.type t) := by
  induction t with
  | primitive p => cases p <;> exact .ofList (by decide)
  | handle id =>
    exact ((StartsOther.append (.ofList (by decide)) _).append _).append _
  | option inner ih => exact ih.append _
  | result ok err ihok _ => exact ihok
  | unit | str | unsupported _ => exact .ofList (by decide)

/-! ## Results -/

theorem oneLine_ofHandle (hs : s.IsOneLine) (id : TypeId) {handle : String} (h : OneLine handle) :
    OneLine (s.ofHandle id handle) := by
  have hmethod : OneLine (if s.isEnum id then "Decode(" else "FromHandle(") := by
    split <;> exact .ofList (by decide)
  exact ((((hs.classOf id).append (.ofList (by decide))).append hmethod).append h).append
    (.ofList (by decide))

theorem oneLine_liftForm (hs : s.IsOneLine) (l : LiftForm) {value : String} (h : OneLine value) :
    OneLine (l.expr s value) := by
  induction l generalizing value with
  | same => exact h
  | bool => exact h.append (.ofList (by decide))
  | text => exact ((OneLine.ofList (by decide)).append h).append (.ofList (by decide))
  | handle id => exact oneLine_ofHandle hs id h
  | option type inner ih =>
    exact ((((h.append (.ofList (by decide))).append (hs.type type)).append
      (.ofList (by decide))).append (ih (h.append (.ofList (by decide))))).append
      (.ofList (by decide))

/-- A lifted value starts like the flat one, with a function of support code or with a class. -/
theorem startsOther_liftForm {sign : Char} (hsupport : 'F' ≠ sign) (hclass : 'g' ≠ sign)
    (l : LiftForm) {value : String} (h : StartsOther sign value) :
    StartsOther sign (l.expr s value) := by
  cases l with
  | same => exact h
  | bool => exact h.append _
  | text => exact (StartsOther.append (.ofList hsupport) _).append _
  | handle id =>
    exact ((((((StartsOther.append (.ofList hclass) _).append _).append _).append _).append
      _).append _).append _
  | option type inner => exact ((((h.append _).append _).append _).append _).append _

theorem oneLine_readForm (hs : s.IsOneLine) (r : ReadForm) {reader : String} (h : OneLine reader) :
    OneLine (r.expr s reader) := by
  induction r with
  | nothing => exact .ofList (by decide)
  | primitive p =>
    have hname : OneLine (Naming.pascal p.name) := by
      cases p <;> exact oneLine_of_isWord (Naming.isWord_pascal (by decide))
    exact ((h.append (.ofList (by decide))).append hname).append (.ofList (by decide))
  | text => exact h.append (.ofList (by decide))
  | handle id => exact oneLine_ofHandle hs id (h.append (.ofList (by decide)))
  | option type inner ih =>
    exact ((((h.append (.ofList (by decide))).append (hs.type type)).append
      (.ofList (by decide))).append ih).append (.ofList (by decide))

/-! ## Arguments -/

/-- A text that stays in one argument, on one line. -/
structure Inline (t : String) : Prop where
  closed : Closed t
  oneLine : OneLine t

theorem Inline.append {a b : String} (ha : Inline a) (hb : Inline b) : Inline (a ++ b) :=
  ⟨ha.closed.append hb.closed, ha.oneLine.append hb.oneLine⟩

theorem Inline.ofList {cs : List Char} (h : ∀ c ∈ cs, c ∉ '\n' :: listSigns) :
    Inline (String.ofList cs) :=
  ⟨.ofList fun c hc hmem => h c hc (List.mem_cons_of_mem _ hmem),
    .ofList fun hmem => h _ hmem (by simp)⟩

theorem inline_of_isWord {t : String} (h : Naming.IsWord t) : Inline t :=
  ⟨closed_of_isWord h, oneLine_of_isWord h⟩

/-- What stands between brackets stays in one argument. -/
theorem Inline.brackets {t : String} (h : Enclosed t) (hline : OneLine t) {front back : String}
    {open_ close : Char} (hfront : front = String.ofList [open_]) (hopen : open_ ∈ opening)
    (hback : back = String.ofList [close]) (hclose : close ∈ closing) :
    Inline (front ++ t ++ back) := by
  have hsigns : '\n' ∉ opening ++ closing := by decide
  rw [List.mem_append, not_or] at hsigns
  have hsign {c : Char} (hc : c ≠ '\n') : OneLine (String.ofList [c]) :=
    .ofList (by simpa using Ne.symm hc)
  subst hfront hback
  exact ⟨h.brackets hopen hclose,
    ((hsign (ne_of_mem_of_not_mem hopen hsigns.1)).append hline).append
    (hsign (ne_of_mem_of_not_mem hclose hsigns.2))⟩

theorem Inline.enclosed {t : String} (h : Inline t) : Enclosed t := h.closed.enclosed

private theorem inline_byteOf {source : String} (h : Inline source) : Inline (byteOf source) := by
  have hword : Inline "byte" := .ofList (by decide)
  have hbyte : Inline ("(" ++ "byte" ++ ")") :=
    .brackets hword.enclosed hword.oneLine rfl (by decide) rfl (by decide)
  have htext : " ? (byte)1 : (byte)0" =
      " ? " ++ ("(" ++ "byte" ++ ")") ++ "1 : " ++ ("(" ++ "byte" ++ ")") ++ "0" := rfl
  have hchoice : Inline " ? (byte)1 : (byte)0" := by
    rw [htext]
    exact ((((Inline.ofList (by decide)).append hbyte).append (.ofList (by decide))).append
      hbyte).append (.ofList (by decide))
  exact h.append hchoice

theorem inline_presentOption (type : FlatType) {value : String} (h : Inline value) :
    Inline (presentOption type value) := by
  have hfront : " \x7b Present = 1, Value = " =
      " " ++ ("\x7b" ++ (" Present = 1" ++ "," ++ " Value = ")) := rfl
  have hback : " \x7d" = " " ++ "\x7d" := rfl
  have htext : presentOption type value = "new " ++ type.managed ++ " "
      ++ ("\x7b" ++ (" Present = 1" ++ "," ++ " Value = " ++ value ++ " ") ++ "\x7d") := by
    show "new " ++ type.managed ++ " \x7b Present = 1, Value = " ++ value ++ " \x7d" = _
    rw [hfront, hback]
    simp only [String.append_assoc]
  have hinside : Enclosed (" Present = 1" ++ "," ++ " Value = " ++ value ++ " ") :=
    ((((Closed.ofList (by decide)).enclosed.append enclosed_comma).append
      (Closed.ofList (by decide)).enclosed).append h.enclosed).append
        (Closed.ofList (by decide)).enclosed
  have hline : OneLine (" Present = 1" ++ "," ++ " Value = " ++ value ++ " ") :=
    ((((OneLine.ofList (by decide)).append (.ofList (by decide))).append
      (.ofList (by decide))).append h.oneLine).append (.ofList (by decide))
  rw [htext]
  exact (((Inline.ofList (by decide)).append (inline_of_isWord (isWord_managed type))).append
    (.ofList (by decide))).append (.brackets hinside hline rfl (by decide) rfl (by decide))

/-- An argument whose names can be read. -/
structure Argument.Readable (a : Argument) : Prop where
  source : Inline a.source
  temporary : Naming.IsWord a.temporary

private theorem inline_optionOfValue (type : FlatType) {a : Argument} (ha : a.Readable)
    {value : String} (h : Inline value) : Inline (optionOfValue type a value) := by
  have hblank : Inline " " := .ofList (by decide)
  have hbraces : Inline ("\x7b" ++ " " ++ "\x7d") :=
    .brackets hblank.enclosed hblank.oneLine rfl (by decide) rfl (by decide)
  have htext : " is \x7b \x7d " = " is " ++ ("\x7b" ++ " " ++ "\x7d") ++ " " := rfl
  have htest : Inline " is \x7b \x7d " := by
    rw [htext]
    exact ((Inline.ofList (by decide)).append hbraces).append (.ofList (by decide))
  exact ((((ha.source.append htest).append (inline_of_isWord ha.temporary)).append
    (.ofList (by decide))).append (inline_presentOption type h)).append (.ofList (by decide))

private theorem inline_optionUnlessNull (type : FlatType) {source value : String}
    (hsource : Inline source) (h : Inline value) : Inline (optionUnlessNull type source value) :=
  (hsource.append (.ofList (by decide))).append (inline_presentOption type h)

/-- Whatever becomes of an argument, it stays one argument. -/
theorem inline_argument {a : Argument} (ha : a.Readable) : Inline a.expr := by
  have htemporary := inline_of_isWord ha.temporary
  unfold Argument.expr
  split
  · exact ha.source
  · exact inline_byteOf ha.source
  · exact htemporary.append (.ofList (by decide))
  · exact htemporary.append (.ofList (by decide))
  · exact ha.source.append (.ofList (by decide))
  · exact .ofList (by decide)
  · exact inline_optionOfValue _ ha htemporary
  · exact inline_optionOfValue _ ha (inline_byteOf htemporary)
  · exact inline_optionUnlessNull _ ha.source (ha.source.append (.ofList (by decide)))
  · exact inline_optionUnlessNull _ htemporary (htemporary.append (.ofList (by decide)))
  · exact inline_optionUnlessNull _ htemporary (htemporary.append (.ofList (by decide)))

private theorem unread_bindTemporary {a : Argument} (ha : a.Readable) {value : String}
    (h : OneLine value) : Unread markOf? (bindTemporary a value) :=
  ((((unread_ofList (by decide) (by decide)).append (oneLine_of_isWord ha.temporary)).append
    (.ofList (by decide))).append h).append (.ofList (by decide))

private theorem oneLine_enumTemporary (hs : s.IsOneLine) (id : TypeId) {source : String}
    (h : OneLine source) : OneLine (enumTemporary s id source) :=
  ((((((((OneLine.ofList (by decide)).append (hs.classOf id)).append (.ofList (by decide))).append
    h).append (.ofList (by decide))).append (hs.classOf id)).append (.ofList (by decide))).append
      (hs.typeName id)).append (.ofList (by decide))

theorem unread_setup (hs : s.IsOneLine) {a : Argument} (ha : a.Readable) :
    ∀ text ∈ a.setup s, Unread markOf? text := by
  have hsource := ha.source.oneLine
  have htext : OneLine (textTemporary a.source) :=
    ((OneLine.ofList (by decide)).append hsource).append (.ofList (by decide))
  have hnullable {value : String} (h : OneLine value) : OneLine (nullable a.source value) :=
    (hsource.append (.ofList (by decide))).append h
  unfold Argument.setup
  split
  · simpa using unread_bindTemporary ha htext
  · simpa using unread_bindTemporary ha (oneLine_enumTemporary hs _ hsource)
  · simpa using unread_bindTemporary ha (hnullable htext)
  · simpa using unread_bindTemporary ha (hnullable (oneLine_enumTemporary hs _ hsource))
  · simp

end Boundary.Managed
