import Boundary.Json.Shape

/-!
# Reading documents with places

Readers of a tree with places stop at the first fault in the order of the text, whether it is one
of syntax or one of shape.

* `ReadError`: a fault with its place.
* `Node.string`, `Node.string?`: a text, and a text or `null`.
* `NodeField`, `Node.record`: records all of whose fields may be missing, and that have no other
  members.
-/

namespace Boundary.Json

/-- Why a document cannot be read. -/
inductive ReadError
  | syntaxError (error : SyntaxError)
  | shape (error : ShapeError) (position : Position)
deriving Repr, DecidableEq

/-- The wording of a fault. -/
def ReadError.message : ReadError → String
  | .syntaxError e => e.message
  | .shape e p => p.locate e.message

/-- A fault at a path of the document. -/
structure PathError where
  path : Path
  error : ReadError
deriving Repr, DecidableEq

/-- A fault as a message at a path. -/
def PathError.located (e : PathError) : Located := ⟨e.path, e.error.message⟩

/-- What a node is found to be by a reader that expects something else. -/
def Node.refusal (n : Node) (expected : String) : ReadError :=
  match n with
  | .scalar v _ stop => .shape (.invalidType v.found expected) stop
  | .array start _ _ => .shape (.invalidType .sequence expected) start
  | .object start _ _ => .shape (.invalidType .map expected) start
  | .broken e => .syntaxError e

/-- A text. -/
def Node.string : Node → Except ReadError String
  | .scalar (.string s) _ _ => .ok s
  | n => .error (n.refusal "a string")

/-- A text or `null`. -/
def Node.string? : Node → Except ReadError (Option String)
  | .scalar .null _ _ => .ok none
  | n => n.string.map some

/-! ## Records -/

/-- A field of a record that is drafted as `δ`. -/
structure NodeField (δ : Type) where
  name : String
  set : δ → Node → Except ReadError δ

/-- The members of a record, where the fields in `seen` are read already. -/
def Entries.record {δ : Type} (fields : List (NodeField δ)) (seen : List String) (draft : δ) :
    Entries → Except PathError δ
  | .done (.ok _) => .ok draft
  | .done (.error e) => .error ⟨[.unknown], .syntaxError e⟩
  | .entry key leave node _ rest =>
    match fields.find? (·.name = key) with
    | none => .error ⟨[.key key], .shape (.unknownField key (fields.map (·.name))) leave⟩
    | some field =>
      if seen.contains key then .error ⟨[], .shape (.duplicateField key) leave⟩
      else do
        let draft ← (field.set draft node).mapError fun e => ⟨[.key key], e⟩
        rest.record fields (key :: seen) draft

/-- The fields of a record that is written as an array, from the field number `n` on, where
`close` says how the array ends at this point. -/
def Items.record {δ : Type} (n : Nat) (close : Except SyntaxError Position) (draft : δ) :
    List (NodeField δ) → Items → Except PathError δ
  | [], _ =>
    match close with
    | .ok _ => .ok draft
    | .error e => .error ⟨[], .syntaxError e⟩
  | _ :: _, .done (.ok _) => .ok draft
  | _ :: _, .done (.error e) => .error ⟨[.index n], .syntaxError e⟩
  | field :: fields, .item node gap rest => do
    let draft ← (field.set draft node).mapError fun e => ⟨[.index n], e⟩
    Items.record (n + 1) gap.close draft fields rest

/-- A record that is described as `what`. -/
def Node.record {δ : Type} (what : String) (fields : List (NodeField δ)) (draft : δ) :
    Node → Except PathError δ
  | .object _ _ entries => entries.record fields [] draft
  | .array _ enter items => Items.record 0 enter.close draft fields items
  | n => .error ⟨[], n.refusal what⟩

end Boundary.Json
