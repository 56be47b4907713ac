import Boundary.Json.Value

/-!
# Documents

The tree of a JSON text with the places of its parts. A text with a syntax error has a tree as far
as it can be read, so that a reader of the tree meets the first error in the order of the text.

* `Node`, `Items`, `Entries`: the tree.
* `Gap`: what a reader finds that leaves a container early.
* `Node.ofTokens`: the tree of the first value, and the tokens behind it.
* `Value.ofText`: the value of a whole text.
-/

namespace Boundary.Json

/-- A point inside an array, seen by a reader that wants to leave there. -/
structure Gap where
  /-- The place behind what is read in the attempt to leave. -/
  leave : Position
  /-- The place behind the closing bracket, or the error of the attempt. -/
  close : Except SyntaxError Position

mutual

/-- A value of a text with its places. -/
inductive Node
  /-- A value without parts, the place named by an error about its first character, and the place
  behind it. -/
  | scalar (value : Scalar) (head stop : Position)
  /-- An array: the place before it, the point behind its bracket, and its items. -/
  | array (start : Position) (enter : Gap) (items : Items)
  /-- An object: the place before it, the place of a reader that leaves it at once, and its
  members. -/
  | object (start leave : Position) (entries : Entries)
  /-- A value that cannot be read. -/
  | broken (error : SyntaxError)

/-- The items of an array. -/
inductive Items
  /-- The end of the items: the place behind the array, or why there is no further item. -/
  | done (close : Except SyntaxError Position)
  /-- An item, the point behind it, and the items that follow. -/
  | item (node : Node) (gap : Gap) (rest : Items)

/-- The members of an object. -/
inductive Entries
  /-- The end of the members: the place behind the object, or why there is no further member. -/
  | done (close : Except SyntaxError Position)
  /-- A name, the place of a reader that leaves behind it, the value, the place of a reader that
  leaves behind that, and what follows. -/
  | entry (key : String) (leave : Position) (node : Node) (after : Position) (rest : Entries)

end

/-! ## From tokens to the tree -/

/-- A container under way, its parts reversed. -/
inductive Frame
  | array (start : Position) (enter : Gap) (items : List (Node × Gap))
  | object (start leave : Position) (entries : List (String × Position × Node × Position))
      (key : String) (keyLeave : Position)

/-- What may come next. -/
inductive Want
  | value
  | firstItem
  | more
  | firstKey
  | key
  | colon
deriving DecidableEq

/-- The point before the tokens, for a reader that wants to leave an array. -/
def Tokens.gap : Tokens → Gap
  | .finish p => ⟨p, .error ⟨.endInArray, p⟩⟩
  | .stray p head => ⟨p, .error ⟨.trailingCharacters, head⟩⟩
  | .token t rest =>
    match t.kind with
    | .closeArray => ⟨t.stop, .ok t.stop⟩
    | .comma =>
      match rest with
      | .token t' _ =>
        match t'.kind with
        | .closeArray => ⟨t'.start, .error ⟨.trailingComma, t'.head⟩⟩
        | _ => ⟨t'.start, .error ⟨.trailingCharacters, t'.head⟩⟩
      | .stray p head => ⟨p, .error ⟨.trailingCharacters, head⟩⟩
      | .finish p => ⟨p, .error ⟨.trailingCharacters, p⟩⟩
    | _ => ⟨t.start, .error ⟨.trailingCharacters, t.head⟩⟩

/-- The place of a reader that wants to leave an object before the tokens. -/
def Tokens.leave : Tokens → Position
  | .finish p => p
  | .stray p _ => p
  | .token t _ =>
    match t.kind with
    | .closeObject => t.stop
    | _ => t.start

/-- The container of a frame, closed as given. -/
def Frame.close (f : Frame) (close : Except SyntaxError Position) : Node :=
  match f with
  | .array start enter items =>
    .array start enter (items.foldl (fun rest (n, g) => .item n g rest) (.done close))
  | .object start leave entries _ _ =>
    .object start leave (entries.foldl (fun rest (k, p, n, q) => .entry k p n q rest) (.done close))

/-- The frame with one more part; behind it, an array is left at `gap` and an object at `after`. -/
def Frame.add (f : Frame) (n : Node) (gap : Gap) (after : Position) : Frame :=
  match f with
  | .array start enter items => .array start enter ((n, gap) :: items)
  | .object start leave entries key keyLeave =>
    .object start leave ((key, keyLeave, n, after) :: entries) key keyLeave

/-- The frame with a last part inside which reading fails. -/
def Frame.fail (f : Frame) (n : Node) (e : SyntaxError) : Node :=
  (f.add n ⟨e.position, .error e⟩ e.position).close (.error e)

/-- The tree of a text whose reading fails where a value is due. -/
def abandonValue (stack : List Frame) (e : SyntaxError) : Node :=
  stack.foldl (fun n f => f.fail n e) (.broken e)

/-- The tree of a text whose reading fails inside the innermost container. -/
def abandon (stack : List Frame) (e : SyntaxError) : Node :=
  match stack with
  | [] => .broken e
  | f :: outer =>
    outer.foldl (fun n f => f.fail n e) (f.close (.error e))

/-- The cause of a failure to find what is wanted, at the end of the text or before a token. -/
def Want.causeAtEnd (want : Want) (stack : List Frame) : SyntaxCause :=
  match want, stack with
  | .value, _ => .endInValue
  | .key, _ => .endInValue
  | .firstItem, _ => .endInArray
  | .firstKey, _ => .endInObject
  | .colon, _ => .endInObject
  | .more, .array .. :: _ => .endInArray
  | .more, _ => .endInObject

/-- The cause of a failure to find what is wanted before something else. -/
def Want.causeBefore (want : Want) (stack : List Frame) : SyntaxCause :=
  match want, stack with
  | .value, _ => .expectedValue
  | .firstItem, _ => .expectedValue
  | .key, _ => .keyNotString
  | .firstKey, _ => .keyNotString
  | .colon, _ => .expectedColon
  | .more, .array .. :: _ => .expectedCommaOrBracket
  | .more, _ => .expectedCommaOrBrace

/-- The tree of a text whose reading fails where `want` is due. -/
def Want.abandon (want : Want) (stack : List Frame) (e : SyntaxError) : Node :=
  match want with
  | .value | .colon => abandonValue stack e
  | _ => Json.abandon stack e

/-- The deepest nesting of containers. -/
def depthLimit : Nat := 127

/-- The tree of the value under way, and the tokens behind it. -/
def build (stack : List Frame) (want : Want) : Tokens → Node × Tokens
  | .finish p => (want.abandon stack ⟨want.causeAtEnd stack, p⟩, .finish p)
  | .stray p head => (want.abandon stack ⟨want.causeBefore stack, head⟩, .stray p head)
  | .token t rest =>
    let refuse (cause : SyntaxCause) := (want.abandon stack ⟨cause, t.head⟩, Tokens.token t rest)
    let otherwise := refuse (want.causeBefore stack)
    let settle (stack : List Frame) (n : Node) : Node × Tokens :=
      match stack with
      | [] => (n, rest)
      | f :: outer => build (f.add n rest.gap rest.leave :: outer) .more rest
    let scalar (s : Except SyntaxError Scalar) : Node × Tokens :=
      match s with
      | .ok v => settle stack (.scalar v t.head t.stop)
      | .error e => (abandonValue stack e, rest)
    match want, t.kind with
    | .firstItem, .closeArray | .firstKey, .closeObject =>
      match stack with
      | f :: outer => settle outer (f.close (.ok t.stop))
      | [] => otherwise
    | .value, .closeArray =>
      match stack with
      | .array .. :: _ => (Json.abandon stack ⟨.trailingComma, t.head⟩, .token t rest)
      | _ => otherwise
    | .value, .scalar s | .firstItem, .scalar s => scalar s
    | .value, .string s | .firstItem, .string s => scalar (s.map .string)
    | .value, .openArray | .firstItem, .openArray =>
      if depthLimit ≤ stack.length then (abandonValue stack ⟨.tooDeep, t.head⟩, rest)
      else build (.array t.start rest.gap [] :: stack) .firstItem rest
    | .value, .openObject | .firstItem, .openObject =>
      if depthLimit ≤ stack.length then (abandonValue stack ⟨.tooDeep, t.head⟩, rest)
      else build (.object t.start rest.leave [] "" t.stop :: stack) .firstKey rest
    | .more, .comma =>
      match stack with
      | .array .. :: _ => build stack .value rest
      | _ => build stack .key rest
    | .more, .closeArray =>
      match stack with
      | .array start enter items :: outer =>
        settle outer (Frame.close (.array start enter items) (.ok t.stop))
      | _ => otherwise
    | .more, .closeObject =>
      match stack with
      | .object start leave entries k p :: outer =>
        settle outer (Frame.close (.object start leave entries k p) (.ok t.stop))
      | _ => otherwise
    | .key, .closeObject => refuse .trailingComma
    | .firstKey, .string s | .key, .string s =>
      match s, stack with
      | .ok k, .object start leave entries _ _ :: outer =>
        build (.object start leave entries k rest.leave :: outer) .colon rest
      | .error e, _ => (want.abandon stack e, rest)
      | _, _ => otherwise
    | .colon, .colon => build stack .value rest
    | _, _ => otherwise

/-- The tree of the first value of the tokens, and the tokens behind it. -/
def Node.ofTokens (ts : Tokens) : Node × Tokens := build [] .value ts

/-! ## From the tree to the value -/

/-- A scalar as a value. -/
def Scalar.value : Scalar → Value
  | .null => .null
  | .bool b => .bool b
  | .number n => .number n
  | .string s => .string s

mutual

/-- The value of a tree, or its first error. -/
def Node.value : Node → Except SyntaxError Value
  | .scalar v _ _ => .ok v.value
  | .array _ _ items => items.values.map .array
  | .object _ _ entries => (entries.members []).map .object
  | .broken e => .error e

/-- The values of items. -/
def Items.values : Items → Except SyntaxError (List Value)
  | .done close => close.map fun _ => []
  | .item n _ rest => do
    let v ← n.value
    let vs ← rest.values
    return v :: vs

/-- The members of an object, put one after the other to those before. -/
def Entries.members (before : Members) : Entries → Except SyntaxError Members
  | .done close => close.map fun _ => before
  | .entry k _ n _ rest => do
    let v ← n.value
    rest.members (Members.put k v before)

end

/-- What stands behind the value of a text must be nothing. -/
def Tokens.checkEnd : Tokens → Except SyntaxError Unit
  | .finish _ => .ok ()
  | .stray _ head => .error ⟨.trailingCharacters, head⟩
  | .token t _ => .error ⟨.trailingCharacters, t.head⟩

/-- The value of a whole text. -/
def Value.ofText (s : String) : Except SyntaxError Value := do
  let (node, rest) := Node.ofTokens (Tokens.ofText s)
  let v ← node.value
  rest.checkEnd
  return v

end Boundary.Json
