import Boundary.Text.Split

/-!
# Paths of files

A path is the text under which a file is asked for. Empty parts and points in it count for nothing,
a point at the start of a relative path apart.

* `FilePath.components`: what a path consists of.
* `FilePath.steps`: what is done to follow a path.
* `FilePath.parent?`, `FilePath.name?`: all but the last component, and the last component if it is
  a name.
* `FilePath.join`, `FilePath.sibling`: the path of a file in a directory, and beside another file.
* `FilePath.le`: paths in the order of their components.
-/

namespace Boundary

/-- The `text` under which a file is asked for. -/
structure FilePath where
  text : String
deriving Repr, DecidableEq, Inhabited

/-- A component of a `FilePath`. -/
inductive PathComponent
  | root
  | here
  | up
  | name (s : String)
deriving Repr, DecidableEq

/-- The text of a `PathComponent`. -/
def PathComponent.text : PathComponent → String
  | .root => "/"
  | .here => "."
  | .up => ".."
  | .name s => s

/-- The place of a component in the order of components. -/
def PathComponent.rank : PathComponent → Nat
  | .root => 0
  | .here => 1
  | .up => 2
  | .name _ => 3

/-- Whether a component stands before another one. Names are in the order of their texts. -/
def PathComponent.lt (a b : PathComponent) : Bool :=
  match a, b with
  | .name s, .name t => s < t
  | a, b => a.rank < b.rank

namespace FilePath

/-- The parts of the text of `p` between slashes. -/
def parts (p : FilePath) : List String := Text.split '/' p.text

/-- The component that `part` stands for, if any. -/
def componentOf? (part : String) : Option PathComponent :=
  match part with
  | "" | "." => none
  | ".." => some .up
  | s => some (.name s)

/-- What the path `p` consists of: a start by the first part, and a component for each part that has
one. -/
def components (p : FilePath) : List PathComponent :=
  let first : List PathComponent := match p.parts with
    | "" :: _ :: _ => [.root]
    | "." :: _ => [.here]
    | _ => []
  first ++ p.parts.filterMap componentOf?

/-- Whether the path `p` starts at the root. -/
def isAbsolute (p : FilePath) : Bool := p.components.head? = some .root

/-- The component that `part` stands for when a path is followed. Other than for `componentOf?` a
point counts: what stands before it has to be a directory. -/
def stepOf? (part : String) : Option PathComponent :=
  match part with
  | "" => none
  | "." => some .here
  | ".." => some .up
  | s => some (.name s)

/-- What is done, one after the other, to follow the path `p`. -/
def steps (p : FilePath) : List PathComponent :=
  (if p.isAbsolute then [.root] else []) ++ p.parts.filterMap stepOf?

/-- Whether `p` and `q` have the same `components`. -/
def same (p q : FilePath) : Bool := p.components = q.components

/-- Whether a list of components stands before another one by `PathComponent.lt`, or is the same. -/
def componentsLe : List PathComponent → List PathComponent → Bool
  | [], _ => true
  | _ :: _, [] => false
  | a :: as, b :: bs => a.lt b || (a = b && componentsLe as bs)

/-- The order of paths, by their `components`. -/
def le (p q : FilePath) : Bool := componentsLe p.components q.components

/-- The path of `name` in `directory`. If `name` starts at the root it is a path of its own. -/
def join (directory : FilePath) (name : String) : FilePath :=
  if (FilePath.mk name).isAbsolute then ⟨name⟩
  else if directory.text = "" || directory.text.endsWith "/" then ⟨directory.text ++ name⟩
  else ⟨directory.text ++ "/" ++ name⟩

/-- The path that the given components make up. -/
def ofComponents : List PathComponent → FilePath
  | .root :: rest => ⟨"/" ++ "/".intercalate (rest.map (·.text))⟩
  | cs => ⟨"/".intercalate (cs.map (·.text))⟩

/-- The path `p` without its last component; the root and the empty path have no parent. -/
def parent? (p : FilePath) : Option FilePath :=
  match p.components with
  | [] | [.root] => none
  | cs => some (ofComponents cs.dropLast)

/-- The last component of `p` if it is a name. -/
def name? (p : FilePath) : Option String :=
  match p.components.getLast? with
  | some (.name s) => some s
  | _ => none

/-- The path of the file beside `p` whose name has `ending` in addition. -/
def sibling (p : FilePath) (ending : String) : FilePath :=
  match p.name? with
  | some name => (p.parent?.getD ⟨""⟩).join (name ++ ending)
  | none => p.join ending

end FilePath

end Boundary
