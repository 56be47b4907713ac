import Boundary.Query
import Boundary.Query.Token

/-!
# Reading queries

The operators bind in this order, from the loosest: `|`, `,`, `//`, `or`, `and`, the comparisons,
and `+` and `-`. Behind a term stand the steps to its parts.

* `QueryInfix`, `QueryInfix.ofToken?`: the operators between two queries.
* `Query.ofCall`: the query that a name with arguments stands for.
* `Query.ofText?`: the query that is written in a text.
* `runQuery`: the results of a written query.
-/

namespace Boundary

open Json

/-- An operator between two queries other than `|`. -/
structure QueryInfix where
  /-- How tightly it binds. -/
  level : Nat
  join : Query → Query → Query

/-- The operator that a token stands for. -/
def QueryInfix.ofToken? : QueryToken → Option QueryInfix
  | .mark "," => some ⟨1, .comma⟩
  | .mark "//" => some ⟨2, .otherwise⟩
  | .word "or" => some ⟨3, .either⟩
  | .word "and" => some ⟨4, .both⟩
  | .mark "==" => some ⟨5, .operate .equal⟩
  | .mark "!=" => some ⟨5, .operate .notEqual⟩
  | .mark "<" => some ⟨6, .operate .less⟩
  | .mark "<=" => some ⟨6, .operate .lessOrEqual⟩
  | .mark ">" => some ⟨6, .operate .greater⟩
  | .mark ">=" => some ⟨6, .operate .greaterOrEqual⟩
  | .mark "+" => some ⟨7, .operate .plus⟩
  | .mark "-" => some ⟨7, .operate .minus⟩
  | _ => none

/-- The words that are no names of functions. -/
def queryKeywords : List String :=
  ["def", "if", "then", "elif", "else", "end", "try", "catch", "label", "import", "include",
    "reduce", "foreach", "as", "and", "or", "__loc__"]

/-- The query that a name with arguments stands for. -/
def Query.ofCall (name : String) (args : List Query) : Query :=
  match name, args with
  | "empty", [] => .empty
  | "null", [] => .literal .null
  | "true", [] => .literal (.bool true)
  | "false", [] => .literal (.bool false)
  | "not", [] => .builtin .not
  | "length", [] => .builtin .length
  | "keys", [] => .builtin .keys
  | "reverse", [] => .builtin .reverse
  | "error", [] => .builtin .error
  | "error", [f] => .pipe f (.builtin .error)
  | "select", [f] => .cond f .identity .empty
  | "map", [f] => .collect (.pipe (.iterate .identity false) f)
  | name, _ => .undefined name

/-- The member of that name of a query's results. -/
def Query.memberOf (target : Query) (name : String) : Query :=
  .index target (.literal (.string name)) false

/-- The query whose last step has no faults. -/
def Query.optional : Query → Query
  | .index target key _ => .index target key true
  | .slice target first last _ => .slice target first last true
  | .iterate target _ => .iterate target true
  | q => .attempt q

/-- The sum of some objects. -/
def Query.objects : List Query → Query
  | [] => .literal (.object [])
  | q :: rest => rest.foldl (.operate .plus) q

/-- A query with the tokens behind it. -/
abbrev Reading := Option (Query × List QueryToken)

mutual

/-- A query whose operators are at least as tight as `level`, or such queries with `|` between
them. The first argument bounds the depth. -/
def readPipe : Nat → Nat → List QueryToken → Reading
  | 0, _, _ => none
  | n + 1, level, ts => do
    match ← readChain n level ts with
    | (l, .mark "|" :: ts) => do
      let (r, ts) ← readPipe n level ts
      some (.pipe l r, ts)
    | found => some found

/-- A query whose operators are at least as tight as `level`. -/
def readChain : Nat → Nat → List QueryToken → Reading
  | 0, _, _ => none
  | n + 1, level, ts => do
    let (l, ts) ← readSuffixed n ts
    readOperators n level l ts

/-- The operators at least as tight as `level` behind a query. -/
def readOperators : Nat → Nat → Query → List QueryToken → Reading
  | 0, _, _, _ => none
  | _, _, l, [] => some (l, [])
  | n + 1, level, l, t :: ts =>
    match QueryInfix.ofToken? t with
    | none => some (l, t :: ts)
    | some o =>
      if level ≤ o.level then do
        let (r, ts) ← readChain n (o.level + 1) ts
        readOperators n level (o.join l r) ts
      else some (l, t :: ts)

/-- A term with the steps behind it. -/
def readSuffixed : Nat → List QueryToken → Reading
  | 0, _ => none
  | n + 1, ts => do
    let (q, ts) ← readTerm n ts
    readSuffixes n q ts

/-- The steps behind a term. -/
def readSuffixes : Nat → Query → List QueryToken → Reading
  | 0, _, _ => none
  | n + 1, q, ts =>
    match ts with
    | .mark "?" :: ts => readSuffixes n q.optional ts
    | .member name :: ts => readSuffixes n (q.memberOf name) ts
    | .mark "." :: .text name :: ts => readSuffixes n (q.memberOf name) ts
    | .mark "." :: .mark "[" :: ts => readBracket n q ts
    | .mark "[" :: ts => readBracket n q ts
    | ts => some (q, ts)

/-- A step from behind its opening bracket, and the steps behind it. -/
def readBracket : Nat → Query → List QueryToken → Reading
  | 0, _, _ => none
  | n + 1, q, ts =>
    match ts with
    | .mark "]" :: ts => readSuffixes n (.iterate q false) ts
    | .mark ":" :: ts => do
      match ← readPipe n 1 ts with
      | (last, .mark "]" :: ts) => readSuffixes n (.slice q (.literal .null) last false) ts
      | _ => none
    | ts => do
      match ← readPipe n 1 ts with
      | (key, .mark "]" :: ts) => readSuffixes n (.index q key false) ts
      | (first, .mark ":" :: .mark "]" :: ts) =>
        readSuffixes n (.slice q first (.literal .null) false) ts
      | (first, .mark ":" :: ts) => do
        match ← readPipe n 1 ts with
        | (last, .mark "]" :: ts) => readSuffixes n (.slice q first last false) ts
        | _ => none
      | _ => none

/-- A term. -/
def readTerm : Nat → List QueryToken → Reading
  | 0, _ => none
  | n + 1, ts =>
    match ts with
    | .mark "." :: .text name :: ts => some (Query.identity.memberOf name, ts)
    | .mark "." :: ts => some (.identity, ts)
    | .mark ".." :: ts => some (.everything, ts)
    | .member name :: ts => some (Query.identity.memberOf name, ts)
    | .number (some x) :: ts => some (.literal (.number x), ts)
    | .number none :: ts => some (.unbounded, ts)
    | .text s :: ts => some (.literal (.string s), ts)
    | .variable_ name :: ts => some (.undefined ("$" ++ name), ts)
    | .mark "-" :: ts => do
      let (q, ts) ← readSuffixed n ts
      some (.negate q, ts)
    | .mark "(" :: ts => do
      match ← readPipe n 1 ts with
      | (q, .mark ")" :: ts) => some (q, ts)
      | _ => none
    | .mark "[" :: .mark "]" :: ts => some (.literal (.array []), ts)
    | .mark "[" :: ts => do
      match ← readPipe n 1 ts with
      | (q, .mark "]" :: ts) => some (.collect q, ts)
      | _ => none
    | .mark "\x7b" :: .mark "\x7d" :: ts => some (.objects [], ts)
    | .mark "\x7b" :: ts => do
      let (members, ts) ← readMembers n ts
      some (.objects members, ts)
    | .word "if" :: ts => readCond n ts
    | .word name :: .mark "(" :: ts => do
      let (args, ts) ← readArgs n ts
      if queryKeywords.contains name then none else some (.ofCall name args, ts)
    | .word name :: ts =>
      if queryKeywords.contains name then none else some (.ofCall name [], ts)
    | _ => none

/-- A condition from behind its first word. -/
def readCond : Nat → List QueryToken → Reading
  | 0, _ => none
  | n + 1, ts => do
    match ← readPipe n 1 ts with
    | (condition, .word "then" :: ts) => do
      match ← readPipe n 1 ts with
      | (yes, .word "end" :: ts) => some (.cond condition yes .identity, ts)
      | (yes, .word "elif" :: ts) => do
        let (no, ts) ← readCond n ts
        some (.cond condition yes no, ts)
      | (yes, .word "else" :: ts) => do
        match ← readPipe n 1 ts with
        | (no, .word "end" :: ts) => some (.cond condition yes no, ts)
        | _ => none
      | _ => none
    | _ => none

/-- The arguments from behind the opening bracket. -/
def readArgs : Nat → List QueryToken → Option (List Query × List QueryToken)
  | 0, _ => none
  | n + 1, ts => do
    match ← readPipe n 1 ts with
    | (q, .mark ")" :: ts) => some ([q], ts)
    | (q, .mark ";" :: ts) => do
      let (rest, ts) ← readArgs n ts
      some (q :: rest, ts)
    | _ => none

/-- The members of an object from behind the opening bracket. -/
def readMembers : Nat → List QueryToken → Option (List Query × List QueryToken)
  | 0, _ => none
  | n + 1, ts => do
    match ← readMember n ts with
    | (q, .mark "\x7d" :: ts) => some ([q], ts)
    | (q, .mark "," :: ts) => do
      let (rest, ts) ← readMembers n ts
      some (q :: rest, ts)
    | _ => none

/-- A member of an object. A name alone stands for the member of that name. -/
def readMember : Nat → List QueryToken → Reading
  | 0, _ => none
  | n + 1, ts =>
    match ts with
    | .variable_ name :: ts => some (.undefined ("$" ++ name), ts)
    | .mark "(" :: ts => do
      match ← readPipe n 1 ts with
      | (key, .mark ")" :: .mark ":" :: ts) => do
        let (value, ts) ← readPipe n 2 ts
        some (.member key value, ts)
      | _ => none
    | .word name :: ts | .text name :: ts =>
      match ts with
      | .mark ":" :: ts => do
        let (value, ts) ← readPipe n 2 ts
        some (.member (.literal (.string name)) value, ts)
      | ts => some (.member (.literal (.string name)) (Query.identity.memberOf name), ts)
    | _ => none

end

/-- The query that is written in a text. -/
def Query.ofText? (s : String) : Option Query := do
  let ts ← QueryToken.ofText? s
  match ← readPipe (4 * ts.length + 4) 1 ts with
  | (q, []) => some q
  | _ => none

/-- The results of a written query for a value. -/
def runQuery (s : String) (v : Value) : Except QueryFault (List Value) :=
  match Query.ofText? s with
  | none => .error .malformed
  | some q => q.outcome v

end Boundary
