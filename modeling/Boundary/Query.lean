import Boundary.Query.Value

/-!
# Queries

A query turns a document into documents: it has any number of results for a value, and each of them
may be a fault.

* `Query`: the queries.
* `QueryFault`: why a query has no results.
* `Query.results`: the results for a value, in order.
* `Query.outcome`: all results, or the first fault.
* `Query.undefined?`: the first name in a query that means nothing.
* `results_pipe`: a query behind another one is asked about each of its results.
-/

namespace Boundary

open Json

/-- The functions of a value without arguments. -/
inductive Builtin
  | not
  | length
  | keys
  | reverse
  | error
deriving Repr, DecidableEq

/-- The operators that make a value of two. -/
inductive QueryOperator
  | plus
  | minus
  | equal
  | notEqual
  | less
  | lessOrEqual
  | greater
  | greaterOrEqual
deriving Repr, DecidableEq

/-- A query. -/
inductive Query
  | identity
  /-- A value and everything in it. -/
  | everything
  | literal (v : Value)
  /-- A number above the greatest double. -/
  | unbounded
  /-- No results. -/
  | empty
  | builtin (b : Builtin)
  /-- A name that means nothing. -/
  | undefined (name : String)
  /-- The part of a value at an index; faults of this step are no results if `lenient`. -/
  | index (target key : Query) (lenient : Bool)
  /-- The parts in a range. -/
  | slice (target first last : Query) (lenient : Bool)
  /-- All parts of a value. -/
  | iterate (target : Query) (lenient : Bool)
  /-- The results without faults. -/
  | attempt (q : Query)
  /-- The array of all results. -/
  | collect (q : Query)
  /-- The object with one member. -/
  | member (key value : Query)
  | negate (q : Query)
  | operate (o : QueryOperator) (l r : Query)
  | both (l r : Query)
  | either (l r : Query)
  /-- The results that hold, or the results of another query if there are none. -/
  | otherwise (l r : Query)
  | cond (condition yes no : Query)
  /-- The results of a query behind another one. -/
  | pipe (l r : Query)
  /-- The results of one query and then those of another one. -/
  | comma (l r : Query)
deriving Inhabited

/-- Why a query has no results. -/
inductive QueryFault
  | malformed
  | undefined (name : String)
  | runtime (message : String)
  | output
deriving Repr, DecidableEq

/-- The wording of a fault. -/
def QueryFault.message : QueryFault → String
  | .malformed => "jq parse error"
  | .undefined name => s!"jq compile error: undefined `{name}`"
  | .runtime message => s!"jq runtime error: {message}"
  | .output => "jq produced invalid JSON: number out of range"

/-- A result of a query. -/
abbrev QueryResult := Except QueryFault Value

/-- The results of another query for each of the results. Faults stay in their places. -/
def forEach (results : List QueryResult) (f : Value → List QueryResult) : List QueryResult :=
  results.flatMap fun
    | .ok v => f v
    | .error e => [.error e]

/-- The value, or a fault that says what is wrong. -/
def orFault (value : Option Value) (message : String) : QueryResult :=
  match value with
  | some v => .ok v
  | none => .error (.runtime message)

/-- The result of a step; a lenient step has no faults. -/
def step (lenient : Bool) (result : QueryResult) : List QueryResult :=
  match result with
  | .ok v => [.ok v]
  | .error e => if lenient then [] else [.error e]

/-- The result of a function. -/
def Builtin.apply (b : Builtin) (v : Value) : QueryResult :=
  match b with
  | .not => .ok (.bool !v.holds)
  | .length => orFault v.size? s!"{v.compact} has no length"
  | .keys => orFault v.keys? s!"{v.compact} has no keys"
  | .reverse => orFault v.reversed? s!"{v.compact} is no array"
  | .error => .error (.runtime v.compact)

/-- The result of an operator. -/
def QueryOperator.apply (o : QueryOperator) (a b : Value) : QueryResult :=
  match o with
  | .plus => orFault (a.plus b) s!"cannot add {a.compact} and {b.compact}"
  | .minus => orFault (a.minus b) s!"cannot subtract {b.compact} from {a.compact}"
  | .equal => .ok (.bool (a.order b = .eq))
  | .notEqual => .ok (.bool (a.order b ≠ .eq))
  | .less => .ok (.bool (a.order b = .lt))
  | .lessOrEqual => .ok (.bool (a.order b ≠ .gt))
  | .greater => .ok (.bool (a.order b = .gt))
  | .greaterOrEqual => .ok (.bool (a.order b ≠ .lt))

/-- Whether a result is a fault, or a value that holds. -/
def keeps : QueryResult → Bool
  | .ok v => v.holds
  | .error _ => true

/-- All values, or the first fault. -/
def allOrFault : List QueryResult → Except QueryFault (List Value)
  | [] => .ok []
  | .error e :: _ => .error e
  | .ok v :: rest => (allOrFault rest).map (v :: ·)

/-- The object with one member. -/
def single (key value : Value) : QueryResult :=
  match key with
  | .string k => .ok (.object [(k, value)])
  | key => .error (.runtime s!"{key.compact} is no name of a member")

/-- The results of a query for a value. -/
def Query.results : Query → Value → List QueryResult
  | .identity, v => [.ok v]
  | .everything, v => v.all.map .ok
  | .literal w, _ => [.ok w]
  | .unbounded, _ => [.error .output]
  | .empty, _ => []
  | .builtin b, v => [b.apply v]
  | .undefined name, _ => [.error (.undefined name)]
  | .index target key lenient, v =>
    forEach (target.results v) fun t => forEach (key.results v) fun k =>
      step lenient (orFault (t.at_? k) s!"cannot index {t.compact} with {k.compact}")
  | .slice target first last lenient, v =>
    forEach (target.results v) fun t => forEach (first.results v) fun a =>
      forEach (last.results v) fun b =>
        step lenient (orFault (t.slice? a b) s!"cannot take a range of {t.compact}")
  | .iterate target lenient, v =>
    forEach (target.results v) fun t =>
      match t.parts? with
      | some parts => parts.map .ok
      | none => step lenient (.error (.runtime s!"cannot iterate over {t.compact}"))
  | .attempt q, v => (q.results v).filter (·.isOk)
  | .collect q, v => [(allOrFault (q.results v)).map .array]
  | .member key value, v =>
    forEach (key.results v) fun k => forEach (value.results v) fun x => [single k x]
  | .negate q, v =>
    forEach (q.results v) fun x => [orFault x.negated? s!"cannot negate {x.compact}"]
  | .operate o l r, v =>
    forEach (l.results v) fun a => forEach (r.results v) fun b => [o.apply a b]
  | .both l r, v =>
    forEach (l.results v) fun a =>
      if a.holds then forEach (r.results v) fun b => [.ok (.bool b.holds)]
      else [.ok (.bool false)]
  | .either l r, v =>
    forEach (l.results v) fun a =>
      if a.holds then [.ok (.bool true)]
      else forEach (r.results v) fun b => [.ok (.bool b.holds)]
  | .otherwise l r, v =>
    let kept := (l.results v).filter keeps
    if kept.isEmpty then r.results v else kept
  | .cond condition yes no, v =>
    forEach (condition.results v) fun c => if c.holds then yes.results v else no.results v
  | .pipe l r, v => forEach (l.results v) r.results
  | .comma l r, v => l.results v ++ r.results v

/-- A query behind another one is asked about each of its results. -/
theorem Query.results_pipe (l r : Query) (v : Value) :
    (Query.pipe l r).results v = forEach (l.results v) r.results := rfl

/-- The first name that means nothing. -/
def Query.undefined? : Query → Option String
  | .undefined name => some name
  | .identity | .everything | .literal _ | .unbounded | .empty | .builtin _ => none
  | .iterate q _ | .attempt q | .collect q | .negate q => q.undefined?
  | .index l r _ | .member l r | .operate _ l r | .both l r | .either l r | .otherwise l r
  | .pipe l r | .comma l r => l.undefined?.or r.undefined?
  | .slice a b c _ | .cond a b c => (a.undefined?.or b.undefined?).or c.undefined?

/-- All results of a query for a value, or the first fault. -/
def Query.outcome (q : Query) (v : Value) : Except QueryFault (List Value) :=
  match q.undefined? with
  | some name => .error (.undefined name)
  | none => allOrFault (q.results v)

end Boundary
