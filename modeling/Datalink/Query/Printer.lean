import Datalink.Query.Basic
import Datalink.Value.Comparison

/-!
# Queries in text, and when two are the same

A query is printed with its kind and its fields.  Two queries are the same when
they are of the same kind and their fields are the same; the order of conditions
and of assignments does not matter.

A kind that a caller derived is like no other, and a query of such a kind shows the
fields of its clauses twice, once for its own kind and once for the kind that it was
derived from.
-/

namespace Datalink

namespace Clauses

/-- The fields of the clauses, in the order of printing. -/
def fields : Clauses → List (Text × Value)
  | select columns conditions order limit offset =>
      [("columns", .tuple columns), ("where", .mapping conditions),
        ("order_by", .tuple order), ("limit", limit.getD .null),
        ("offset", offset.getD .null)]
  | insert assignments => [("values", .mapping assignments)]
  | update assignments conditions =>
      [("values", .mapping assignments), ("where", .mapping conditions)]
  | delete conditions => [("where", .mapping conditions)]
  | bare => []

end Clauses

namespace Query

/-- The fields of a query of one of the given kinds, the table last. -/
def ownFields (q : Query) : List (Text × Value) :=
  q.clauses.fields ++ ([("table", q.table)] : List (Text × Value))

/-- The fields that a kind adds to the one below it. -/
def kindFields (q : Query) : List (Text × Value) :=
  match q.clauses with
  | .bare => q.ownFields
  | clauses => clauses.fields

/-- The fields of a query. -/
def fields (q : Query) : List (Text × Value) :=
  (if q.derived then q.kindFields else []) ++ q.ownFields

/-- The printed form of a query, if its values have one. -/
def print (q : Query) : Except Fault Text :=
  if q.fields.all fun f => f.2.printable then
    .ok (q.name ++ "(" ++
      Text.join ", " (q.fields.map fun f => f.1 ++ "=" ++ f.2.print) ++ ")")
  else
    .error .digitLimit

/-- Whether two queries are the same. -/
def equals (p q : Query) : Except Fault Bool :=
  if p.derived || q.derived || p.clauses.name != q.clauses.name then
    .ok false
  else
    (Value.tuple (p.fields.map Prod.snd)).equals (.tuple (q.fields.map Prod.snd))

end Query

namespace Subject

/-- The printed form of what was handed over as a query. -/
def print : Subject → Except Fault Text
  | query q => q.print
  | value v => v.printed

/-- Whether the same was handed over twice. -/
def equals (a b : Subject) : Except Fault Bool :=
  match a, b with
  | query p, query q => p.equals q
  | value v, value w => v.equals w
  | _, _ => .ok false

end Subject
end Datalink
