import AccessCanvas.Json.Record
import AccessCanvas.Query.Basic

/-!
Queries in documents: a list of statements. Selectors and conditions are read from their texts as
they are in a query, and the pattern is folded.
-/

namespace AccessCanvas

open Json (Value Fault)

namespace Statement

structure Draft where
  selector : Option Selector := none
  condition : Option Condition := none
  pattern : Option String := none

def form : Json.Form Draft (Json.Reader Draft) Statement where
  title := "struct StatementRepr"
  blank := {}
  members :=
    [⟨"entity", (·.selector.isSome), fun sofar =>
        Json.text.map fun written => { sofar with selector := some (.ofText written) }⟩,
      ⟨"condition", (·.condition.isSome), fun sofar =>
        Json.text.map fun written => { sofar with condition := some (.ofText written) }⟩,
      ⟨"match", (·.pattern.isSome), fun sofar =>
        Json.text.map fun pattern => { sofar with pattern := some pattern }⟩]
  complete absent draft :=
    match Json.demanded absent 0 "entity" draft.selector with
    | .error fault => .error fault
    | .ok selector =>
      match Json.demanded absent 1 "condition" draft.condition with
      | .error fault => .error fault
      | .ok condition =>
        (Json.demanded absent 2 "match" draft.pattern).map (make selector condition)

def encode (statement : Statement) : Value :=
  .object [("entity", .text statement.selector.text), ("condition", .text statement.condition.text),
    ("match", .text statement.pattern)]

end Statement

namespace Query

def encode (query : Query) : Value :=
  .list (query.map Statement.encode)

def document (query : Query) : String :=
  query.encode.pretty

def ofDocument (written : String) : Except Fault Query :=
  Json.document (Json.list Statement.form.reader) written

end Query

end AccessCanvas
