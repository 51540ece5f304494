import GridLayout.Issue

/-!
# Putting ids in order

A section may name the order in which its boxes are to be enumerated.  `orderIds` sorts a list of
ids by such a reference: first the ids that occur in it, in its order, then all others in their
own.  No id comes out twice.

`orderIssues` reports whatever does not line up: an id that is repeated in either list, and an id
that is in one list only.  The reports come in the order in which the two lists are read: the ids,
then the reference, then the ids that are left.
-/

namespace GridLayout

/-- Goes through a list of ids, with one question for the first occurrence of an id and another for
every further one. -/
def walkIds {β : Type} (first again : String → List β) (seen : List String) :
    List String → List β
  | [] => []
  | id :: rest =>
    if id ∈ seen then again id ++ walkIds first again seen rest
    else first id ++ walkIds first again (id :: seen) rest

/-- The distinct ids of a list, in the order of their first occurrence. -/
def distinctIds (ids : List String) : List String := walkIds (fun id => [id]) (fun _ => []) [] ids

/-- The ids that occur in the reference, in its order, and then all others. -/
def orderIds (ids reference : List String) : List String :=
  (distinctIds reference).filter (fun id => decide (id ∈ ids)) ++
    (distinctIds ids).filter (fun id => decide (id ∉ reference))

/-- What does not line up between ids and reference.  The context says whose lists they are. -/
def orderIssues {α : Type} (context : String) (ids reference : List String) : List (Issue α) :=
  walkIds (fun _ => []) (fun id => [.orderRepeated context id .ids]) [] ids ++
    walkIds (fun id => if id ∈ ids then [] else [.orderMismatch context id .ids])
      (fun id => [.orderRepeated context id .reference]) [] reference ++
    ((distinctIds ids).filter (fun id => decide (id ∉ reference))).map
      fun id => .orderMismatch context id .reference

end GridLayout
