import CrudScaffold.Spec.Relation
import CrudScaffold.Spec.Field

/-! Foreign keys of `belongsTo` relations that a migration, model and factory add on top
of the declared fields: a key is added once, and only if no field already declares it. -/

namespace CrudScaffold

/-- The `belongsTo` relations whose foreign key is not taken yet, each with its key, given
the names already taken. -/
def freshForeignKeys (taken : List String) : List Relation → List (Relation × String)
  | [] => []
  | r :: rs =>
    if r.kind = .belongsTo then
      let key := r.effectiveForeignKey
      if taken.contains key then freshForeignKeys taken rs
      else (r, key) :: freshForeignKeys (key :: taken) rs
    else freshForeignKeys taken rs

/-- The `belongsTo` relations whose foreign key no field declares and no earlier relation
has added, each with its key. -/
def belongsToForeignKeys (fields : List Field) (relations : List Relation) :
    List (Relation × String) :=
  freshForeignKeys (fields.map (·.name)) relations

end CrudScaffold
