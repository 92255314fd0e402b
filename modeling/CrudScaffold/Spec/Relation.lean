import CrudScaffold.Naming.Names

/-! The relation grammar: `kind:Model[:foreign_key]`, relations separated by commas. A lone
model name is a `belongsTo`, and so is a relation whose kind word is blank or unknown.

A relation prints back in the same grammar (`Relation.render`). The foreign key a relation
uses is the declared one, or the snake-case model name followed by `_id`. -/

namespace CrudScaffold

open Text Naming

/-- The kinds of Eloquent relation. -/
inductive RelationKind where
  | belongsTo
  | hasMany
  | hasOne
  | belongsToMany
  | morphTo
  | morphMany
deriving Repr, DecidableEq, Inhabited

/-- Reads a kind word, trimmed and compared without regard to case. -/
def RelationKind.parse? (input : String) : Option RelationKind :=
  match asciiLower (trim input) with
  | "belongsto" => some .belongsTo
  | "hasmany" => some .hasMany
  | "hasone" => some .hasOne
  | "belongstomany" => some .belongsToMany
  | "morphto" => some .morphTo
  | "morphmany" => some .morphMany
  | _ => none

/-- The method that declares the relation. -/
def RelationKind.name : RelationKind → String
  | .belongsTo => "belongsTo"
  | .hasMany => "hasMany"
  | .hasOne => "hasOne"
  | .belongsToMany => "belongsToMany"
  | .morphTo => "morphTo"
  | .morphMany => "morphMany"

/-- Relations that reach many models. -/
def RelationKind.isToMany : RelationKind → Bool
  | .hasMany | .belongsToMany | .morphMany => true
  | _ => false

/-- Relations that name a foreign key column. -/
def RelationKind.takesForeignKey : RelationKind → Bool
  | .belongsTo | .hasMany | .hasOne => true
  | _ => false

/-- A relation of a model to another. -/
structure Relation where
  kind : RelationKind
  target : String
  foreignKey : Option String
deriving Repr, DecidableEq, Inhabited

/-- A relation as a structured record: the kind word, the model and the key. -/
structure RelationRecord where
  kind : Option String
  model : String
  foreignKey : Option String
deriving Repr, DecidableEq, Inhabited

namespace Relation

/-- A relation with its foreign key trimmed; a blank key counts as none. -/
def make (kind : RelationKind) (target : String) (foreignKey : Option String) : Relation :=
  ⟨kind, target, (foreignKey.map trim).filter (fun k => !k.isEmpty)⟩

/-- A relation from a kind word, a model and a key. A blank model gives no relation; a
missing, blank or unknown kind word gives `belongsTo`. -/
def ofParts (kind : Option String) (model : String) (foreignKey : Option String) :
    Option Relation :=
  let target := trim model
  if target.isEmpty then none
  else
    let k := match (kind.map trim).filter (fun w => !w.isEmpty) with
      | none => RelationKind.belongsTo
      | some w => (RelationKind.parse? w).getD .belongsTo
    some (make k target foreignKey)

/-- Reads one comma-free segment: `Model`, `kind:Model` or `kind:Model:key`; segments after
the key are ignored. -/
def parse (segment : String) : Option Relation :=
  match (split (trim segment) ':').map trim with
  | [model] => ofParts none model none
  | [kind, model] => ofParts (some kind) model none
  | kind :: model :: key :: _ => ofParts (some kind) model (some key)
  | [] => none

/-- A relation from a structured record. -/
def ofRecord (r : RelationRecord) : Option Relation :=
  ofParts r.kind r.model r.foreignKey

/-- The foreign key the relation uses. -/
def effectiveForeignKey (r : Relation) : String :=
  r.foreignKey.getD (foreignKeyFor r.target)

/-- The class of the related model. -/
def modelClass (r : Relation) : String :=
  pascalCase r.target

/-- The accessor method of the relation. -/
def methodName (r : Relation) : String :=
  relationMethodName r.kind.isToMany r.target

/-- The relation as written in a spec. -/
def render (r : Relation) : String :=
  r.kind.name ++ ":" ++ r.target ++ (match r.foreignKey with
    | some k => ":" ++ k
    | none => "")

end Relation

/-- Reads a comma-separated relation spec; blank segments are skipped. -/
def parseRelations (spec : String) : List Relation :=
  ((split spec ',').filter (fun s => !(trim s).isEmpty)).filterMap Relation.parse

/-- Relations from structured records; records without a model are skipped. -/
def relationsOfRecords (records : List RelationRecord) : List Relation :=
  records.filterMap Relation.ofRecord

end CrudScaffold
