import EntityGraph.Schema.Registry

/-!
# Declarations as calls

A declaration written as the calls that build it: one chain of calls for each name given for the
type and for each member, options after the member they belong to.
-/

namespace EntityGraph

/-- A call with its arguments. -/
structure Call where
  method : String
  arguments : List String := []
  deriving DecidableEq, Repr

/-- The call that sets an option, if it is given. -/
def optionCall (method : String) (value : Option String) : List Call :=
  value.toList.map fun s => ⟨method, [s]⟩

def pairCall (method : String) (value : Option (String × String)) : List Call :=
  value.toList.map fun p => ⟨method, [p.1, p.2]⟩

def RelationOptions.calls (o : RelationOptions) : List Call :=
  optionCall "named" o.name ++ optionCall "foreign_key" o.foreignKey
    ++ optionCall "owner_key" o.ownerKey ++ optionCall "table" o.table
    ++ optionCall "pivot" o.pivot ++ pairCall "pivot_keys" o.pivotKeys
    ++ optionCall "related_key" o.relatedKey ++ pairCall "morph_columns" o.morphColumns
    ++ o.targets.map fun t =>
      match t.2 with
      | some discriminator => ⟨"target_as", [t.1, discriminator]⟩
      | none => ⟨"target", [t.1]⟩

def RelationShape.call (field : String) : RelationShape → Call
  | .hasOne _ => ⟨"has_one", [field]⟩
  | .hasMany _ => ⟨"has_many", [field]⟩
  | .belongsTo _ => ⟨"belongs_to", [field]⟩
  | .belongsToMany _ => ⟨"many_to_many", [field]⟩
  | .morphOne _ morph => ⟨"morph_one", [field, morph]⟩
  | .morphMany _ morph => ⟨"morph_many", [field, morph]⟩
  | .morphTo morph => ⟨"morph_to", [field, morph]⟩

namespace MemberDecl

variable {τ : Type}

def calls : MemberDecl τ → List Call
  | .column field _ name primaryKey auto =>
    ⟨"column", [field]⟩ :: optionCall "name" name
      ++ (if primaryKey then [⟨"primary_key", []⟩] else [])
      ++ (if auto then [⟨"auto", []⟩] else [])
  | .embed field _ => [⟨"embed", [field]⟩]
  | .relation field shape options => shape.call field :: options.calls

end MemberDecl

def Declaration.calls {τ : Type} (d : Declaration τ) : List (List Call) :=
  [optionCall "table" d.table, optionCall "primary_key" d.primaryKey,
      optionCall "morph_alias" d.morphAlias].filter (!·.isEmpty)
    ++ d.members.map MemberDecl.calls

end EntityGraph
