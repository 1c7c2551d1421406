import MvvmSymbols.Tree

/-!
Schemas: which trees of plain data a program takes, written down for editors and
checkers. Only the keywords that the configuration needs are here.
-/

namespace MvvmSymbols

inductive Kind where
  | null
  | boolean
  | text
  | list
  | record
deriving DecidableEq

def Kind.name : Kind → String
  | .null => "null"
  | .boolean => "boolean"
  | .text => "string"
  | .list => "array"
  | .record => "object"

inductive Schema where
  /-- Any value of one of these kinds. -/
  | plain (kinds : List Kind)
  /-- This text and no other. -/
  | constant (value : String)
  | list (items : Schema)
  /-- A record; a property that is present has to fit its schema, and others may
  be present too. -/
  | record (properties : List (String × Schema))
  /-- What fits exactly one of the choices. -/
  | oneOf (choices : List Schema)
  /-- What fits all of the parts. -/
  | allOf (parts : List Schema)
  /-- What fits the definition of this name. -/
  | reference (name : String)
  /-- A remark that asks for nothing. -/
  | described (text : String) (schema : Schema)
  /-- What a missing property counts as; asks for nothing. -/
  | withDefault (value : Tree) (schema : Schema)

/-- A schema under a title, with the definitions that it refers to. -/
structure SchemaDocument where
  title : String
  schema : Schema
  definitions : List (String × Schema) := []

namespace Schema

def kindsTree : List Kind → Tree
  | [k] => .text k.name
  | ks => .list (ks.map fun k => .text k.name)

mutual

/-- The keywords of a schema. -/
def fields : Schema → List (String × Tree)
  | .plain kinds => [("type", kindsTree kinds)]
  | .constant value => [("type", .text "string"), ("enum", .list [.text value])]
  | .list items => [("type", .text "array"), ("items", .record items.fields)]
  | .record properties =>
    [("type", .text "object"), ("properties", .record (propertyTrees properties))]
  | .oneOf choices => [("oneOf", .list (trees choices))]
  | .allOf parts => [("allOf", .list (trees parts))]
  | .reference name => [("$ref", .text ("#/definitions/" ++ name))]
  | .described text schema => ("description", .text text) :: schema.fields
  | .withDefault value schema => ("default", value) :: schema.fields

def trees : List Schema → List Tree
  | [] => []
  | s :: ss => .record s.fields :: trees ss

def propertyTrees : List (String × Schema) → List (String × Tree)
  | [] => []
  | (name, s) :: ss => (name, .record s.fields) :: propertyTrees ss

end

end Schema

/-- The schema as plain data itself. -/
def SchemaDocument.toTree (d : SchemaDocument) : Tree :=
  .record
    ([("$schema", .text "http://json-schema.org/draft-07/schema#"), ("title", .text d.title)] ++
      d.schema.fields ++
      (if d.definitions.isEmpty then []
        else [("definitions", .record (Schema.propertyTrees d.definitions))]))

end MvvmSymbols
