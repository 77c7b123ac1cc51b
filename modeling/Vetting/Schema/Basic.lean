import Vetting.Schema.Rule

/-!
# Schemas

A schema gives each of its fields a descriptor, which holds a list of rules or none at all.  Fields
stand in the order in which they were first declared; declaring one again replaces its descriptor
in place.
-/

namespace Vetting

/-- What a schema says about a field.  Without a rule list the field is not validated. -/
structure FieldDescriptor where
  rules : Option (List Rule)

namespace FieldDescriptor

/-- Reads the rules one by one up to the first that is malformed. -/
def rulesOfJson : List Json → Except ConfigError (List Rule)
  | [] => .ok []
  | j :: rest => do
    let rule ← Rule.ofJson j
    return rule :: (← rulesOfJson rest)

/-- Reads the descriptor of a field.  Anything but a list under `rules` counts as no rule list. -/
def ofJson (field : String) (j : Json) : Except ConfigError FieldDescriptor :=
  match j.asObject? with
  | none => .error (.invalidDescriptor field j)
  | some members =>
    match members.find? "rules" with
    | some (.array rules) => (rulesOfJson rules).map fun rules => ⟨some rules⟩
    | _ => .ok ⟨none⟩

end FieldDescriptor

/-- Field descriptors in order of declaration. -/
structure Schema where
  fields : List (String × FieldDescriptor)

namespace Schema

def empty : Schema := ⟨[]⟩

/-- Replaces the descriptor of a field that is declared, or puts a new field at the end. -/
def insertInto (name : String) (descriptor : FieldDescriptor) :
    List (String × FieldDescriptor) → List (String × FieldDescriptor)
  | [] => [(name, descriptor)]
  | field :: rest =>
    if field.1 = name then (name, descriptor) :: rest
    else field :: insertInto name descriptor rest

def insert (s : Schema) (name : String) (descriptor : FieldDescriptor) : Schema :=
  ⟨insertInto name descriptor s.fields⟩

def find? (s : Schema) (name : String) : Option FieldDescriptor := s.fields.lookup name

def size (s : Schema) : Nat := s.fields.length

def isEmpty (s : Schema) : Bool := s.fields.isEmpty

/-- Declares the members of a JSON object one by one up to the first that is malformed. -/
def insertMembers : List (String × Json) → Schema → Except ConfigError Schema
  | [], s => .ok s
  | (name, j) :: rest, s => do
    let descriptor ← FieldDescriptor.ofJson name j
    insertMembers rest (s.insert name descriptor)

/-- The schema that a JSON object of descriptors describes, its fields in key order. -/
def ofJson (j : Json) : Except ConfigError Schema :=
  match j.asObject? with
  | none => .error (.invalidSchema j)
  | some members => insertMembers members.entries empty

end Schema

end Vetting
