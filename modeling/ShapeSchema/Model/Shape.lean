import ShapeSchema.Model.Declaration
import ShapeSchema.Model.Kind
import ShapeSchema.Model.Trait

/-!
# `ShapeSchema.Model.Shape`: resolved shapes

`Shape.resolve` narrows a declaration to what the compiler reads: the kind, the members with their
traits and their requiredness, and the ids that references lead to.
-/

set_option autoImplicit false

namespace ShapeSchema

/-- A member: what it targets, and whether it has to be there. -/
structure Member where
  target : String
  required : Bool
  traits : List Trait
  deriving DecidableEq, Repr

/-- A shape as it was resolved from its declaration. -/
structure Shape where
  id : String
  kind : Kind
  members : OrderedMap Member := {}
  element : Option String := none
  key : Option String := none
  value : Option String := none
  traits : List Trait := []
  input : Option String := none
  output : Option String := none
  operations : List String := []
  deriving DecidableEq, Repr

/-- The part of an id after its last `#`, or all of it. -/
def localName (id : String) : String :=
  String.ofList (id.toList.reverse.takeWhile (· != '#')).reverse

namespace Shape

/-- The name without the namespace. -/
def localName (s : Shape) : String := ShapeSchema.localName s.id

/-- An identifier of a resource is a required member without traits. -/
def identifierMember (target : String) : Member := ⟨target, true, []⟩

/-- A declared member is required by its own trait or by the shape's list. -/
def resolveMember (id : String) (required : List String) (name : String)
    (declared : MemberDeclaration) : Except ModelError Member := do
  let traits ← Trait.parseAll s!"{id}${name}" declared.traits
  return ⟨declared.target, Trait.isRequired traits || required.contains name, traits⟩

/-- The members: first the identifiers, then the declared ones. A declared member with the name of
an identifier takes its place. -/
def resolveMembers (id : String) (d : Declaration) : Except ModelError (OrderedMap Member) := do
  let declared ← d.members.entries.mapM fun e => do
    return (e.1, ← resolveMember id d.required e.1 e.2)
  let identifiers := d.identifiers.map identifierMember
  return declared.foldl (fun members e => members.insert e.1 e.2) identifiers

/-- The shape that a declaration stands for. Every name it requires has to be a declared member. -/
def resolve (id : String) (d : Declaration) : Except ModelError Shape := do
  match d.required.find? fun name => !d.members.contains name with
  | some stray => throw (.malformed (.strayRequired id stray))
  | none => pure ()
  let members ← resolveMembers id d
  let traits ← Trait.parseAll id d.traits
  return {
    id, members, traits
    kind := .ofTag d.kind
    element := d.member.map (·.target)
    key := d.key.map (·.target)
    value := d.value.map (·.target)
    input := d.input
    output := d.output
    operations := d.operations }

/-- A shape of the prelude: a kind, and nothing else. -/
def ofPrelude (id : String) (kind : Kind) : Shape := { id, kind }

end Shape

end ShapeSchema
