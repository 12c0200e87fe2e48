import CWriter.Build.Routines
import CWriter.Schema.Classes

/-! Building classes. Constructors and destructors always follow the name of their class. -/
namespace CWriter

namespace Class

/-- Assigns to a field. A new name is handed on to the constructors and destructors. -/
def assign (name : String) (v : Value) : Edit Class Unit := do
  schema.assign name v
  if name = "name" then
    modify fun c => { c with members := c.members.map (Member.renamed c.name) }

def addMember (m : Member) (c : Class) : Class := { c with members := c.members ++ [m] }

/-- Appends a member that is still to be checked, and answers with it. -/
def add (member : α → Member) (x : Check α) : Edit Class Member := do
  let m ← member <$> Edit.check x
  modify (addMember m)
  pure m

def newBase (name visibility : Value) : Check BaseClass :=
  BaseClass.schema.build [("name", name), ("visibility", visibility)]

/-- Makes a class the only base. -/
def setBase (name visibility : Value) : Edit Class Unit := do
  let b ← Edit.check (newBase name visibility)
  modify ({ · with bases := [b] })

def addBase (name visibility : Value) : Edit Class Unit := do
  let b ← Edit.check (newBase name visibility)
  modify fun c => { c with bases := c.bases ++ [b] }

/-- The return type that is passed, or none at all. -/
def returnTypeArg (v : Value) : Value := if v.countsAsTrue then v else .type .void

def newAttribute (name type : Value) : Edit Class Member :=
  add .attr (Attribute.schema.build [("name", name), ("type", type)])

def newMethod (name ret : Value) : Edit Class Member :=
  add .method (Method.schema.build [("name", name), ("return_type", returnTypeArg ret)])

def newConstructor : Edit Class Member := do
  let c ← get
  add .constructor (Constructor.schema.build [("name", .str c.name.text)])

/-- Puts a destructor in the place of the first one, or behind all members. -/
def putDestructor (d : Destructor) : List Member → List Member
  | [] => [.destructor d]
  | .destructor _ :: rest => .destructor d :: rest
  | m :: rest => m :: putDestructor d rest

def newDestructor : Edit Class Member := do
  let c ← get
  let d ← Edit.check (Destructor.schema.build [("name", .str c.name.text)])
  modify fun c => { c with members := putDestructor d c.members }
  pure (.destructor d)

/-- Appends a member. What stands for one is checked, and built from data. -/
def push (v : Value) : Edit Class Unit := do
  let m ← Edit.check (Member.rule.accept v)
  modify (addMember m)

def ofSort (s : MemberSort) (c : Class) : List Member := c.members.filter (·.sort == s)

def byName (s : MemberSort) (name : String) (c : Class) : Option Member :=
  (c.ofSort s).find? (·.name.text == name)

def memberValue (m : Member) : Value := .entity m.entity

/-- What a class shows beside its fields. -/
def property? (c : Class) (name : String) : Option Value :=
  let all (s : MemberSort) : Value := .list ((c.ofSort s).map memberValue)
  match name with
  | "attributes" => some (all .attr)
  | "methods" => some (all .method)
  | "constructors" => some (all .constructor)
  | "destructor" => some (Value.ofOption memberValue (c.ofSort .destructor).head?)
  | _ => none

def methods : Methods Class
  | .setBase, [name, visibility] => Edit.chained (setBase name visibility)
  | .addBase, [name, visibility] => Edit.chained (addBase name visibility)
  | .newAttribute, [name, type] => Edit.answering (memberValue <$> newAttribute name type)
  | .newMethod, [name, ret] => Edit.answering (memberValue <$> newMethod name ret)
  | .newConstructor, [] => Edit.answering (memberValue <$> newConstructor)
  | .newDestructor, [] => Edit.answering (memberValue <$> newDestructor)
  | .pushMember, [m] => Edit.chained (push m)
  | .attributeByName, [name] => Edit.looking fun c =>
      Value.ofOption memberValue (name.named? (c.byName .attr ·))
  | .methodByName, [name] => Edit.looking fun c =>
      Value.ofOption memberValue (name.named? (c.byName .method ·))
  | .toType, [] => Edit.answering do Edit.check (CType.made (← get).type)
  | .groups, [] => Edit.looking fun c => .list (c.groups.map fun v => .word (.visibility v))
  | .header, [] => Edit.looking fun c => .str c.header
  | verb, args =>
    Edit.zoomMethods (·.toDocumented) (fun x c => { c with toDocumented := x })
      Documented.methods verb args

end Class

end CWriter
