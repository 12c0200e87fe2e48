import CWriter.Data.Value

/-!
The fields of types, expressions and entities, under the names that data use and in the order
in which their classes list them.
-/
namespace CWriter

def Qualifiers.fields (q : Qualifiers) : Members :=
  [("is_const", .bool q.isConst), ("is_volatile", .bool q.isVolatile)]

namespace CType

/-- The word that tells the class of a type in data. -/
def variantName : CType → String
  | integer .. | scalar .. => "primitive"
  | named .. => "named"
  | template .. => "template"
  | pointer .. => "pointer"
  | reference .. => "reference"
  | array .. => "array"
  | shared _ t => t.variantName

def className : CType → String
  | integer .. | scalar .. => "PrimitiveType"
  | named .. => "NamedType"
  | template .. => "TemplateType"
  | pointer .. => "PointerType"
  | reference .. => "ReferenceType"
  | array .. => "ArrayType"
  | shared _ t => t.className

/-- The fields of a type; the types in it are shown as they are. -/
def fields : CType → Members
  | integer q w s => q.fields ++ [("variant", .str "primitive"), ("kind", .word (.builtin none)),
      ("width", Value.ofOption (fun w : IntWidth => .int w.bits) w), ("signed", .bool s)]
  | scalar q k w s => q.fields ++ [("variant", .str "primitive"),
      ("kind", .word (.builtin (some k))), ("width", Value.ofOption (fun n : Nat => .int n) w),
      ("signed", .bool s)]
  | named q n t => q.fields ++ [("variant", .str "named"), ("name", .str n.text),
      ("tag", Value.ofOption (fun t => .word (.tag t)) t)]
  | template q n args => q.fields ++ [("variant", .str "template"), ("name", .str n.text),
      ("args", .tuple (args.map .type))]
  | pointer t q => [("variant", .str "pointer"), ("inner", .type t)] ++ q.fields
  | reference t r => [("variant", .str "reference"), ("inner", .type t), ("rvalue", .bool r)]
  | array t n => [("variant", .str "array"), ("inner", .type t),
      ("size", Value.ofOption (fun n : Nat => .int n) n)]
  | shared _ t => t.fields

end CType

namespace Expr

/-- The word that tells the class of an expression in data. -/
def variantName : Expr → String
  | raw .. => "raw"
  | var .. => "var"
  | num _ => "num"
  | str _ => "str"
  | bool _ => "bool"
  | call .. => "call"
  | field .. => "field"
  | methodCall .. => "method_call"
  | index .. => "index"
  | deref _ => "deref"
  | addrOf _ => "addr_of"
  | binop .. => "binop"
  | unop .. => "unop"
  | shared _ e => e.variantName

def className : Expr → String
  | raw .. => "RawExpr"
  | var .. => "Var"
  | num _ => "NumLit"
  | str _ => "StrLit"
  | bool _ => "BoolLit"
  | call .. => "Call"
  | field .. => "FieldAccess"
  | methodCall .. => "MethodCall"
  | index .. => "Index"
  | deref _ => "Deref"
  | addrOf _ => "AddrOf"
  | binop .. => "BinOp"
  | unop .. => "UnOp"
  | shared _ e => e.className

/-- The fields of an expression behind the first one. -/
def ownFields : Expr → Members
  | raw t p => [("text", .str t), ("pointer", .bool p)]
  | var n t => [("name", .str n.text), ("type", Value.ofOption .type t)]
  | num n => [("value", .int n)]
  | str s => [("value", .str s)]
  | bool b => [("value", .bool b)]
  | call n args => [("name", .str n.text), ("args", .tuple (args.map .expr))]
  | field t n a => [("target", .expr t), ("name", .str n), ("arrow", Value.ofOption .bool a)]
  | methodCall t m args a => [("target", .expr t), ("method", .str m),
      ("args", .tuple (args.map .expr)), ("arrow", Value.ofOption .bool a)]
  | index t p => [("target", .expr t), ("position", .expr p)]
  | deref e | addrOf e => [("inner", .expr e)]
  | binop l o r => [("lhs", .expr l), ("op", .str o), ("rhs", .expr r)]
  | unop o e => [("op", .str o), ("inner", .expr e)]
  | shared _ e => e.ownFields

/-- The fields of an expression; what it is made of is shown as it is. -/
def fields (e : Expr) : Members := ("variant", .str e.variantName) :: e.ownFields

end Expr

namespace Value

def ofText? : Option String → Value := ofOption .str

def ofTexts (texts : List String) : Value := .list (texts.map .str)

def ofDoc? : Option Doc → Value := ofOption fun d => .entity (.doc d)

def ofExpr? : Option Expr → Value := ofOption .expr

def ofBlock? : Option Block → Value := ofOption fun b => .entity (.block b)

def ofRemark : Remark → Value
  | .text s => .str s
  | .word w => .word w

def ofBodyItem : BodyItem → Value
  | .verbatim text => .str text
  | .stmt s => .entity s.entity

end Value

def Documented.nameField (d : Documented) : String × Value := ("name", .str d.name.text)

def Documented.docField (d : Documented) : String × Value := ("doc", .ofDoc? d.doc)

/-- The fields of a routine between its documentation and its kind. -/
def Routine.bodyFields (r : Routine) : Members :=
  [("body", .list (r.body.map .ofBodyItem)), ("definition", Value.ofOption .bool r.definition)]

def Callable.bodyFields (c : Callable) : Members :=
  c.toRoutine.bodyFields ++ [("params", .list (c.params.map (.entity <| .param ·)))]

def Visibility.field (v : Visibility) : String × Value := ("visibility", .word (.visibility v))

def BitWidth.field? (w : Option BitWidth) : String × Value :=
  ("width", Value.ofOption (fun w : BitWidth => .int w.bits) w)

def Block.bodyField (b : Block) : String × Value := ("body", .entity (.block b))

namespace Entity

/-- The word that tells the class of an entity in data, where there is one. -/
def kind? : Entity → Option String
  | doc _ => some "doc"
  | comment _ => some "comment"
  | inclusion _ => some "include"
  | definition _ => some "macro"
  | attr _ => some "attribute"
  | global _ => some "variable"
  | record r => some r.kind.tag.text
  | enumeration _ => some "enum"
  | function _ => some "function"
  | method _ => some "method"
  | constructor _ => some "constructor"
  | destructor _ => some "destructor"
  | cls _ => some "class"
  | ifDef _ => some "ifdef"
  | ret _ => some "return"
  | assign _ => some "assign"
  | eval _ => some "expr"
  | jump _ => some "jump"
  | label _ => some "label"
  | block _ => some "block"
  | ifElse _ => some "if"
  | loop l => match l.kind with
    | .testFirst => some "while"
    | .testLast => some "do_while"
  | forLoop _ => some "for"
  | switch _ => some "switch"
  | field _ | param _ | variant _ | baseClass _ | scope _ | branch _ | case _ | sheet _ => none

/-- The fields of an entity; what it is made of is shown as it is. -/
def fields (e : Entity) : Members :=
  let kind : Members := e.kind?.toList.map fun word => ("kind", .str word)
  match e with
  | doc d => kind ++ [("texts", .ofTexts d.texts)]
  | comment c => kind ++ [("text", .str c.text), ("heading", .bool c.heading)]
  | inclusion i => kind ++ [("path", .str i.path.text), ("system", .bool i.system),
      ("comment", .ofText? i.comment)]
  | definition m => [m.nameField, m.docField] ++ kind ++
      [("args", .ofTexts m.args), ("value", .ofText? m.value)]
  | field f => [f.nameField, f.docField, ("type", .type f.type), BitWidth.field? f.width]
  | attr a => [a.nameField, a.visibility.field, a.docField, ("type", .type a.type),
      BitWidth.field? a.width] ++ kind ++
      [("is_static", .bool a.isStatic), ("value", .ofText? a.value)]
  | param p => [("name", .str p.name.text), ("type", .type p.type),
      ("default", .ofText? p.default)]
  | global v => [v.nameField, v.docField] ++ kind ++ [("type", .type v.type),
      ("value", .ofText? v.value), ("is_static", .bool v.isStatic),
      ("is_extern", .bool v.isExtern)]
  | record r => [r.nameField, r.docField, ("fields", .list (r.fields.map (.entity ·.entity))),
      ("annotations", .list (r.annotations.map .ofRemark))] ++ kind
  | variant v => [v.nameField, v.docField, ("value", Value.ofOption .int v.value)]
  | enumeration e => [e.nameField, e.docField] ++ kind ++
      [("variants", .list (e.variants.map (.entity <| .variant ·)))]
  | function f => [f.nameField, f.docField] ++ f.bodyFields ++ kind ++
      [("return_type", .type f.returnType), ("is_static", .bool f.isStatic),
        ("is_inline", .bool f.isInline), ("is_extern", .bool f.isExtern)]
  | method m => [m.nameField, m.visibility.field, m.docField] ++ m.bodyFields ++ kind ++
      [("return_type", .type m.returnType), ("is_static", .bool m.isStatic),
        ("is_inline", .bool m.isInline), ("is_extern", .bool false),
        ("is_virtual", .bool m.isVirtual), ("is_pure", .bool m.isPure),
        ("is_const", .bool m.isConst), ("is_override", .bool m.isOverride)]
  | constructor c => [c.nameField, c.visibility.field, c.docField] ++ c.bodyFields ++ kind ++
      [("initializers", .ofTexts c.initializers), ("is_explicit", .bool c.isExplicit),
        ("is_default", .bool c.isDefault), ("is_delete", .bool c.isDelete),
        ("is_copy", .bool c.isCopy), ("is_move", .bool c.isMove)]
  | destructor d => [d.nameField, d.visibility.field, d.docField] ++ d.bodyFields ++ kind ++
      [("is_virtual", .bool d.isVirtual), ("is_default", .bool d.isDefault),
        ("is_pure", .bool d.isPure)]
  | baseClass b => [("name", .str b.name), b.visibility.field]
  | cls c => [c.nameField, c.docField] ++ kind ++
      [("bases", .list (c.bases.map (.entity <| .baseClass ·))),
        ("members", .list (c.members.map (.entity ·.entity)))]
  | ifDef i => kind ++ [("symbol", .str i.symbol.text), ("then", .entity (.scope i.thenScope)),
      ("other", Value.ofOption (.entity <| .scope ·) i.elseScope), ("guard", .bool i.guard)]
  | scope s => [("filename", .ofText? s.filename), ("doc", .ofDoc? s.doc),
      ("items", .list (s.items.map (.entity ·.entity)))]
  | ret s => kind ++ [("value", .ofExpr? s.value)]
  | assign s => kind ++ [("lhs", .expr s.lhs), ("rhs", .expr s.rhs), ("op", .str s.op)]
  | eval s => kind ++ [("expr", .expr s.expr)]
  | jump s => kind ++ [("keyword", .str s.keyword.text), ("target", .ofText? s.target)]
  | label s => kind ++ [("name", .str s.name.text)]
  | block b => kind ++ [("stmts", .list (b.stmts.map .ofBodyItem))]
  | branch b => [("cond", .expr b.cond), b.body.bodyField]
  | ifElse s => kind ++ [("cond", .expr s.cond), ("then", .entity (.block s.thenBody)),
      ("elifs", .list (s.elifs.map (.entity <| .branch ·))), ("other", .ofBlock? s.otherwise)]
  | loop s => kind ++ [("cond", .expr s.cond), s.body.bodyField]
  | forLoop s => kind ++ [("init", .ofExpr? s.start), ("cond", .ofExpr? s.cond),
      ("step", .ofExpr? s.advance), s.body.bodyField]
  | case c => [("label", .expr c.label), c.body.bodyField, ("fallthrough", .bool c.fallthrough)]
  | switch s => kind ++ [("cond", .expr s.cond),
      ("cases", .list (s.cases.map (.entity <| .case ·))), ("default", .ofBlock? s.default)]
  | sheet s => [("indent_width", .int s.style.indentWidth), ("doc_width", .int s.style.docWidth),
      ("heading_width", .int s.style.headingWidth), ("void_params", .bool s.style.voidParams),
      ("blank_lines", .int s.style.blankLines)]

end Entity

namespace Value

/-- The class of an object; plain data have none. -/
def className? : Value → Option String
  | type t => some t.className
  | expr e => some e.className
  | entity e => some e.className
  | _ => none

/-- The class of a value. -/
def className : Value → String
  | null => "NoneType"
  | bool _ => "bool"
  | int _ => "int"
  | float _ => "float"
  | str _ => "str"
  | word w => w.enumeration
  | list _ => "list"
  | tuple _ => "tuple"
  | object _ => "dict"
  | type t => t.className
  | expr e => e.className
  | entity e => e.className

/-- The fields of an object; plain data have none. -/
def fields : Value → Members
  | type t => t.fields
  | expr e => e.fields
  | entity e => e.fields
  | _ => []

/-- The items of what may stand for a list. An object lists its fields with their names. -/
def items? : Value → Option (List Value)
  | list items | tuple items => some items
  | v => v.className?.map fun _ => v.fields.map fun (name, v) => tuple [str name, v]

end Value

end CWriter
