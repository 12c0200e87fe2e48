import CWriter.Tree.Class
import CWriter.Tree.Directive
import CWriter.Tree.Record

/-!
Scopes: the declarations of one file in the order in which they were added, with a header
comment, and the conditional parts whose branches are scopes again.
-/
namespace CWriter

mutual

inductive ScopeItem where
  | doc (d : Doc)
  | comment (c : Comment)
  | inclusion (i : Include)
  | definition (m : Macro)
  | global (v : Variable)
  | record (r : Record)
  | enumeration (e : Enumeration)
  | cls (c : Class)
  | function (f : Function)
  | ifDef (i : IfDef)

/-- A conditional part, or an include guard. -/
structure IfDef where
  id : Id
  symbol : Identifier
  thenScope : Scope
  elseScope : Option Scope
  guard : Bool

structure Scope where
  id : Id
  filename : Option String
  doc : Option Doc
  items : List ScopeItem

end

/-- The sorts of items of which consecutive ones are written without a blank line. -/
inductive CompactSort where
  | inclusion | definition
  deriving DecidableEq

def ScopeItem.compactSort : ScopeItem → Option CompactSort
  | .inclusion _ => some .inclusion
  | .definition _ => some .definition
  | _ => none

/-- Whether blank lines separate an item from the one before it. -/
def ScopeItem.separated (previous item : ScopeItem) : Bool :=
  !(item.compactSort.isSome && previous.compactSort == item.compactSort)

/-- The lines that open a conditional part. -/
def ifDefHead (symbol : Identifier) (guard : Bool) : List Step :=
  if guard then
    [.line ("#ifndef " ++ symbol.text), .line ("#define " ++ symbol.text ++ " 1")]
  else [.line ("#ifdef " ++ symbol.text)]

def scopeHeader (style : Style) : Option Doc → List Step
  | none => []
  | some d => d.steps ++ [.blank style.blankLines]

/-- The separator in front of an item, given the one before it. -/
def separator (style : Style) (previous : Option ScopeItem) (item : ScopeItem) : List Step :=
  match previous with
  | none => []
  | some p => if p.separated item then [.blank style.blankLines] else []

mutual

def ScopeItem.steps (style : Style) : ScopeItem → List Step
  | .doc d => d.steps
  | .comment c => c.steps
  | .inclusion i => i.steps
  | .definition m => m.steps
  | .global v => v.steps
  | .record r => r.steps
  | .enumeration e => e.steps
  | .cls c => c.steps style
  | .function f => f.steps style
  | .ifDef i => i.steps style

def IfDef.steps (style : Style) : IfDef → List Step
  | ⟨_, symbol, thenScope, elseScope, guard⟩ =>
    ifDefHead symbol guard ++ [.blank 1] ++ thenScope.steps style ++
      elseScopeSteps style symbol elseScope ++ [.blank 1, .line ("#endif // " ++ symbol.text)]

def elseScopeSteps (style : Style) (symbol : Identifier) : Option Scope → List Step
  | none => []
  | some s => [.blank 1, .line ("#else // !" ++ symbol.text), .blank 1] ++ s.steps style

def Scope.steps (style : Style) : Scope → List Step
  | ⟨_, _, doc, items⟩ => scopeHeader style doc ++ itemSteps style none items

/-- The steps of items that follow `previous`. -/
def itemSteps (style : Style) (previous : Option ScopeItem) : List ScopeItem → List Step
  | [] => []
  | item :: rest =>
    separator style previous item ++ item.steps style ++ itemSteps style (some item) rest

end

/-- The text of a whole file. -/
def Scope.text (style : Style) (s : Scope) : Except LayoutFault String :=
  render style (s.steps style)

/-- Prints a whole file. -/
def Scope.print (style : Style) (s : Scope) : Except LayoutFault String :=
  CWriter.print style (s.steps style)

end CWriter
