import CWriter.Data.Shown

/-! When two values are equal: objects of one class in all of their fields. -/
namespace CWriter.Value

/-- A number as an integer, where it is one; truth values are numbers. -/
def integer? : Value → Option Int
  | bool b => some (if b then 1 else 0)
  | int n => some n
  | float x => x.integer?
  | _ => none

/-- Texts, fixed words and numbers. -/
def atomsEqual (v w : Value) : Bool :=
  match v.text?, w.text?, v.integer?, w.integer? with
  | some s, some t, _, _ => s == t
  | _, _, some n, some m => n == m
  | _, _, _, _ =>
    match v, w with
    | null, null => true
    | float x, float y => x == y && x != .nan
    | _, _ => false

/-- Equality down to a level. The members of plain objects may stand in any order. -/
def equalWithin : Nat → Value → Value → Bool
  | 0, _, _ => false
  | levels + 1, v, w =>
    let items (vs ws : List Value) : Bool :=
      vs.length == ws.length && (vs.zip ws).all fun (v, w) => equalWithin levels v w
    let members (vs ws : Members) : Bool :=
      vs.length == ws.length && vs.all fun (name, v) =>
        (ws.lookup name).any fun w => equalWithin levels v w
    match v, w with
    | list vs, list ws => items vs ws
    | tuple vs, tuple ws => items vs ws
    | object vs, object ws => members vs ws
    | v, w =>
      match v.className?, w.className? with
      | some c, some d => c == d && members v.fields w.fields
      | none, none => atomsEqual v w
      | _, _ => false

def equal (v w : Value) : Bool := equalWithin mostLevels v w

end CWriter.Value
