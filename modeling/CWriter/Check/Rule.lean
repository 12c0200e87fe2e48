import CWriter.Check.Basic
import CWriter.Number.Word
import CWriter.Text.Digits

/-! Rules: which values a field takes. -/
namespace CWriter

structure Rule (α : Type) where
  accept : Value → Check α

namespace Rule

def text : Rule String := ⟨fun v => Check.ofOption .notText v.text?⟩

def identifierOf (s : String) : Check Identifier :=
  match Identifier.check s with
  | .ok i => pure i
  | .error fault => Check.fail (.identifier fault)

def identifier : Rule Identifier := ⟨fun v => text.accept v >>= identifierOf⟩

/-- The words that stand for a truth value, in lower case. -/
def falseWords : List String := ["0", "off", "f", "false", "n", "no"]

def trueWords : List String := ["1", "on", "t", "true", "y", "yes"]

/-- The integer that a number is, if it lies strictly between the bounds of a machine word. -/
def wordOfFloat? (x : Double) : Option Int :=
  x.integer?.filter fun n => Number.fitsWord n && n != -Number.wordBound

/-- Integers beyond a machine word are not even looked at. -/
def boolOfInt (n : Int) : Check Bool :=
  if n = 0 then pure false
  else if n = 1 then pure true
  else Check.fail (if Number.fitsWord n then .unreadableBoolean else .notBoolean)

def boolOfText (s : String) : Check Bool :=
  let word := String.ofList (s.toList.map Char.toLower)
  if falseWords.contains word then pure false
  else if trueWords.contains word then pure true
  else Check.fail .unreadableBoolean

def acceptBool : Value → Check Bool
  | .bool b => pure b
  | .int n => boolOfInt n
  | .float x =>
    match wordOfFloat? x with
    | some n => boolOfInt n
    | none => Check.fail .notBoolean
  | .str s => boolOfText s
  | .word w => boolOfText w.text
  | _ => Check.fail .notBoolean

def bool : Rule Bool := ⟨acceptBool⟩

def intOfFloat (x : Double) : Check Int :=
  if !x.isFinite then Check.fail .notFinite
  else if x.integer?.isNone then Check.fail .fractional
  else Check.ofOption .oversizedInteger (wordOfFloat? x)

def intOfText (s : String) : Check Int :=
  match Text.readLenientInteger s with
  | .ok n => pure n
  | .error .unreadable => Check.fail .unreadableInteger
  | .error (.tooLong _) => Check.fail .oversizedInteger

def acceptInt : Value → Check Int
  | .bool b => pure (if b then 1 else 0)
  | .int n => pure n
  | .float x => intOfFloat x
  | .str s => intOfText s
  | .word w => intOfText w.text
  | _ => Check.fail .notInteger

def int : Rule Int := ⟨acceptInt⟩

/-- An integer that is not below a bound. -/
def acceptAtLeast (least : Nat) (v : Value) : Check Nat := do
  let n ← acceptInt v
  if (least : Int) ≤ n then pure n.toNat else Check.fail (.tooSmall least)

def nat : Rule Nat := ⟨acceptAtLeast 0⟩

def atLeast (least : Nat) : Rule Int :=
  ⟨fun v => (fun n : Nat => (n : Int)) <$> acceptAtLeast least v⟩

def bitWidth : Rule BitWidth :=
  ⟨fun v => do
    let n ← acceptAtLeast 1 v
    if h : 1 ≤ n then pure ⟨n, h⟩ else Check.fail (.tooSmall 1)⟩

def nullable (r : Rule α) : Rule (Option α) where
  accept
    | .null => pure none
    | v => some <$> r.accept v

/-- The items of a list, or a complaint where there is none. -/
def acceptItems (complaint : Complaint) (r : Rule α) (v : Value) : Check (List α) := do
  let items ← Check.ofOption complaint v.items?
  Check.each r.accept 0 items

def list (r : Rule α) : Rule (List α) := ⟨acceptItems .notList r⟩

def tuple (r : Rule α) : Rule (List α) := ⟨acceptItems .notTuple r⟩

/-- Any value, of which only counts whether it is true. -/
def truth : Rule Bool := ⟨fun v => pure v.countsAsTrue⟩

/-- A fixed text that a field must hold if it is given. -/
def acceptFixed (word : String) (v : Value) : Check Unit :=
  if v.text? = some word then pure () else Check.fail (.notFixed [Complaint.inQuotes word])

/-- One of several texts, each of which stands for a value. -/
def acceptChoice (complaint : List String → Complaint) (choices : List (String × α))
    (v : Value) : Check α :=
  Check.ofOption (complaint (choices.map Prod.fst)) (v.text?.bind fun s => choices.lookup s)

def visibility : Rule Visibility :=
  ⟨acceptChoice .notMember [("public", .everyone), ("protected", .heirs), ("private", .owner)]⟩

def typeTag : Rule TypeTag :=
  ⟨acceptChoice .notMember [("struct", .struct), ("union", .union), ("enum", .enum)]⟩

def jumpKeyword : Rule JumpKeyword :=
  ⟨acceptChoice (fun words => .notFixed (words.map Complaint.inQuotes))
    [("break", .brk), ("continue", .cont), ("goto", .goto)]⟩

end Rule

end CWriter
