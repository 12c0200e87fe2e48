import CWriter.Session.Classes

/-!
Transcripts of a layout: moves on one layout, and what it held after each of them. Blocks
that a move opens are closed again even where something inside fails. If the closing fails too, it
is the fault that counts.
-/
namespace CWriter

inductive Move where
  | steps (steps : List Step)
  | depth (n : Int)
  | block (header : String) (semicolon : Bool) (body : List Move)
  | indented (body : List Move)
  /-- Checks the data of a class and lays the entity out. -/
  | entity (className : String) (data : Value) (separator : String)

/-- What a layout held at one point. -/
structure Snapshot where
  depth : Int
  empty : Bool
  text : String

structure Transcript where
  layout : Layout
  ledger : Ledger := {}
  /-- The snapshots so far, last one first. -/
  newest : List Snapshot := []

namespace Transcript

def record (t : Transcript) : Transcript :=
  let l := t.layout
  { t with newest := ⟨l.depth, l.isEmpty, l.text⟩ :: t.newest }

/-- Takes steps. What was written before one of them failed stays. -/
def take (t : Transcript) (steps : List Step) : Except Fault Unit × Transcript :=
  match t.layout.proceed steps with
  | (none, layout) => (.ok (), { t with layout })
  | (some e, layout) => (.error (.layout e), { t with layout })

/-- The steps of an entity inside others. -/
def entitySteps (style : Style) (separator : String) : Value → Except Fault (List Step)
  | .entity (.variant v) => .ok (v.steps separator)
  | .entity e =>
    match e.steps? style with
    | some steps => .ok steps
    | none => .error (.layout .noRendering)
  | v => .error (.unknown v.display)

def lay (t : Transcript) (className : String) (data : Value) (separator : String) :
    Except Fault Unit × Transcript :=
  match acceptNamed className data with
  | none => (.error (.unknown className), t)
  | some check =>
    match check.alone t.ledger with
    | (.error ps, ledger) => (.error (.invalid ps), { t with ledger })
    | (.ok v, ledger) =>
      match entitySteps t.layout.style separator v with
      | .error e => (.error e, { t with ledger })
      | .ok steps => { t with ledger }.take steps

mutual

/-- Makes a move. Nothing is recorded of a move that fails, but of the moves before it. -/
def move (t : Transcript) : Move → Except Fault Unit × Transcript
  | .steps steps =>
    match t.take steps with
    | (.ok (), t) => (.ok (), t.record)
    | failed => failed
  | .depth n => (.ok (), { t with layout := { t.layout with depth := n } }.record)
  | .block header semicolon body =>
    let token := if semicolon then r"};" else r"}"
    match t.take [.openBlock header r"{"] with
    | (.error e, t) => (.error e, t)
    | (.ok (), t) =>
      let (result, t) := t.record.moves body
      match t.take [.closeBlock token], result with
      | (.error e, t), _ => (.error e, t)
      | (.ok (), t), .error e => (.error e, t)
      | (.ok (), t), .ok () => (.ok (), t.record)
  | .indented body =>
    match { t with layout := t.layout.move 1 }.moves body with
    | (.ok (), t) => (.ok (), { t with layout := t.layout.move (-1) }.record)
    | (.error e, t) => (.error e, { t with layout := t.layout.move (-1) })
  | .entity className data separator =>
    match t.lay className data separator with
    | (.ok (), t) => (.ok (), t.record)
    | failed => failed

def moves (t : Transcript) : List Move → Except Fault Unit × Transcript
  | [] => (.ok (), t)
  | m :: rest =>
    match t.move m with
    | (.ok (), t) => t.moves rest
    | failed => failed

end

end Transcript

end CWriter
