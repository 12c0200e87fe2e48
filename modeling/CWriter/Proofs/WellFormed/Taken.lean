import CWriter.Proofs.Assignment
import CWriter.Proofs.WellFormed.Accepted

/-!
# Fields that take values as they are

The answer of a check of plain values depends on nothing but the value, and so does what an
assignment to such a field comes to. What is built from an object has in the field what the object
gives, and no other field looks at it. Three classes keep labels in one field of that kind: the
arguments of a macro, the tags of a record, the file name of a scope.
-/
namespace CWriter

open Edit

namespace Check

variable {α β : Type}

/-- A check that depends on nothing but the value: what comes of it, if anything does. Where
nothing does there is a problem to report. -/
def Answers (x : Check α) (answer : Option α) : Prop :=
  ∃ r, x.Settles r ∧ r.toOption = answer ∧ r ≠ .error []

theorem answers_ofOption (c : Complaint) (a : Option α) : (ofOption c a).Answers a := by
  refine ⟨_, settles_ofOption c a, ?_⟩
  cases a with
  | none => exact ⟨rfl, nofun⟩
  | some a => exact ⟨rfl, nofun⟩

theorem Answers.map {x : Check α} {a : Option α} (hx : x.Answers a) (f : α → β) :
    (f <$> x).Answers (a.map f) := by
  obtain ⟨r, hr, rfl, hne⟩ := hx
  refine ⟨_, hr.map f, ?_⟩
  cases r with
  | error ps => exact ⟨rfl, fun h => hne (congrArg _ (Except.error.inj h))⟩
  | ok a => exact ⟨rfl, nofun⟩

theorem Answers.within {x : Check α} {a : Option α} (hx : x.Answers a) (name : String) :
    (within name x).Answers a := by
  obtain ⟨r, hr, rfl, hne⟩ := hx
  refine ⟨_, hr.within name, ?_⟩
  cases r with
  | error ps =>
    refine ⟨rfl, fun h => hne ?_⟩
    rw [List.map_eq_nil_iff.mp (Except.error.inj h)]
  | ok a => exact ⟨rfl, nofun⟩

theorem Answers.bind {x : Check α} {a : Option α} (hx : x.Answers a) {next : α → Check β}
    {answer : α → Option β} (hnext : ∀ a, (next a).Answers (answer a)) :
    (x >>= next).Answers (a.bind answer) := by
  obtain ⟨r, hr, rfl, hne⟩ := hx
  cases r with
  | error ps =>
    refine ⟨.error ps, fun ledger => ?_, rfl, fun h => hne (congrArg _ (Except.error.inj h))⟩
    simp only [Bind.bind, ExceptT.bind, ExceptT.mk, StateT.bind, ExceptT.bindCont, hr ledger]
    rfl
  | ok a =>
    obtain ⟨s, hs, hanswer, hne⟩ := hnext a
    refine ⟨s, fun ledger => ?_, hanswer, hne⟩
    simp only [Bind.bind, ExceptT.bind, ExceptT.mk, StateT.bind, ExceptT.bindCont, hr ledger]
    exact hs ledger

/-- Both parts of a form are run, and either may fail. -/
theorem Answers.both {x : Check α} {y : Check β} {a : Option α} {b : Option β} (hx : x.Answers a)
    (hy : y.Answers b) : (Form.both x y).Answers (a.bind fun a => b.map (a, ·)) := by
  obtain ⟨r, hr, rfl, hr'⟩ := hx
  obtain ⟨s, hs, rfl, hs'⟩ := hy
  cases r with
  | ok a =>
    cases s with
    | ok b =>
      exact ⟨.ok (a, b), fun ledger => by simp only [Form.both, hr ledger, hs ledger], rfl, nofun⟩
    | error qs =>
      refine ⟨.error qs, fun ledger => by simp only [Form.both, hr ledger, hs ledger], rfl, ?_⟩
      exact fun h => hs' (congrArg _ (Except.error.inj h))
  | error ps =>
    have hps : ps ≠ [] := fun h => hr' (congrArg _ h)
    cases s with
    | ok b =>
      refine ⟨.error ps, fun ledger => by simp only [Form.both, hr ledger, hs ledger], rfl, ?_⟩
      exact fun h => hps (Except.error.inj h)
    | error qs =>
      refine ⟨.error (ps ++ qs), fun ledger => by simp only [Form.both, hr ledger, hs ledger],
        rfl, ?_⟩
      exact fun h => hps (List.append_eq_nil_iff.mp (Except.error.inj h)).1

theorem answers_each {f : Value → Check α} {answer : Value → Option α}
    (hf : ∀ v, (f v).Answers (answer v)) (position : Nat) (items : List Value) :
    (each f position items).Answers (items.mapM answer) := by
  induction items generalizing position with
  | nil => exact ⟨_, settles_pure [], rfl, nofun⟩
  | cons v rest ih =>
    have hboth := (((hf v).within (toString position)).both (ih (position + 1))).map
      fun (pair : α × List α) => pair.1 :: pair.2
    have hanswer : (((answer v).bind fun a => (rest.mapM answer).map (a, ·)).map
        fun (pair : α × List α) => pair.1 :: pair.2) = (v :: rest).mapM answer := by
      rw [List.mapM_cons]
      cases answer v with
      | none => rfl
      | some a => cases rest.mapM answer <;> rfl
    rw [hanswer] at hboth
    exact hboth

end Check

/-- The texts that a list of texts holds. -/
def Value.texts? (v : Value) : Option (List String) := v.items?.bind (·.mapM Value.text?)

theorem Rule.answers_text (v : Value) : (text.accept v).Answers v.text? :=
  Check.answers_ofOption .notText v.text?

theorem Rule.answers_texts (v : Value) : ((list text).accept v).Answers v.texts? := by
  change (Check.ofOption .notList v.items? >>= Check.each text.accept 0).Answers v.texts?
  rw [Value.texts?]
  cases v.items? with
  | none => exact ⟨_, Check.settles_fail .notList, rfl, nofun⟩
  | some items => exact Check.answers_each answers_text 0 items

theorem Rule.answers_nullable_text (v : Value) :
    ((nullable text).accept v).Answers (Jump.targetOf? v) := by
  have htext : ∀ w, (some <$> text.accept w).Answers (w.text?.map some) :=
    fun w => (answers_text w).map some
  cases v with
  | null => exact ⟨_, Check.settles_pure none, rfl, nofun⟩
  | _ => exact htext _

/-- What is entered first takes one level at most. -/
theorem Frame.levels_outermost (layer : Layer) :
    (({ outermost := true } : Frame).enter layer).1 ≤ 1 := by
  have hclass : ∀ order known variant, (Frame.enterClass order known variant).1 ≤ 2 := by
    intro order known variant
    rw [Frame.enterClass]
    split
    · exact Nat.le_succ 1
    · split
      · exact Nat.le_refl 2
      · exact Nat.le_succ 1
  cases layer with
  | type variant => exact Nat.sub_le_sub_right (hclass typeOrder _ variant) 1
  | expr variant => exact Nat.sub_le_sub_right (hclass exprOrder _ variant) 1
  | _ => decide

/-- There is room for the levels of a check that is within no other. -/
theorem Check.Settles.alone {α : Type} {x : Check α} {r : Except (List Problem) α}
    (hx : x.Settles r) (id : Option Id) (layer : Layer) (ledger : Ledger) :
    ∃ last, (editing id (entering layer x)).alone ledger = (r, last) := by
  have hlevels : ∀ (frame : Frame) (n : Nat) (ledger : Ledger), n ≤ 1 → ledger.depth = 0 →
      ∃ last, levels n (fun inner => x { inner with frame }) ledger = (r, last) := by
    intro frame n ledger hn hdepth
    rcases Nat.le_one_iff_eq_zero_or_eq_one.mp hn with rfl | rfl
    · exact ⟨_, hx _⟩
    · refine ⟨{ ledger with frame }, ?_⟩
      rw [levels, level, hdepth, if_neg (by decide), levels]
      dsimp only
      rw [hx]
  obtain ⟨last, hlast⟩ := hlevels _ _ { ledger with
    depth := 0, frame := { outermost := true }, edited := id } (Frame.levels_outermost layer) rfl
  refine ⟨{ last with frame := { outermost := true } }, ?_⟩
  rw [Check.alone, editing, entering]
  dsimp only
  rw [hlast]

/-- What is stored, or that nothing is, follows from the answer of the field. -/
theorem Schema.assign_of_answers {σ : Type} {schema : Schema σ}
    (hfinish : ∀ s, schema.finish s = pure ()) {name : String} {slot : Slot σ}
    (hfind : schema.assigned.find? (·.name == name) = some slot) {s : σ} {v : Value}
    {answer : Option σ} (hslot : (slot.store s v).Answers answer) (ledger : Ledger) :
    (∀ changed, answer = some changed →
      ∃ last, schema.assign name v s ledger = ((.ok (), changed), last)) ∧
    (answer = none → ∃ fault last, schema.assign name v s ledger = ((.error fault, s), last)) := by
  obtain ⟨r, hr, rfl, -⟩ := hslot.within name
  obtain ⟨after, hafter⟩ := hr.alone (schema.holder? s) schema.layer ledger
  rw [assign_of_find hfind, hafter]
  cases r with
  | error ps => exact ⟨nofun, fun _ => ⟨_, _, rfl⟩⟩
  | ok changed =>
    refine ⟨fun _ hchanged => ?_, nofun⟩
    obtain rfl := Option.some.inj hchanged
    change ∃ last, Edit.check (schema.finish changed) changed after = _
    rw [hfinish]
    exact ⟨_, rfl⟩

/-- What an object gives for a field. The field keeps what it holds at first where the object does
not mention it. -/
def givenMember? {α : Type} (taken? : Value → Option α) (initial : α) (members : Members)
    (key : String) : Option α :=
  match Value.member? members key with
  | none => some initial
  | some v => taken? v

namespace Slot

variable {σ τ α β : Type}

/-- A field that is stored, or left out, beside what `look` looks at. -/
structure Spares (look : σ → β) (slot : Slot σ) : Prop where
  store : ∀ s v, (slot.store s v).Yields fun after => look after = look s
  absent : ∀ s, (slot.absent s).Yields fun after => look after = look s

theorem spares_optional {look : σ → β} (name : String) (rule : Rule α)
    {set : α → σ → σ} (h : ∀ a s, look (set a s) = look s) :
    (optional name rule set).Spares look where
  store s _ := (Check.yields_of_forall fun a => h a s).map
  absent _ := Check.yields_pure rfl

theorem spares_required {look : σ → β} (name : String) (rule : Rule α) {set : α → σ → σ}
    (h : ∀ a s, look (set a s) = look s) : (required name rule set).Spares look where
  store s _ := (Check.yields_of_forall fun a => h a s).map
  absent _ := Check.yields_fail _ _

theorem spares_fixed {look : σ → β} (name word : String) :
    (fixed name word).Spares look where
  store _ _ := (Check.yields_of_forall fun _ => rfl).map
  absent _ := Check.yields_pure rfl

theorem spares_zoom {look : σ → β} {get : σ → τ} {set : τ → σ → σ} {slot : Slot τ}
    (h : ∀ part s, look (set part s) = look s) :
    (slot.zoom get set).Spares look where
  store s _ := (Check.yields_of_forall fun part => h part s).map
  absent s := (Check.yields_of_forall fun part => h part s).map

/-- A field of a part that stands beside what is looked at in the part. -/
theorem Spares.zoom {look : τ → β} {slot : Slot τ} (h : slot.Spares look) {get : σ → τ}
    {set : τ → σ → σ} (hset : ∀ part s, get (set part s) = part) :
    (slot.zoom get set).Spares fun s => look (get s) where
  store s v := ((h.store (get s) v).imp fun part hpart => by rw [hset, hpart]).map
  absent s := ((h.absent (get s)).imp fun part hpart => by rw [hset, hpart]).map

theorem Spares.frames {look : σ → β} {slot : Slot σ} (h : slot.Spares look)
    {members : Members} (P : β → Prop) : slot.Frames members fun s => P (look s) :=
  frames_of_store (fun s v hs => (h.store s v).imp fun _ heq => heq ▸ hs)
    fun s hs => (h.absent s).imp fun _ heq => heq ▸ hs

end Slot

/-- A class of entities in which one field takes what `taken?` says, and no other field looks at
it. -/
structure Schema.Takes {σ α : Type} (schema : Schema σ) (key : String)
    (taken? : Value → Option α) (initial : α) (look : σ → α) (put : α → σ → σ) : Prop where
  look_put : ∀ v a, taken? v = some a → ∀ s, look (put a s) = a
  start : ∀ id, look (schema.start id) = initial
  assigned : schema.assigned = schema.slots
  finish : ∀ s, schema.finish s = pure ()
  found : ∃ slot, schema.slots.find? (·.name == key) = some slot ∧
    (∀ s v, (slot.store s v).Answers ((taken? v).map (put · s))) ∧
    (∀ s, slot.absent s = pure s) ∧
    ∀ other ∈ schema.slots, other = slot ∨ other.name ≠ key ∧ other.Spares look

namespace Schema.Takes

variable {σ α : Type} {schema : Schema σ} {key : String} {taken? : Value → Option α}
  {initial : α} {look : σ → α} {put : α → σ → σ}

/-- What is built holds what is given, whatever that is. -/
theorem yields_build (h : schema.Takes key taken? initial look put) (members : Members) :
    (schema.build members).Yields fun s =>
      givenMember? taken? initial members key = some (look s) := by
  obtain ⟨slot, hfind, hstore, habsent, hothers⟩ := h.found
  have hname : slot.name = key := by simpa using List.find?_some hfind
  have hmem := List.mem_of_find?_eq_some hfind
  unfold givenMember?
  cases hmember : Value.member? members key with
  | none =>
    dsimp only
    refine Schema.yields_build (fun id => by rw [h.start id]) fun other hother => ?_
    obtain rfl | ⟨-, hspares⟩ := hothers other hother
    · intro s hs
      rw [Slot.read_of_unmentioned (hname ▸ hmember), habsent]
      exact (Check.yields_pure (P := fun s => some initial = some (look s)) hs).within _
    · exact hspares.frames fun a => some initial = some a
  | some v =>
    dsimp only
    have hread : ∀ s, (slot.read members s).Answers ((taken? v).map (put · s)) := by
      intro s
      rw [Slot.read_of_mentioned (hname ▸ hmember)]
      exact (hstore s v).within _
    have hdecides : slot.Decides members fun s => taken? v = some (look s) := by
      constructor
      · intro s ledger after hafter
        obtain ⟨r, hr, hanswer, -⟩ := hread s
        have hok : r = .ok after := by rw [← hafter, hr ledger]
        rw [hok] at hanswer
        obtain ⟨a, ha, rfl⟩ := Option.map_eq_some_iff.mp hanswer.symm
        rw [ha, h.look_put v a ha]
      · intro s ledger
        obtain ⟨r, hr, -, hne⟩ := hread s
        rw [hr ledger]
        exact hne
    refine yields_build_of_readAll fun id => ?_
    refine Slot.yields_readAll_of_decides ⟨slot, hmem, hdecides⟩ (fun other hother => ?_) _
    obtain rfl | ⟨-, hspares⟩ := hothers other hother
    · exact hdecides.established.frames
    · exact hspares.frames fun a => taken? v = some a

/-- An assignment to the field is accepted where the value gives something, whatever it is. -/
theorem assign (h : schema.Takes key taken? initial look put) (v : Value) (s : σ)
    (ledger : Ledger) :
    (∀ a, taken? v = some a →
      ∃ last, schema.assign key v s ledger = ((.ok (), put a s), last)) ∧
    (taken? v = none →
      ∃ fault last, schema.assign key v s ledger = ((.error fault, s), last)) := by
  obtain ⟨slot, hfind, hstore, -, -⟩ := h.found
  rw [← h.assigned] at hfind
  obtain ⟨hsome, hnone⟩ := Schema.assign_of_answers h.finish hfind (hstore s v) ledger
  exact ⟨fun a ha => hsome _ (congrArg _ ha), fun ha => hnone (congrArg _ ha)⟩

theorem ends_assign_of_ne (h : schema.Takes key taken? initial look put) {name : String}
    (hname : name ≠ key) (v : Value) (s : σ) :
    Ends (schema.assign name v) s fun after => look after = look s := by
  cases hfind : schema.assigned.find? (·.name == name) with
  | none =>
    intro ledger
    rw [Schema.assign, hfind]
    rfl
  | some slot =>
    refine Schema.ends_assign hfind rfl ?_
    have hslot : slot.name = name := by simpa using List.find?_some hfind
    obtain ⟨own, hown, -, -, hothers⟩ := h.found
    rw [h.assigned] at hfind
    obtain rfl | ⟨-, hspares⟩ := hothers slot (List.mem_of_find?_eq_some hfind)
    · have hkey : slot.name = key := by simpa using List.find?_some hown
      exact absurd (hslot.symm.trans hkey) hname
    · exact hspares.store s v

end Schema.Takes

/-- What an edit comes to, as a call that makes it, or as an assignment. -/
theorem Entity.edited_eq {σ α : Type} {c : EntityClass σ} {s after : σ} {x : Edit σ α}
    {ledger last : Ledger} {result : Except Fault α}
    (h : x s ledger = ((result, after), last)) :
    edited c s x ledger = ((result, c.entity after), last) := by
  rw [edited, h]

/-- The field in which a class keeps labels: its name, the call that adds one, and the texts that a
value gives to the field. -/
structure LabelField where
  key : String
  verb : Verb
  taken? : Value → Option (List String)

namespace LabelField

/-- What an object gives. An object that does not mention the field gives no label. -/
def given? (f : LabelField) (members : Members) : Option (List String) :=
  match Value.member? members f.key with
  | none => some []
  | some v => f.taken? v

/-- The arguments of a macro. -/
def args : LabelField := ⟨"args", .newArg, Value.texts?⟩

/-- The tags of a record. -/
def tags : LabelField := ⟨"annotations", .annotate, Value.texts?⟩

/-- The file name of a scope. -/
def filename : LabelField :=
  ⟨"filename", .setFilename, fun v => (Jump.targetOf? v).map Option.toList⟩

end LabelField

open Slot in
theorem Macro.labels : schema.Takes "args" Value.texts? [] Macro.args
    (fun texts m => { m with args := texts }) where
  look_put _ _ _ _ := rfl
  start _ := rfl
  assigned := rfl
  finish _ := rfl
  found := by
    refine ⟨_, rfl, fun s v => (Rule.answers_texts v).map _, fun _ => rfl, fun slot hslot => ?_⟩
    simp only [schema, Documented.slots, List.map_cons, List.map_nil, List.cons_append,
      List.nil_append, List.mem_cons, List.not_mem_nil, or_false] at hslot
    rcases hslot with rfl | rfl | rfl | rfl | rfl
    · exact .inr ⟨by decide, spares_zoom fun _ _ => rfl⟩
    · exact .inr ⟨by decide, spares_zoom fun _ _ => rfl⟩
    · exact .inr ⟨by decide, spares_fixed _ _⟩
    · exact .inl rfl
    · exact .inr ⟨by decide, spares_optional _ _ fun _ _ => rfl⟩

open Slot in
theorem Record.labels (kind : RecordKind) : (schema kind).Takes "annotations" Value.texts?
    [] (·.annotations.map Remark.shown)
    (fun texts r => { r with annotations := texts.map .text }) where
  look_put _ texts _ _ := by
    rw [List.map_map]
    exact List.map_id texts
  start _ := rfl
  assigned := rfl
  finish _ := rfl
  found := by
    refine ⟨_, rfl, fun s v => (Rule.answers_texts v).map _, fun _ => rfl, fun slot hslot => ?_⟩
    simp only [schema, Documented.slots, List.map_cons, List.map_nil, List.cons_append,
      List.nil_append, List.mem_cons, List.not_mem_nil, or_false] at hslot
    rcases hslot with rfl | rfl | rfl | rfl | rfl
    · exact .inr ⟨by decide, spares_zoom fun _ _ => rfl⟩
    · exact .inr ⟨by decide, spares_zoom fun _ _ => rfl⟩
    · exact .inr ⟨by decide, spares_optional _ _ fun _ _ => rfl⟩
    · exact .inl rfl
    · exact .inr ⟨show "kind" ≠ "annotations" by decide, spares_fixed _ _⟩

open Slot in
theorem Scope.labels : (schema ScopeItem.rule).Takes "filename" LabelField.filename.taken? []
    (·.filename.toList) (fun texts s => { s with filename := texts.head? }) where
  look_put v texts htexts _ := by
    obtain ⟨target, -, rfl⟩ := Option.map_eq_some_iff.mp htexts
    cases target <;> rfl
  start _ := rfl
  assigned := rfl
  finish _ := rfl
  found := by
    refine ⟨_, rfl, fun s v => ?_, fun _ => rfl, fun slot hslot => ?_⟩
    · have hstore : (LabelField.filename.taken? v).map
          (fun texts => ({ s with filename := texts.head? } : Scope)) =
          (Jump.targetOf? v).map fun target => { s with filename := target } := by
        change ((Jump.targetOf? v).map Option.toList).map _ = _
        rw [Option.map_map]
        refine congrArg (Option.map · _) (funext fun target => ?_)
        cases target <;> rfl
      rw [hstore]
      exact (Rule.answers_nullable_text v).map _
    · simp only [schema, List.mem_cons, List.not_mem_nil, or_false] at hslot
      rcases hslot with rfl | rfl | rfl
      · exact .inl rfl
      · exact .inr ⟨by decide, spares_optional _ _ fun _ _ => rfl⟩
      · exact .inr ⟨by decide, spares_optional _ _ fun _ _ => rfl⟩

end CWriter
