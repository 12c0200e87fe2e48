import CWriter.Proofs.Flags.Runs
import CWriter.Proofs.Notes.Remarks
import CWriter.Proofs.WellFormed.Taken

/-!
# Labels along a run

The arguments of a macro, the tags of a record and the file name of a scope are held to the rule
for names by one call each, and by nothing else: an object to build from and an assignment may
give any texts. So labels that can stand in a declaration are kept by every call and by every other
assignment, and a run of both loses them exactly where it assigns a text that the call refuses.
-/
namespace CWriter

open Edit

/-- A value whose text can stand in a declaration. -/
def Value.Spelt (v : Value) : Prop :=
  v.countsAsTrue = true ∧ Identifier.Acceptable v.plainText

instance (v : Value) : Decidable v.Spelt := inferInstanceAs (Decidable (_ ∧ _))

/-- An argument that must be a name is handed on if it is one, and is refused if it is none. -/
theorem Edit.identifierArg_bind {σ α : Type} (v : Value) (next : Identifier → Edit σ α) (s : σ)
    (ledger : Ledger) :
    (∀ h : v.Spelt, (identifierArg v >>= next) s ledger = next ⟨v.plainText, h.2⟩ s ledger) ∧
    (¬v.Spelt → ∃ fault, (identifierArg v >>= next) s ledger =
      ((.error (.identifier fault), s), ledger)) := by
  constructor
  · intro h
    have hchecked := Identifier.check_eq_ok_iff (i := ⟨v.plainText, h.2⟩).mpr rfl
    refine bind_of_ok ?_ next
    rw [identifierArg, if_pos h.1, hchecked]
    rfl
  · intro h
    by_cases htrue : v.countsAsTrue = true
    · cases hcheck : Identifier.check v.plainText with
      | ok i =>
        exact absurd ⟨htrue, Identifier.check_eq_ok_iff.mp hcheck ▸ i.acceptable⟩ h
      | error fault =>
        refine ⟨fault, bind_of_error ?_ next⟩
        rw [identifierArg, if_pos htrue, hcheck]
        rfl
    · refine ⟨.blank, bind_of_error ?_ next⟩
      rw [identifierArg, if_neg htrue]
      rfl

theorem Edit.ends_identifierArg_bind {σ α : Type} {v : Value} {next : Identifier → Edit σ α}
    {s : σ} {Q : σ → Prop} (hs : Q s) (hnext : ∀ i, Ends (next i) s Q) :
    Ends (identifierArg v >>= next) s Q := by
  intro ledger
  obtain ⟨haccepted, hrefused⟩ := identifierArg_bind v next s ledger
  by_cases h : v.Spelt
  · rw [haccepted h]
    exact hnext _ ledger
  · obtain ⟨fault, hfault⟩ := hrefused h
    rw [hfault]
    exact hs

theorem Value.acceptable_remark {v : Value} (h : v.Spelt) :
    Identifier.Acceptable v.remark.shown := by
  cases v with
  | word w => exact Record.acceptable_word w
  | _ => exact h.2

/-- Labels each of which can stand in a declaration. -/
def AllSpelt (labels : List String) : Prop := ∀ text ∈ labels, Identifier.Acceptable text

instance (labels : List String) : Decidable (AllSpelt labels) :=
  inferInstanceAs (Decidable (∀ text ∈ labels, _))

theorem AllSpelt.concat {labels : List String} {text : String} (h : AllSpelt labels)
    (htext : Identifier.Acceptable text) : AllSpelt (labels ++ [text]) :=
  List.forall_mem_append.mpr ⟨h, List.forall_mem_singleton.mpr htext⟩

namespace Macro

def Spelt (m : Macro) : Prop := AllSpelt m.args

theorem newArg_eq (v : Value) (m : Macro) (ledger : Ledger) :
    (v.Spelt → newArg v m ledger = ((.ok (), { m with args := m.args ++ [v.plainText] }), ledger)) ∧
    (¬v.Spelt → ∃ fault, newArg v m ledger = ((.error (.identifier fault), m), ledger)) := by
  obtain ⟨haccepted, hrefused⟩ := identifierArg_bind v
    (fun arg => modify fun m : Macro => { m with args := m.args ++ [arg.text] }) m ledger
  exact ⟨haccepted, hrefused⟩

theorem ends_methods {verb : Verb} {args : List Value} {x : Edit Macro Reply}
    (hx : methods verb args = some x) {m : Macro} (hm : m.Spelt) : Ends x m Spelt := by
  unfold methods at hx
  split at hx
  · obtain rfl := Option.some.inj hx
    exact Ends.chained (ends_identifierArg_bind hm fun i =>
      ends_modify (AllSpelt.concat hm i.acceptable))
  · obtain rfl := Option.some.inj hx
    exact Ends.chained (ends_assign_other rfl hm fun _ => hm)
  · exact ends_zoomMethods hx fun _ => hm

end Macro

namespace Record

def Spelt (r : Record) : Prop := AllSpelt (r.annotations.map Remark.shown)

theorem annotate_eq (v : Value) (r : Record) (ledger : Ledger) :
    (v.Spelt → annotate v r ledger =
      ((.ok (), { r with annotations := r.annotations ++ [v.remark] }), ledger)) ∧
    (¬v.Spelt → ∃ fault, annotate v r ledger = ((.error (.identifier fault), r), ledger)) := by
  refine ⟨fun h => ((identifierArg_bind v _ r ledger).1 h).trans ?_,
    (identifierArg_bind v _ r ledger).2⟩
  cases v with
  | word => rfl
  | _ => rfl

theorem ends_annotate (v : Value) {r : Record} (hr : r.Spelt) : Ends (annotate v) r Spelt := by
  intro ledger
  obtain ⟨haccepted, hrefused⟩ := annotate_eq v r ledger
  by_cases h : v.Spelt
  · rw [haccepted h, Spelt, List.map_append]
    exact hr.concat (v.acceptable_remark h)
  · obtain ⟨fault, hfault⟩ := hrefused h
    rw [hfault]
    exact hr

theorem ends_methods {verb : Verb} {args : List Value} {x : Edit Record Reply}
    (hx : methods verb args = some x) {r : Record} (hr : r.Spelt) : Ends x r Spelt := by
  have hkept : ∀ s : Record, s.Spelt → s.Spelt := fun _ h => h
  unfold methods at hx
  split at hx
  · obtain rfl := Option.some.inj hx
    refine Ends.map (Ends.map (Ends.bind (ends_check hr _) hkept fun f between h => ?_) _) _
    exact (ends_modify h).bind hkept fun _ _ h => ends_pure h _
  · obtain rfl := Option.some.inj hx
    exact Ends.chained (Ends.bind (ends_check hr _) hkept fun _ _ h => ends_modify h)
  · obtain rfl := Option.some.inj hx
    exact ends_looking hr _
  · obtain rfl := Option.some.inj hx
    exact ends_looking hr _
  · obtain rfl := Option.some.inj hx
    exact Ends.chained (ends_annotate _ hr)
  · obtain rfl := Option.some.inj hx
    exact Ends.map (ends_get_bind (ends_check hr _)) _
  · exact ends_zoomMethods hx fun _ => hr

end Record

namespace Scope

def Spelt (s : Scope) : Prop := AllSpelt s.filename.toList

theorem setFilename_eq (v : Value) (s : Scope) (ledger : Ledger) :
    (v.Spelt → setFilename v s ledger =
      ((.ok (), { s with filename := some v.plainText }), ledger)) ∧
    (¬v.Spelt → ∃ fault, setFilename v s ledger = ((.error (.identifier fault), s), ledger)) := by
  obtain ⟨haccepted, hrefused⟩ := identifierArg_bind v
    (fun name => modify fun s : Scope => { s with filename := some name.text }) s ledger
  exact ⟨haccepted, hrefused⟩

theorem ends_adding {α : Type} {item : α → ScopeItem} {y : Check α} {x : Edit Scope Reply}
    (hx : adding item y = some x) {s : Scope} (hs : s.Spelt) : Ends x s Spelt := by
  have hkept : ∀ s : Scope, s.Spelt → s.Spelt := fun _ h => h
  obtain rfl := Option.some.inj hx
  refine Ends.map (Ends.map (Ends.bind (Ends.map (ends_check hs y) item) hkept ?_) _) _
  exact fun _ _ h => (ends_modify h).bind hkept fun _ _ h => ends_pure h _

theorem ends_methods {verb : Verb} {args : List Value} {x : Edit Scope Reply}
    (hx : methods verb args = some x) {s : Scope} (hs : s.Spelt) : Ends x s Spelt := by
  have hkept : ∀ s : Scope, s.Spelt → s.Spelt := fun _ h => h
  unfold methods at hx
  split at hx
  · obtain rfl := Option.some.inj hx
    exact Ends.chained (ends_identifierArg_bind hs fun i =>
      ends_modify (List.forall_mem_singleton.mpr i.acceptable))
  · obtain rfl := Option.some.inj hx
    refine Ends.chained (ends_get_bind (Ends.bind (ends_check hs _) hkept fun _ _ h => ?_))
    exact ends_modify h
  · obtain rfl := Option.some.inj hx
    exact Ends.chained (Ends.bind (ends_check hs _) hkept fun _ _ h => ends_modify h)
  -- All that is left are the calls that append a new item, and what the class does not know.
  all_goals first
    | exact ends_adding hx hs
    | cases hx

end Scope

namespace Entity

def labelField? : Entity → Option LabelField
  | definition _ => some .args
  | record _ => some .tags
  | scope _ => some .filename
  | _ => none

/-- The labels as they are shown. -/
def labels : Entity → List String
  | definition m => m.args
  | record r => r.annotations.map Remark.shown
  | scope s => s.filename.toList
  | _ => []

/-- An entity with other labels, if it is one that has labels. -/
def relabelled (texts : List String) : Entity → Entity
  | definition m => definition { m with args := texts }
  | record r => record { r with annotations := texts.map .text }
  | scope s => scope { s with filename := texts.head? }
  | e => e

/-- An entity with one label more. A scope has one label only, which is replaced. -/
def labelled (v : Value) : Entity → Entity
  | definition m => definition { m with args := m.args ++ [v.plainText] }
  | record r => record { r with annotations := r.annotations ++ [v.remark] }
  | scope s => scope { s with filename := some v.plainText }
  | e => e

variable {e : Entity} {f : LabelField}

theorem labels_relabelled (hf : e.labelField? = some f) {v : Value} {texts : List String}
    (htexts : f.taken? v = some texts) : (e.relabelled texts).labels = texts := by
  cases e with
  | definition m => rfl
  | record r =>
    cases hf
    exact (Record.labels r.kind).look_put v texts htexts r
  | scope s =>
    cases hf
    exact Scope.labels.look_put v texts htexts s
  | _ => cases hf

theorem edited_chained_eq {σ : Type} {c : EntityClass σ} {s after : σ} {x : Edit σ Unit}
    {ledger last : Ledger} {result : Except Fault Unit}
    (h : x s ledger = ((result, after), last)) :
    edited c s (x *> pure Reply.itself) ledger =
      ((result.map fun _ => .itself, c.entity after), last) := by
  refine edited_eq ?_
  cases result with
  | ok a => exact bind_of_ok h _
  | error fault => exact bind_of_error h _

/-- The call that adds a label takes what can stand in a declaration, and nothing else. -/
theorem call?_label (hf : e.labelField? = some f) (v : Value) :
    ∃ call, e.call? f.verb [v] = some call ∧ ∀ ledger,
      (v.Spelt → call ledger = ((.ok .itself, e.labelled v), ledger)) ∧
      (¬v.Spelt → ∃ fault, call ledger = ((.error (.identifier fault), e), ledger)) := by
  cases e with
  | definition m =>
    cases hf
    refine ⟨_, rfl, fun ledger => ?_⟩
    obtain ⟨haccepted, hrefused⟩ := Macro.newArg_eq v m ledger
    exact ⟨fun h => edited_chained_eq (haccepted h),
      fun h => (hrefused h).imp fun _ hfault => edited_chained_eq hfault⟩
  | record r =>
    cases hf
    refine ⟨_, rfl, fun ledger => ?_⟩
    obtain ⟨haccepted, hrefused⟩ := Record.annotate_eq v r ledger
    exact ⟨fun h => edited_chained_eq (haccepted h),
      fun h => (hrefused h).imp fun _ hfault => edited_chained_eq hfault⟩
  | scope s =>
    cases hf
    refine ⟨_, rfl, fun ledger => ?_⟩
    obtain ⟨haccepted, hrefused⟩ := Scope.setFilename_eq v s ledger
    exact ⟨fun h => edited_chained_eq (haccepted h),
      fun h => (hrefused h).imp fun _ hfault => edited_chained_eq hfault⟩
  | _ => cases hf

/-- An assignment to the field takes any texts. -/
theorem assignTo_label (hf : e.labelField? = some f) (v : Value) (ledger : Ledger) :
    (∀ texts, f.taken? v = some texts →
      ∃ last, e.assignTo f.key v ledger = ((.ok (), e.relabelled texts), last)) ∧
    (f.taken? v = none →
      ∃ fault last, e.assignTo f.key v ledger = ((.error fault, e), last)) := by
  cases e with
  | definition m =>
    cases hf
    obtain ⟨hsome, hnone⟩ := Macro.labels.assign v m ledger
    exact ⟨fun texts h => (hsome texts h).imp fun _ => edited_eq,
      fun h => (hnone h).imp fun _ => Exists.imp fun _ => edited_eq⟩
  | record r =>
    cases hf
    obtain ⟨hsome, hnone⟩ := (Record.labels r.kind).assign v r ledger
    exact ⟨fun texts h => (hsome texts h).imp fun _ => edited_eq,
      fun h => (hnone h).imp fun _ => Exists.imp fun _ => edited_eq⟩
  | scope s =>
    cases hf
    obtain ⟨hsome, hnone⟩ := Scope.labels.assign v s ledger
    exact ⟨fun texts h => (hsome texts h).imp fun _ => edited_eq,
      fun h => (hnone h).imp fun _ => Exists.imp fun _ => edited_eq⟩
  | _ => cases hf

/-- A call, or an assignment with the state of the ledger that it finds. -/
inductive Change where
  | call (r : Request)
  | assign (name : String) (v : Value) (ledger : Ledger)

/-- What a change leaves of an entity, whether or not it succeeds. -/
def changed (e : Entity) : Change → Entity
  | .call r => e.after r
  | .assign name v ledger => (e.assignTo name v ledger).1.2

def changedAll (e : Entity) (changes : List Change) : Entity := changes.foldl changed e

theorem changedAll_append (e : Entity) (changes : List Change) (c : Change) :
    e.changedAll (changes ++ [c]) = (e.changedAll changes).changed c := by
  simp only [changedAll, List.foldl_append, List.foldl_cons, List.foldl_nil]

/-- What holds of an entity and wherever the assignment of its class ends holds after it. -/
theorem assignTo_of_ends {P : Entity → Prop} {name : String} {v : Value} (he : P e)
    (hends : e.byClass fun c x => Ends (c.assign name v) x fun after => P (c.entity after))
    (ledger : Ledger) : P (e.assignTo name v ledger).1.2 := by
  rw [assignTo]
  split
  · exact he
  split
  · exact he
  cases e <;> exact hends ledger

theorem labelField?_changed (hf : e.labelField? = some f) (c : Change) :
    (e.changed c).labelField? = some f := by
  cases c with
  | call r =>
    refine after_of_byClass (P := fun e => e.labelField? = some f) hf ?_ r
    cases e <;> exact fun _ => hf
  | assign name v ledger =>
    refine assignTo_of_ends (P := fun e => e.labelField? = some f) hf ?_ ledger
    cases e <;> exact fun _ => hf

/-- No call makes a label that cannot stand in a declaration. -/
theorem spelt_after (hf : e.labelField? = some f) (he : AllSpelt e.labels) (r : Request) :
    AllSpelt (e.after r).labels := by
  cases e with
  | definition m =>
    exact after_of_ends (c := .definition) (P := fun e => AllSpelt e.labels) rfl he
      fun _ hx => Macro.ends_methods hx he
  | record m =>
    exact after_of_ends (c := .record m.kind) (P := fun e => AllSpelt e.labels) rfl he
      fun _ hx => Record.ends_methods hx he
  | scope s =>
    exact after_of_ends (c := .scope) (P := fun e => AllSpelt e.labels) rfl he
      fun _ hx => Scope.ends_methods hx he
  | _ => cases hf

/-- Other fields do not look at the labels. -/
theorem labels_assignTo_of_ne (hf : e.labelField? = some f) {name : String} (hname : name ≠ f.key)
    (v : Value) (ledger : Ledger) : (e.assignTo name v ledger).1.2.labels = e.labels := by
  refine assignTo_of_ends (P := fun after => after.labels = e.labels) rfl ?_ ledger
  cases e with
  | definition m =>
    cases hf
    exact Macro.labels.ends_assign_of_ne hname v m
  | record r =>
    cases hf
    exact (Record.labels r.kind).ends_assign_of_ne hname v r
  | scope s =>
    cases hf
    exact Scope.labels.ends_assign_of_ne hname v s
  | _ => cases hf

/-- One change: the labels stay spelt unless others are assigned that are not. -/
theorem spelt_changed (hf : e.labelField? = some f) (he : AllSpelt e.labels) {c : Change}
    (hc : ∀ v ledger texts, c = .assign f.key v ledger → f.taken? v = some texts →
      AllSpelt texts) : AllSpelt (e.changed c).labels := by
  cases c with
  | call r => exact spelt_after hf he r
  | assign name v ledger =>
    by_cases hname : name = f.key
    · subst hname
      obtain ⟨hsome, hnone⟩ := assignTo_label hf v ledger
      rw [changed]
      cases htaken : f.taken? v with
      | none =>
        obtain ⟨fault, last, hrefused⟩ := hnone htaken
        rw [hrefused]
        exact he
      | some texts =>
        obtain ⟨last, haccepted⟩ := hsome texts htaken
        rw [haccepted, labels_relabelled hf htaken]
        exact hc v ledger texts rfl htaken
    · rw [changed, labels_assignTo_of_ne hf hname]
      exact he

theorem labels_changed_assign (hf : e.labelField? = some f) {v : Value} {texts : List String}
    (htaken : f.taken? v = some texts) (ledger : Ledger) :
    (e.changed (.assign f.key v ledger)).labels = texts := by
  obtain ⟨last, haccepted⟩ := (assignTo_label hf v ledger).1 texts htaken
  rw [changed, haccepted, labels_relabelled hf htaken]

theorem labelField?_changedAll (hf : e.labelField? = some f) (changes : List Change) :
    (e.changedAll changes).labelField? = some f := by
  induction changes generalizing e with
  | nil => exact hf
  | cons c rest ih => exact ih (labelField?_changed hf c)

/-- The labels stay spelt all along a run if and only if they are at first and no assignment of the
run gives others that are not. -/
theorem spelt_changedAll_iff (hf : e.labelField? = some f) (changes : List Change) :
    (∀ p, p <+: changes → AllSpelt (e.changedAll p).labels) ↔
      AllSpelt e.labels ∧ ∀ p v ledger texts, p ++ [.assign f.key v ledger] <+: changes →
        f.taken? v = some texts → AllSpelt texts := by
  constructor
  · intro hspelt
    refine ⟨hspelt [] (List.nil_prefix), fun p v ledger texts hp htaken => ?_⟩
    have hafter := hspelt _ hp
    rwa [changedAll_append, labels_changed_assign (labelField?_changedAll hf p) htaken] at hafter
  · rintro ⟨he, hgiven⟩ p
    -- The first assignment of such labels would come at the end of the prefix.
    induction p using List.reverseRecOn with
    | nil => exact fun _ => he
    | append_singleton p c ih =>
      intro hp
      rw [changedAll_append]
      refine spelt_changed (labelField?_changedAll hf p)
        (ih ((List.prefix_append p [c]).trans hp)) ?_
      rintro v ledger texts rfl htaken
      exact hgiven p v ledger texts hp htaken

/-- The classes that keep labels. -/
def labelledClasses : List String := ["Macro", "Struct", "Union", "Scope"]

/-- What is built from an object has the labels that the object gives, whatever they are. -/
theorem labels_of_built {className : String} {members : Members} {check : Check Value}
    {ledger : Ledger} (hclass : className ∈ labelledClasses)
    (hcheck : acceptNamed className (.object members) = some check)
    (hbuilt : (check ledger).1 = .ok (.entity e)) :
    ∃ f, e.labelField? = some f ∧ f.given? members = some e.labels := by
  have hyields : check.Yields fun v => ∀ e, v = .entity e →
      ∃ f, e.labelField? = some f ∧ f.given? members = some e.labels := by
    simp only [labelledClasses, List.mem_cons, List.not_mem_nil, or_false] at hclass
    rcases hclass with rfl | rfl | rfl | rfl
    · obtain rfl := Option.some.inj hcheck
      refine ((Macro.labels.yields_build members).imp fun m hm => ?_).map
      rintro e ⟨⟩
      exact ⟨_, rfl, hm⟩
    · obtain rfl := Option.some.inj hcheck
      refine (((Record.labels .struct).yields_build members).imp fun r hr => ?_).map
      rintro e ⟨⟩
      exact ⟨_, rfl, hr⟩
    · obtain rfl := Option.some.inj hcheck
      refine (((Record.labels .union).yields_build members).imp fun r hr => ?_).map
      rintro e ⟨⟩
      exact ⟨_, rfl, hr⟩
    · obtain rfl := Option.some.inj hcheck
      refine ((Scope.labels.yields_build members).imp fun s hs => ?_).map
      rintro e ⟨⟩
      exact ⟨_, rfl, hs⟩
  exact hyields _ _ hbuilt e rfl

/-- The labels of an entity that is built from an object are the ones given, and they stay fit to
stand in a declaration along a run of calls and assignments if and only if all that are given, by
the object or by an assignment to their field, are. In every state of the run the call that adds
one label accepts a value exactly if it is fit, while an assignment accepts all texts. The object
may stand at any depth in other data: nothing is said of the ledger that it is read with. -/
theorem labels_spelt_iff {className : String} {members : Members} {check : Check Value}
    {ledger : Ledger} (hclass : className ∈ labelledClasses)
    (hcheck : acceptNamed className (.object members) = some check)
    (hbuilt : (check ledger).1 = .ok (.entity e)) :
    ∃ f given, e.labelField? = some f ∧ f.given? members = some given ∧ e.labels = given ∧
      ∀ changes : List Change,
        ((∀ p, p <+: changes → AllSpelt (e.changedAll p).labels) ↔
          AllSpelt given ∧ ∀ p v ledger texts, p ++ [.assign f.key v ledger] <+: changes →
            f.taken? v = some texts → AllSpelt texts) ∧
        ∀ v, (∃ call, (e.changedAll changes).call? f.verb [v] = some call ∧ ∀ ledger,
            (v.Spelt → call ledger = ((.ok .itself, (e.changedAll changes).labelled v), ledger)) ∧
            (¬v.Spelt → ∃ fault,
              call ledger = ((.error (.identifier fault), e.changedAll changes), ledger))) ∧
          ∀ ledger,
            (∀ texts, f.taken? v = some texts → ∃ last,
              (e.changedAll changes).assignTo f.key v ledger =
                ((.ok (), (e.changedAll changes).relabelled texts), last)) ∧
            (f.taken? v = none → ∃ fault last,
              (e.changedAll changes).assignTo f.key v ledger =
                ((.error fault, e.changedAll changes), last)) := by
  obtain ⟨f, hf, hgiven⟩ := labels_of_built hclass hcheck hbuilt
  refine ⟨f, _, hf, hgiven, rfl, fun changes => ⟨spelt_changedAll_iff hf changes, fun v => ?_⟩⟩
  have hnow := labelField?_changedAll hf changes
  exact ⟨call?_label hnow v, assignTo_label hnow v⟩

/-- A struct that is built with one tag, and to which others are assigned afterwards. -/
theorem labels_spelt_iff_struct :
    let members : Members := [("name", .str "s"), ("annotations", .list [.str "packed"])]
    let blank : Change := .assign "annotations" (.list [.str "packed", .str " "]) {}
    ∃ check e, acceptNamed "Struct" (.object members) = some check ∧
      (check {}).1 = .ok (.entity e) ∧ AllSpelt e.labels ∧
      ¬∀ p, p <+: [blank] → AllSpelt (e.changedAll p).labels := by
  intro members blank
  obtain ⟨check, e, hcheck, hbuilt⟩ : ∃ check e,
      acceptNamed "Struct" (.object members) = some check ∧ (check {}).1 = .ok (.entity e) :=
    ⟨_, _, rfl, rfl⟩
  obtain ⟨f, given, hf, hgiven, hlabels, hruns⟩ := labels_spelt_iff (by decide) hcheck hbuilt
  cases hcheck
  cases hbuilt
  cases hf
  refine ⟨_, _, rfl, rfl, by decide, fun hspelt => ?_⟩
  have hassigned := ((hruns [blank]).1.mp hspelt).2 [] _ _ ["packed", " "] List.prefix_rfl rfl
  exact absurd hassigned (by decide)

/-- The constructor takes an argument that the call refuses, and the directive is written with
it. -/
theorem labels_spelt_macro :
    (¬∀ (className : String) (members : Members) (check : Check Value) (ledger : Ledger)
      (e : Entity), className ∈ labelledClasses →
        acceptNamed className (.object members) = some check →
        (check ledger).1 = .ok (.entity e) → AllSpelt e.labels) ∧
    ∃ m : Macro, m.args = ["a\nb"] ∧ (Entity.definition m).text {} = .ok "#define M(a\nb)\n" ∧
      Macro.newArg (.str "a\nb") { m with args := [] } {} =
        ((.error (.identifier (.lineBreak "a\nb")), { m with args := [] }), {}) := by
  refine ⟨fun h => ?_, { id := 1, name := ⟨"M", by decide⟩, args := ["a\nb"] }, rfl,
    by decide +kernel, rfl⟩
  have hspelt := h "Macro" [("name", .str "M"), ("args", .list [.str "a\nb"])] _ {} _ (by decide)
    rfl rfl
  exact absurd hspelt (by decide)

end Entity

end CWriter
