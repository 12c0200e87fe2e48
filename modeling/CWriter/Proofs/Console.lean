import CWriter.Files.Save
import CWriter.Proofs.Layout.Lines
import Mathlib.Data.List.TakeWhile

/-!
# What a console shows

A message is shown as it is unless it holds a tag, a backslash, the name of an emoji between colons
or a character that moves the cursor. Between the tags of a style such a message is shown without
the tags. No message puts a tab or a terminal control on the console.
-/
namespace CWriter.Console

theorem closeTag?_append {inside : List Char} (h : ∀ c ∈ inside, c ≠ '[' ∧ c ≠ ']')
    (rest : List Char) : closeTag? (inside ++ ']' :: rest) = some (inside, rest) := by
  induction inside with
  | nil => rfl
  | cons c inside ih =>
    obtain ⟨⟨hopen, hclose⟩, hinside⟩ := List.forall_mem_cons.mp h
    rw [List.cons_append, closeTag?, ih hinside]
    · rfl
    · exact fun hc => hclose hc
    · exact fun hc => hopen hc

/-- The inside of a tag. -/
structure IsTag (inside : List Char) : Prop where
  start : ∃ c rest, inside = c :: rest ∧ isTagStart c = true
  closed : ∀ c ∈ inside, c ≠ '[' ∧ c ≠ ']'

theorem IsTag.takeTag?_append {inside : List Char} (h : IsTag inside) (rest : List Char) :
    takeTag? ('[' :: inside ++ ']' :: rest) = some (inside, rest) := by
  obtain ⟨c, more, rfl, hstart⟩ := h.start
  have hclose := closeTag?_append (fun d hd => h.closed d (List.mem_cons_of_mem _ hd)) rest
  simp only [List.cons_append, takeTag?, hstart, hclose]
  rfl

theorem IsTag.pieces_append {inside : List Char} (h : IsTag inside) (position : Nat)
    (rest : List Char) :
    pieces position ('[' :: inside ++ ']' :: rest) =
      .plain [] :: .tag position inside :: pieces (position + inside.length + 2) rest := by
  have htake := h.takeTag?_append rest
  rw [List.cons_append] at htake ⊢
  rw [pieces, if_neg (by decide)]
  split
  · next htag =>
    rw [htake] at htag
    cases htag
    rfl
  · next htag => rw [htake] at htag; cases htag

/-- No tag starts in a text. -/
def Untagged (cs : List Char) : Prop := ∀ c, ['[', c] <:+: cs → isTagStart c = false

theorem Untagged.tail {c : Char} {cs : List Char} (h : Untagged (c :: cs)) : Untagged cs :=
  fun d hd => h d (hd.trans (List.suffix_cons c cs).isInfix)

theorem takeTag?_eq_none {c : Char} {cs : List Char} (h : Untagged (c :: cs)) {rest : List Char}
    (hrest : ∀ d ∈ rest.head?, isTagStart d = false) : takeTag? (c :: cs ++ rest) = none := by
  unfold takeTag?
  split
  · next d more hcons =>
    obtain ⟨rfl, htail⟩ := List.cons.inj hcons
    have hd : isTagStart d = false := by
      cases cs with
      | nil => exact hrest d (by rw [show rest = d :: more from htail]; rfl)
      | cons e cs =>
        obtain ⟨rfl, -⟩ := List.cons.inj htail
        exact h e ⟨[], cs, rfl⟩
    rw [hd]
    rfl
  · rfl

theorem consPlain_consPlain (cs ds : List Char) (ps : List Piece) :
    consPlain cs (consPlain ds ps) = consPlain (cs ++ ds) ps := by
  cases ps with
  | nil => rfl
  | cons p ps =>
    cases p with
    | plain text => exact congrArg (Piece.plain · :: ps) (List.append_assoc cs ds text).symm
    | tag position inside => rfl

theorem pieces_nil (position : Nat) : pieces position [] = [] := by
  rw [pieces]

/-- Text without tags is one piece, up to what stands behind it. -/
theorem pieces_append {cs : List Char} (hcs : Untagged cs) (hslash : '\\' ∉ cs) (hne : cs ≠ [])
    {rest : List Char} (hrest : ∀ d ∈ rest.head?, isTagStart d = false) (position : Nat) :
    pieces position (cs ++ rest) = consPlain cs (pieces (position + cs.length) rest) := by
  induction cs generalizing position with
  | nil => exact absurd rfl hne
  | cons c cs ih =>
    have hc : c ≠ '\\' := fun h => hslash (h ▸ List.mem_cons_self)
    have htake := takeTag?_eq_none hcs hrest
    rw [List.cons_append] at htake ⊢
    rw [pieces, if_neg hc]
    split
    · next htag => rw [htake] at htag; cases htag
    · cases cs with
      | nil => rfl
      | cons d cs =>
        rw [ih hcs.tail (fun h => hslash (List.mem_cons_of_mem _ h)) (List.cons_ne_nil _ _),
          consPlain_consPlain, List.length_cons, List.length_cons, Nat.add_right_comm,
          Nat.add_assoc]
        rfl

theorem unescaped_eq_self {cs : List Char} (h : '\\' ∉ cs) : unescaped cs = cs := by
  fun_induction unescaped cs with
  | case1 => rfl
  | case2 => exact absurd List.mem_cons_self h
  | case3 c rest _ ih => rw [ih fun hc => h (List.mem_cons_of_mem _ hc)]

/-- No emoji is named between two colons. -/
def Unnamed (cs : List Char) : Prop :=
  ∀ name, ':' :: name ++ [':'] <:+: cs → emojiOf? name = none

/-- What is read since a colon is put back where it leads to no emoji. The induction is on what is
still to be read. -/
theorem withEmoji_eq_self {cs : List Char} :
    (Unnamed cs → withEmoji none cs = cs) ∧
      ∀ read, Unnamed (':' :: read.reverse ++ cs) →
        withEmoji (some read) cs = ':' :: read.reverse ++ cs := by
  induction cs with
  | nil => exact ⟨fun _ => rfl, fun read _ => by rw [withEmoji, List.append_nil]⟩
  | cons c cs ih =>
    constructor
    · intro h
      have hrest : Unnamed cs := fun name hname =>
        h name (hname.trans (List.suffix_cons c cs).isInfix)
      rw [withEmoji]
      split
      · next hc =>
        subst hc
        exact ih.2 [] h
      · rw [ih.1 hrest]
    · intro read h
      have hrest : Unnamed cs := fun name hname =>
        h name (hname.trans ((List.suffix_cons c cs).trans (List.suffix_append _ _)).isInfix)
      rw [withEmoji]
      split
      · next hc =>
        subst hc
        have hnone : emojiOf? read.reverse = none := h _ ⟨[], cs, by simp⟩
        rw [hnone]
        dsimp only
        rw [ih.1 hrest, List.append_assoc]
        rfl
      · split
        · rw [ih.1 hrest, List.append_assoc]
          rfl
        · have hread := ih.2 (c :: read) (by simpa using h)
          simpa using hread

/-- A text that a console shows as it is. -/
structure Plain (cs : List Char) : Prop where
  untagged : Untagged cs
  unescaped : '\\' ∉ cs
  unnamed : Unnamed cs
  steady : ∀ c ∈ cs, c ≠ '\t' ∧ isTerminalControl c = false

/-- Characters that start neither a tag nor the name of an emoji, and stay as they are. -/
def isBare (c : Char) : Bool :=
  c != '[' && c != '\\' && c != ':' && c != '\t' && !isTerminalControl c

theorem Plain.of_all {cs : List Char} (h : cs.all isBare = true) : Plain cs := by
  have hbare : ∀ c ∈ cs, c ≠ '[' ∧ c ≠ '\\' ∧ c ≠ ':' ∧ c ≠ '\t' ∧ isTerminalControl c = false := by
    simpa [isBare, and_assoc] using h
  exact {
    untagged c hc := absurd rfl (hbare '[' (hc.subset List.mem_cons_self)).1
    unescaped hc := (hbare _ hc).2.1 rfl
    unnamed name hname := absurd rfl (hbare ':' (hname.subset (by simp))).2.2.1
    steady c hc := (hbare c hc).2.2.2 }

theorem Plain.shownText_eq {cs : List Char} (h : Plain cs) : shownText cs = cs := by
  rw [shownText, unescaped_eq_self h.unescaped, withEmoji_eq_self.1 h.unnamed,
    List.filter_eq_self.mpr fun c hc => by rw [(h.steady c hc).2]; rfl]

theorem expandTabs_eq_self {cs : List Char} (h : '\t' ∉ cs) (column : Nat) :
    expandTabs column cs = cs := by
  induction cs generalizing column with
  | nil => rfl
  | cons c cs ih =>
    have hc : c ≠ '\t' := fun heq => h (heq ▸ List.mem_cons_self)
    rw [expandTabs, if_neg hc, ih fun hmem => h (List.mem_cons_of_mem _ hmem)]

theorem flatten_intersperse_consHead (c d : Char) {pieces : List (List Char)} (h : pieces ≠ []) :
    ((Text.consHead d pieces).intersperse [c]).flatten = d :: (pieces.intersperse [c]).flatten := by
  obtain ⟨piece, rest, rfl⟩ := List.exists_cons_of_ne_nil h
  cases rest <;> rfl

/-- Pieces that are joined by what they were cut at are the whole again. -/
theorem flatten_intersperse_splitWhere (c : Char) (cs : List Char) :
    ((Text.splitWhere (· == c) cs).intersperse [c]).flatten = cs := by
  induction cs with
  | nil => rfl
  | cons d cs ih =>
    have hne := Text.splitWhere_ne_nil (· == c) cs
    rw [Text.splitWhere]
    split
    · next hd =>
      obtain ⟨piece, rest, hpieces⟩ := List.exists_cons_of_ne_nil hne
      rw [hpieces] at ih ⊢
      rw [List.intersperse_cons_cons, List.flatten_cons, List.flatten_cons, ih, beq_iff_eq.mp hd]
      rfl
    · rw [flatten_intersperse_consHead c d hne, ih]

/-- Text without tabs is shown as what comes of its pieces. -/
theorem shown_eq {s : String} {cs : List Char} (h : shownPieces [] (pieces 0 s.toList) = .ok cs)
    (htab : '\t' ∉ cs) : shown s = .ok (String.ofList cs) := by
  have hlines : (Text.splitWhere (· == '\n') cs).map (expandTabs 0) =
      Text.splitWhere (· == '\n') cs := by
    refine (List.map_congr_left fun piece hpiece => expandTabs_eq_self (fun hmem => ?_) 0).trans
      (List.map_id' _)
    exact htab (Text.mem_of_mem_splitWhere cs piece hpiece _ hmem).1
  rw [shown, h]
  change Except.ok (String.ofList
    (((Text.splitWhere (· == '\n') cs).map (expandTabs 0)).intersperse ['\n']).flatten) = _
  rw [hlines, flatten_intersperse_splitWhere]

/-- A plain message is shown as it is. -/
theorem shown_of_plain {s : String} (h : Plain s.toList) : shown s = .ok s := by
  have hpieces : shownPieces [] (pieces 0 s.toList) = .ok s.toList := by
    by_cases hne : s.toList = []
    · rw [hne, pieces_nil]
      rfl
    · have hend : ∀ d ∈ ([] : List Char).head?, isTagStart d = false := by simp
      have hone := pieces_append h.untagged h.unescaped hne hend 0
      rw [List.append_nil, pieces_nil] at hone
      rw [hone]
      change Except.ok (shownText s.toList ++ []) = _
      rw [h.shownText_eq, List.append_nil]
  rw [shown_eq hpieces fun htab => (h.steady _ htab).1 rfl, String.ofList_toList]

/-- The name of a style, as tags spell it. -/
structure IsStyle (style : List Char) : Prop where
  start : ∃ c rest, style = c :: rest ∧ isTagStart c = true ∧ c ≠ '/'
  closed : ∀ c ∈ style, c ≠ '[' ∧ c ≠ ']' ∧ c ≠ '='
  trimmed : Text.trim style = style

theorem IsStyle.opening {style : List Char} (h : IsStyle style) : IsTag style where
  start := h.start.imp fun _ => Exists.imp fun _ hs => ⟨hs.1, hs.2.1⟩
  closed c hc := ⟨(h.closed c hc).1, (h.closed c hc).2.1⟩

theorem IsStyle.closing {style : List Char} (h : IsStyle style) : IsTag ('/' :: style) where
  start := ⟨'/', style, rfl, rfl⟩
  closed := List.forall_mem_cons.mpr ⟨by decide, h.opening.closed⟩

theorem IsStyle.tagName_eq {style : List Char} (h : IsStyle style) : tagName style = style :=
  List.takeWhile_eq_self_iff.mpr fun c hc => by simpa using (h.closed c hc).2.2

/-- An opening tag opens its style, and the closing one ends it. -/
theorem IsStyle.shownPieces_opening {style : List Char} (h : IsStyle style) (position : Nat)
    (styles : List String) (ps : List Piece) :
    shownPieces styles (.tag position style :: ps) =
      shownPieces (normalName (String.ofList style) :: styles) ps := by
  obtain ⟨c, rest, hstyle, -, hslash⟩ := h.start
  rw [shownPieces.eq_def]
  dsimp only
  rw [h.tagName_eq]
  split
  · exact absurd (List.cons.inj hstyle).1.symm hslash
  · rfl

theorem IsStyle.shownPieces_closing {style : List Char} (h : IsStyle style) (position : Nat)
    (styles : List String) (ps : List Piece) :
    shownPieces (normalName (String.ofList style) :: styles) (.tag position ('/' :: style) :: ps) =
      shownPieces styles ps := by
  obtain ⟨c, rest, hstyle, -, -⟩ := h.start
  have hname : tagName ('/' :: style) = '/' :: style := by
    rw [tagName, List.takeWhile_cons_of_pos (by decide)]
    exact congrArg _ h.tagName_eq
  have hne : style.isEmpty = false := by rw [hstyle]; rfl
  rw [shownPieces.eq_def]
  simp only [hname]
  rw [h.trimmed, hne, if_neg Bool.false_ne_true, if_pos (by simp), List.erase_cons_head]

theorem shownPieces_plain {text : List Char} (h : Plain text) {styles : List String}
    {ps : List Piece} {cs : List Char} (hps : shownPieces styles ps = .ok cs) :
    shownPieces styles (.plain text :: ps) = .ok (text ++ cs) := by
  rw [shownPieces, hps, h.shownText_eq]
  rfl

theorem plain_nil : Plain [] := .of_all rfl

/-- Plain text and a tag behind it, in pieces. -/
theorem pieces_append_tag {cs inside : List Char} (hcs : Plain cs) (htag : IsTag inside)
    (position : Nat) (rest : List Char) :
    pieces position (cs ++ ('[' :: inside ++ ']' :: rest)) =
      .plain cs :: .tag (position + cs.length) inside ::
        pieces (position + cs.length + inside.length + 2) rest := by
  by_cases hne : cs = []
  · rw [hne]
    exact htag.pieces_append position rest
  · rw [pieces_append hcs.untagged hcs.unescaped hne (by intro d hd; cases hd; rfl),
      htag.pieces_append, consPlain, List.append_nil]

/-- Between the tags of a style, a plain message is shown without the tags. -/
theorem shown_between {style message : String} (hs : IsStyle style.toList)
    (hm : Plain message.toList) :
    shown ("[" ++ style ++ "]" ++ message ++ "[/" ++ style ++ "]") = .ok message := by
  have hlist : ("[" ++ style ++ "]" ++ message ++ "[/" ++ style ++ "]").toList =
      [] ++ ('[' :: style.toList ++ ']' ::
        (message.toList ++ ('[' :: ('/' :: style.toList) ++ ']' :: []))) := by
    simp
  have hclosed (position : Nat) : shownPieces [normalName (String.ofList style.toList)]
      (.tag position ('/' :: style.toList) :: pieces (position + style.toList.length + 3) []) =
        .ok [] := by
    rw [hs.shownPieces_closing, pieces_nil]
    rfl
  have hpieces : shownPieces [] (pieces 0 ("[" ++ style ++ "]" ++ message ++ "[/" ++ style ++
      "]").toList) = .ok message.toList := by
    rw [hlist, pieces_append_tag plain_nil hs.opening, pieces_append_tag hm hs.closing]
    refine shownPieces_plain plain_nil ?_
    rw [hs.shownPieces_opening]
    exact (shownPieces_plain hm (hclosed _)).trans (congrArg _ (List.append_nil _))
  rw [shown_eq hpieces fun htab => (hm.steady _ htab).1 rfl, String.ofList_toList]

/-- What pieces show controls no terminal, whatever emoji and styles are in them. -/
theorem isTerminalControl_of_mem_shownPieces {styles : List String} {ps : List Piece}
    {cs : List Char} (h : shownPieces styles ps = .ok cs) :
    ∀ c ∈ cs, isTerminalControl c = false := by
  induction ps generalizing styles cs with
  | nil =>
    cases h
    nofun
  | cons p ps ih =>
    rw [shownPieces.eq_def] at h
    cases p with
    | plain text =>
      dsimp only at h
      cases hps : shownPieces styles ps with
      | error fault =>
        rw [hps] at h
        cases h
      | ok later =>
        rw [hps] at h
        cases h
        intro c hc
        obtain hc | hc := List.mem_append.mp hc
        · simpa using (List.mem_filter.mp hc).2
        · exact ih hps c hc
    | tag position inside =>
      dsimp only at h
      split at h
      · split at h
        · split at h
          · cases h
          · exact ih h
        · split at h
          · exact ih h
          · cases h
      · exact ih h

theorem mem_expandTabs {column : Nat} {cs : List Char} {c : Char} (h : c ∈ expandTabs column cs) :
    c = ' ' ∨ c ∈ cs ∧ c ≠ '\t' := by
  induction cs generalizing column with
  | nil => exact absurd h List.not_mem_nil
  | cons d cs ih =>
    have hlater : ∀ {column}, c ∈ expandTabs column cs → c = ' ' ∨ c ∈ d :: cs ∧ c ≠ '\t' :=
      fun hc => (ih hc).imp_right (And.imp_left (List.mem_cons_of_mem d))
    rw [expandTabs] at h
    split at h
    · obtain h | h := List.mem_append.mp h
      · exact .inl (List.eq_of_mem_replicate h)
      · exact hlater h
    · next hd =>
      obtain rfl | h := List.mem_cons.mp h
      · exact .inr ⟨List.mem_cons_self, hd⟩
      · exact hlater h

theorem mem_flatten_intersperse {separator : List Char} {pieces : List (List Char)} {c : Char}
    (h : c ∈ (pieces.intersperse separator).flatten) : c ∈ separator ∨ ∃ p ∈ pieces, c ∈ p := by
  induction pieces with
  | nil => simp at h
  | cons p rest ih =>
    cases rest with
    | nil => exact .inr ⟨p, by simp, by simpa using h⟩
    | cons q rest =>
      rw [List.intersperse_cons_cons, List.flatten_cons, List.flatten_cons] at h
      obtain h | h := List.mem_append.mp h
      · exact .inr ⟨p, List.mem_cons_self, h⟩
      obtain h | h := List.mem_append.mp h
      · exact .inl h
      · exact (ih h).imp_right fun ⟨r, hr, hc⟩ => ⟨r, List.mem_cons_of_mem _ hr, hc⟩

/-- No message puts a tab or a control character on the console. -/
theorem steady_of_shown {s t : String} (h : shown s = .ok t) :
    ∀ c ∈ t.toList, c ≠ '\t' ∧ isTerminalControl c = false := by
  rw [shown] at h
  cases hps : shownPieces [] (pieces 0 s.toList) with
  | error fault =>
    rw [hps] at h
    cases h
  | ok cs =>
    rw [hps] at h
    cases h
    intro c hc
    rw [String.toList_ofList] at hc
    obtain hc | ⟨line, hline, hc⟩ := mem_flatten_intersperse hc
    · rw [List.mem_singleton.mp hc]
      decide
    obtain ⟨piece, hpiece, rfl⟩ := List.mem_map.mp hline
    obtain rfl | ⟨hc, htab⟩ := mem_expandTabs hc
    · decide
    · have hmem := (Text.mem_of_mem_splitWhere cs piece hpiece c hc).1
      exact ⟨htab, isTerminalControl_of_mem_shownPieces hps c hmem⟩

/-- What is found under a name stands behind it in the list. -/
theorem emojiIn?_eq_some {name emoji : String} {words : List String}
    (h : emojiIn? name words = some emoji) :
    ∃ front back, words = front ++ name :: emoji :: back ∧ front.length % 2 = 0 := by
  fun_induction emojiIn? name words with
  | case1 found rest =>
    cases h
    exact ⟨[], rest, rfl, rfl⟩
  | case2 key found rest hne ih =>
    obtain ⟨front, back, hrest, heven⟩ := ih h
    exact ⟨key :: found :: front, back, by rw [hrest]; rfl, by simp; omega⟩
  | case3 => cases h

/-- A name between colons gives way to its emoji. -/
theorem withEmoji_name {name : List Char} {emoji : String}
    (hname : ∀ c ∈ name, c ≠ ':' ∧ Text.isBlank c = false) (h : emojiOf? name = some emoji)
    (rest : List Char) :
    withEmoji none (':' :: name ++ ':' :: rest) = emoji.toList ++ withEmoji none rest := by
  have hread : ∀ later read, name = read.reverse ++ later →
      withEmoji (some read) (later ++ ':' :: rest) = emoji.toList ++ withEmoji none rest := by
    intro later
    induction later with
    | nil =>
      intro read hsplit
      rw [List.append_nil] at hsplit
      rw [List.nil_append, withEmoji, if_pos rfl, ← hsplit, h]
    | cons c later ih =>
      intro read hsplit
      obtain ⟨hcolon, hblank⟩ := hname c (by simp [hsplit])
      rw [List.cons_append, withEmoji, if_neg hcolon, hblank, if_neg Bool.false_ne_true]
      exact ih (c :: read) (by simpa using hsplit)
  exact hread name [] rfl

end CWriter.Console

namespace CWriter

open Console (Plain IsStyle)

/-- A plain message is printed in its style without a trace of the tags. -/
theorem printed_of_plain {style message : String} (hs : IsStyle style.toList)
    (hm : Plain message.toList) : printed style message = .ok message :=
  Console.shown_between hs hm

theorem isStyle_outcomes : ∀ style ∈ ["bold green", "bold red"], IsStyle style.toList := by
  intro style hstyle
  obtain rfl | rfl : style = "bold green" ∨ style = "bold red" := by simpa using hstyle
  · exact ⟨⟨'b', "old green".toList, by decide⟩, by simp, by decide⟩
  · exact ⟨⟨'b', "old red".toList, by decide⟩, by simp, by decide⟩

/-- What is reported of a scope that was saved, or that the system refused to write. -/
theorem saveReport_of_plain (base : String) :
    (∀ place, Plain ("Wrote " ++ "/".intercalate (base :: place)).toList →
      saveReport base (.ok place) = some (.ok ("Wrote " ++ "/".intercalate (base :: place)))) ∧
    ∀ target fault, Plain (SaveFault.refused target fault).message.toList →
      saveReport base (.error (.refused target fault)) =
        some (.ok (SaveFault.refused target fault).message) :=
  ⟨fun _ h => congrArg some (printed_of_plain (isStyle_outcomes _ (by simp)) h),
    fun _ _ h => congrArg some (printed_of_plain (isStyle_outcomes _ (by simp)) h)⟩

/-- A path with a dot and a blank in it. -/
example : saveReport "out" (.ok ["my file.h"]) = some (.ok "Wrote out/my file.h") :=
  (saveReport_of_plain "out").1 _ (.of_all (by decide))

end CWriter
