import CWriter.Tree.Class
import Mathlib.Data.List.Perm.Basic

/-!
# Members by their groups

A class keeps its members in the order in which they were added, and its groups are worked out
where it is laid out. They hold each member once. The order of the groups is that in which the
visibilities occur first; inside a group the sorts follow each other, and members of one sort
stay in their order.
-/
namespace CWriter

/-- Cut by a key, a list is put together again from the parts of the keys that are listed. -/
theorem perm_flatMap_filter {α κ : Type} [DecidableEq κ] (key : α → κ) {keys : List κ}
    (h : keys.Nodup) (xs : List α) :
    (keys.flatMap fun k => xs.filter (key · == k)).Perm (xs.filter (key · ∈ keys)) := by
  induction keys with
  | nil => simp
  | cons k keys ih =>
    obtain ⟨hk, hkeys⟩ := List.nodup_cons.mp h
    let both := xs.filter (key · ∈ k :: keys)
    have hfirst : both.filter (key · == k) = xs.filter (key · == k) := by
      rw [List.filter_filter]
      refine List.filter_congr fun x _ => ?_
      by_cases hx : key x = k <;> simp [hx]
    have hrest : both.filter (fun x => !(key x == k)) = xs.filter (key · ∈ keys) := by
      rw [List.filter_filter]
      refine List.filter_congr fun x _ => ?_
      by_cases hx : key x = k <;> simp [hx, hk]
    have hboth := List.filter_append_perm (key · == k) both
    rw [hfirst, hrest] at hboth
    exact ((ih hkeys).append_left _).trans hboth

namespace MemberSort

/-- The place of a sort in a group. -/
def rank : MemberSort → Nat
  | attr => 0
  | constructor => 1
  | destructor => 2
  | method => 3

theorem mem_all (s : MemberSort) : s ∈ all := by
  cases s <;> decide

theorem nodup_all : all.Nodup := by decide

theorem pairwise_all : all.Pairwise fun s t => s.rank ≤ t.rank := by decide

end MemberSort

namespace Class

/-- Notes a visibility that has not been seen. -/
def noted (seen : List Visibility) (v : Visibility) : List Visibility :=
  if seen.contains v then seen else seen ++ [v]

theorem groups_eq (c : Class) : c.groups = (c.members.map Member.visibility).foldl noted [] := rfl

/-- Visibilities are noted in the order in which they occur first. -/
theorem foldl_noted (vs seen before : List Visibility) (hmem : ∀ v, v ∈ seen ↔ v ∈ before)
    (hfirst : seen.Pairwise fun v w => before.idxOf v < before.idxOf w) :
    (∀ v, v ∈ vs.foldl noted seen ↔ v ∈ before ++ vs) ∧
      (vs.foldl noted seen).Pairwise fun v w =>
        (before ++ vs).idxOf v < (before ++ vs).idxOf w := by
  induction vs generalizing seen before with
  | nil => simpa using ⟨hmem, hfirst⟩
  | cons u vs ih =>
    rw [List.foldl_cons, List.append_cons before u vs, noted]
    have hkept : seen.Pairwise fun v w => (before ++ [u]).idxOf v < (before ++ [u]).idxOf w := by
      refine hfirst.imp_of_mem fun {v w} hv hw hlt => ?_
      rwa [List.idxOf_append_of_mem ((hmem v).mp hv), List.idxOf_append_of_mem ((hmem w).mp hw)]
    by_cases hu : u ∈ seen
    · rw [if_pos (by simpa using hu)]
      refine ih seen (before ++ [u]) (fun v => ?_) hkept
      have hold : u ∈ before := (hmem u).mp hu
      rw [hmem, List.mem_append, List.mem_singleton]
      exact ⟨Or.inl, fun h => h.elim id fun h => h ▸ hold⟩
    · rw [if_neg (by simpa using hu)]
      refine ih (seen ++ [u]) (before ++ [u]) (fun v => ?_) ?_
      · simp [hmem]
      · refine List.pairwise_append.mpr ⟨hkept, List.pairwise_singleton _ _, fun v hv w hw => ?_⟩
        have hnew : u ∉ before := fun hold => hu ((hmem u).mpr hold)
        have hlt : before.idxOf v < before.length := List.idxOf_lt_length_of_mem ((hmem v).mp hv)
        rw [List.mem_singleton.mp hw, List.idxOf_append_of_mem ((hmem v).mp hv),
          List.idxOf_append_of_notMem hnew]
        omega

/-- The groups hold the members of a class, each once and under its own visibility. They stand in
the order in which their visibilities occur first. Inside a group the sorts follow each other, and
members of one sort stay in the order of the class. -/
structure Regrouped (c : Class) : Prop where
  mem_groups_iff : ∀ v, v ∈ c.groups ↔ ∃ m ∈ c.members, m.visibility = v
  firstUse : c.groups.Pairwise fun v w =>
    (c.members.map Member.visibility).idxOf v < (c.members.map Member.visibility).idxOf w
  visibility : ∀ v, ∀ m ∈ c.groupMembers v, m.visibility = v
  sorts : ∀ v, (c.groupMembers v).Pairwise fun m n => m.sort.rank ≤ n.sort.rank
  stable : ∀ v s, (c.groupMembers v).filter (·.sort == s) =
    c.members.filter fun m => m.sort == s && m.visibility == v
  complete : (c.groups.flatMap c.groupMembers).Perm c.members

theorem groupMembers_perm (c : Class) (v : Visibility) :
    (c.groupMembers v).Perm (c.members.filter (·.visibility == v)) := by
  have hsorts := perm_flatMap_filter Member.sort MemberSort.nodup_all
    (c.members.filter (·.visibility == v))
  have hall : (c.members.filter (·.visibility == v)).filter (·.sort ∈ MemberSort.all) =
      c.members.filter (·.visibility == v) :=
    List.filter_eq_self.mpr fun m _ => by simpa using m.sort.mem_all
  rw [hall] at hsorts
  simpa only [groupMembers, List.filter_filter] using hsorts

theorem filter_groupMembers (c : Class) (v : Visibility) (s : MemberSort) :
    (c.groupMembers v).filter (·.sort == s) =
      c.members.filter fun m => m.sort == s && m.visibility == v := by
  have hpart : ∀ t, (c.members.filter fun m => m.sort == t && m.visibility == v).filter
      (·.sort == s) = if t = s then c.members.filter fun m => m.sort == s && m.visibility == v
        else [] := by
    intro t
    rw [List.filter_filter]
    split
    · next hts =>
      rw [hts]
      exact List.filter_congr fun m _ => by rw [← Bool.and_assoc, Bool.and_self]
    · next hts =>
      refine List.filter_eq_nil_iff.mpr fun m _ => ?_
      simp only [Bool.and_eq_true, beq_iff_eq, not_and]
      rintro hs ht
      exact absurd (ht.symm.trans hs) hts
  rw [groupMembers, List.filter_flatMap]
  simp only [hpart]
  cases s <;> simp [MemberSort.all]

theorem regrouped (c : Class) : c.Regrouped := by
  obtain ⟨hmem, hfirst⟩ :=
    foldl_noted (c.members.map Member.visibility) [] [] (by simp) .nil
  rw [← groups_eq, List.nil_append] at hmem hfirst
  have hmembers : ∀ v, ∀ m ∈ c.groupMembers v, m ∈ c.members ∧ m.visibility = v := by
    intro v m hm
    simpa using (c.groupMembers_perm v).mem_iff.mp hm
  refine ⟨fun v => ?_, hfirst, fun v m hm => (hmembers v m hm).2, fun v => ?_,
    c.filter_groupMembers, ?_⟩
  · rw [hmem, List.mem_map]
  · have hsort : ∀ s, ∀ m ∈ c.members.filter (fun m => m.sort == s && m.visibility == v),
        m.sort = s := by
      intro s m hm
      simp only [List.mem_filter, Bool.and_eq_true, beq_iff_eq] at hm
      exact hm.2.1
    refine List.pairwise_flatMap.mpr ⟨fun s _ => ?_, ?_⟩
    · refine List.pairwise_of_forall_mem_list fun m hm n hn => Nat.le_of_eq ?_
      rw [hsort s m hm, hsort s n hn]
    · refine MemberSort.pairwise_all.imp fun {s t} hst m hm n hn => ?_
      rwa [hsort s m hm, hsort t n hn]
  · have hnodup : c.groups.Nodup := hfirst.imp fun {v w} hlt heq => by
      rw [heq] at hlt
      exact absurd hlt (Nat.lt_irrefl _)
    have hparts : (c.groups.flatMap c.groupMembers).Perm
        (c.groups.flatMap fun v => c.members.filter (·.visibility == v)) :=
      List.Perm.flatMap_left _ fun v _ => c.groupMembers_perm v
    have hall : c.members.filter (·.visibility ∈ c.groups) = c.members :=
      List.filter_eq_self.mpr fun m hm =>
        decide_eq_true ((hmem _).mpr (List.mem_map_of_mem hm))
    refine hparts.trans ?_
    have hkeys := perm_flatMap_filter Member.visibility hnodup c.members
    rwa [hall] at hkeys

theorem mem_groups {c : Class} {m : Member} (h : m ∈ c.members) : m.visibility ∈ c.groups :=
  (c.regrouped.mem_groups_iff _).mpr ⟨m, h, rfl⟩

theorem mem_groupMembers {c : Class} {m : Member} (h : m ∈ c.members) :
    m ∈ c.groupMembers m.visibility := by
  refine (c.groupMembers_perm m.visibility).mem_iff.mpr ?_
  simpa using h

end Class

end CWriter
