import FleetDesk.Domain.Composition
import Mathlib.Data.List.SplitBy

/-!
# Marks in order

Two texts are alike if they have the same letters and the same marks of each class; how marks of
different classes stand to each other does not count. A text whose marks are in order is the only
one of those alike (`Alike.eq`), and `sortMarks` finds it.
-/

namespace FleetDesk.Domain

/-- The letters, and the marks of one class. -/
def isOfClass (k : Nat) (c : Char) : Bool := markClass c = 0 || markClass c = k

def Alike (u v : List Char) : Prop := ∀ k, u.filter (isOfClass k) = v.filter (isOfClass k)

/-- A letter may stand behind anything, and a mark behind what has no higher class. -/
def MayFollow (a b : Char) : Prop := markClass b = 0 ∨ markClass a ≤ markClass b

def Ordered (u : List Char) : Prop := u.IsChain MayFollow

namespace Alike

variable {u v w x : List Char}

theorem refl (u : List Char) : Alike u u := fun _ => rfl

theorem symm (h : Alike u v) : Alike v u := fun k => (h k).symm

theorem trans (h : Alike u v) (h' : Alike v w) : Alike u w := fun k => (h k).trans (h' k)

theorem append (h : Alike u v) (h' : Alike w x) : Alike (u ++ w) (v ++ x) := fun k => by
  rw [List.filter_append, List.filter_append, h k, h' k]

theorem mem_iff (h : Alike u v) {c : Char} : c ∈ u ↔ c ∈ v := by
  have hfilter := h (markClass c)
  have hmem (w : List Char) : c ∈ w ↔ c ∈ w.filter (isOfClass (markClass c)) := by
    simp [isOfClass]
  rw [hmem u, hmem v, hfilter]

/-- Of a class lower than that of the mark in front, only what stands behind the next letter is
left. -/
theorem head?_filter {k : Nat} {b : Char} (h : Ordered (b :: u)) (hk : 0 < k)
    (hb : k < markClass b) : ∀ c ∈ ((b :: u).filter (isOfClass k)).head?, markClass c = 0 := by
  induction u generalizing b with
  | nil =>
    have hout : isOfClass k b = false := by simp [isOfClass]; omega
    simp [hout]
  | cons a u ih =>
    have hout : isOfClass k b = false := by simp [isOfClass]; omega
    rw [List.filter_cons_of_neg (by simp [hout])]
    obtain ⟨hfollow, hu⟩ := List.isChain_cons_cons.1 h
    rcases hfollow with ha | ha
    · rw [List.filter_cons_of_pos (by simp [isOfClass, ha])]
      simpa using ha
    · exact ih hu (by omega)

theorem head_eq {a b : Char} (h : Alike (a :: u) (b :: v)) (hu : Ordered (a :: u))
    (hv : Ordered (b :: v)) : a = b := by
  have hkept {k : Nat} (ha : isOfClass k a) (hb : isOfClass k b) : a = b := by
    have hfilter := h k
    rw [List.filter_cons_of_pos ha, List.filter_cons_of_pos hb] at hfilter
    exact (List.cons.inj hfilter).1
  by_cases ha : markClass a = 0
  · exact hkept (k := markClass b) (by simp [isOfClass, ha]) (by simp [isOfClass])
  by_cases hb : markClass b = 0
  · exact hkept (k := markClass a) (by simp [isOfClass]) (by simp [isOfClass, hb])
  rcases Nat.lt_trichotomy (markClass a) (markClass b) with hlt | heq | hlt
  · have hhead := head?_filter hv (by omega) hlt
    rw [← h (markClass a), List.filter_cons_of_pos (by simp [isOfClass])] at hhead
    exact absurd (hhead a rfl) ha
  · exact hkept (k := markClass a) (by simp [isOfClass]) (by simp [isOfClass, heq])
  · have hhead := head?_filter hu (by omega) hlt
    rw [h (markClass b), List.filter_cons_of_pos (by simp [isOfClass])] at hhead
    exact absurd (hhead b rfl) hb

theorem of_cons {a : Char} (h : Alike (a :: u) (a :: v)) : Alike u v := fun k => by
  have hfilter := h k
  by_cases ha : isOfClass k a
  · rw [List.filter_cons_of_pos ha, List.filter_cons_of_pos ha] at hfilter
    exact (List.cons.inj hfilter).2
  · rwa [List.filter_cons_of_neg ha, List.filter_cons_of_neg ha] at hfilter

theorem eq_nil (h : Alike [] v) : v = [] := by
  cases v with
  | nil => rfl
  | cons b v =>
    have hfilter := h (markClass b)
    rw [List.filter_cons_of_pos (by simp [isOfClass])] at hfilter
    cases hfilter

theorem eq (h : Alike u v) (hu : Ordered u) (hv : Ordered v) : u = v := by
  induction u generalizing v with
  | nil => exact h.eq_nil.symm
  | cons a u ih =>
    cases v with
    | nil => exact h.symm.eq_nil
    | cons b v =>
      obtain rfl := h.head_eq hu hv
      rw [ih h.of_cons hu.tail hv.tail]

end Alike

/-! ### Sorting -/

/-- The order in which the marks on a letter are sorted. -/
def upTo (a b : Char) : Bool := markClass a ≤ markClass b

theorem upTo_trans (a b c : Char) (h : upTo a b) (h' : upTo b c) : upTo a c :=
  decide_eq_true (Nat.le_trans (of_decide_eq_true h) (of_decide_eq_true h'))

theorem upTo_total (a b : Char) : upTo a b || upTo b a := by
  rw [Bool.or_eq_true]
  exact (Nat.le_total (markClass a) (markClass b)).imp decide_eq_true decide_eq_true

/-- A letter and its marks, or marks alone. -/
def IsRun (g : List Char) : Prop := g.Pairwise fun _ c => markClass c ≠ 0

theorem isRun_of_mem_splitBy {u g : List Char}
    (h : g ∈ u.splitBy fun _ c => markClass c != 0) : IsRun g := by
  have htrans : Trans (fun _ c => markClass c != 0) (fun _ c => markClass c != 0)
      (fun (_ c : Char) => (markClass c != 0) = true) := ⟨fun _ hc => hc⟩
  have hpairwise := List.isChain_iff_pairwise.1 (List.isChain_of_mem_splitBy h)
  exact hpairwise.imp fun hc => by simpa using hc

/-- Sorting keeps marks of one class as they stand. -/
theorem alike_mergeSort {g : List Char} (h : IsRun g) : Alike (g.mergeSort upTo) g := by
  intro k
  have hsorted : (g.filter (isOfClass k)).Pairwise fun a b => upTo a b := by
    refine (h.filter (isOfClass k)).imp_of_mem fun {a b} ha hb hmark => decide_eq_true ?_
    simp only [List.mem_filter, isOfClass, Bool.or_eq_true, decide_eq_true_eq] at ha hb
    omega
  have hsublist := (List.sublist_mergeSort upTo_trans upTo_total hsorted
    List.filter_sublist).filter (isOfClass k)
  rw [List.filter_filter] at hsublist
  simp only [Bool.and_self] at hsublist
  exact (hsublist.eq_of_length ((List.mergeSort_perm g upTo).filter _).length_eq.symm).symm

theorem sortMarks_eq_flatMap (u : List Char) : sortMarks u =
    (u.splitBy fun _ c => markClass c != 0).flatMap (·.mergeSort upTo) := rfl

theorem alike_sortMarks (u : List Char) : Alike (sortMarks u) u := by
  intro k
  have hruns : ∀ g ∈ u.splitBy (fun _ c => markClass c != 0),
      (g.mergeSort upTo).filter (isOfClass k) = g.filter (isOfClass k) :=
    fun g hg => alike_mergeSort (isRun_of_mem_splitBy hg) k
  rw [sortMarks_eq_flatMap, List.filter_flatMap, List.flatMap_congr hruns, List.flatMap_def,
    ← List.filter_flatten, List.flatten_splitBy]

theorem ordered_mergeSort (g : List Char) : Ordered (g.mergeSort upTo) := by
  have hsorted := List.pairwise_mergeSort upTo_trans upTo_total g
  exact (hsorted.imp fun h => .inr (of_decide_eq_true h)).isChain

/-- A run that starts with a letter still does when it is sorted. -/
theorem head?_mergeSort {g : List Char} {l : Char} (hl : l ∈ g) (hclass : markClass l = 0) :
    ∀ c ∈ (g.mergeSort upTo).head?, markClass c = 0 := by
  intro c hc
  obtain ⟨cs, hcs⟩ := List.head?_eq_some_iff.1 hc
  have hsorted := List.pairwise_mergeSort upTo_trans upTo_total g
  have hmem : l ∈ g.mergeSort upTo := List.mem_mergeSort.2 hl
  rw [hcs] at hsorted hmem
  rcases List.mem_cons.1 hmem with rfl | hmem
  · exact hclass
  · have hle := of_decide_eq_true ((List.pairwise_cons.1 hsorted).1 l hmem)
    omega

theorem ordered_sortMarks (u : List Char) : Ordered (sortMarks u) := by
  have hne : [] ∉ (u.splitBy fun _ c => markClass c != 0).map (·.mergeSort upTo) := by
    intro hmem
    obtain ⟨g, hg, hnil⟩ := List.mem_map.1 hmem
    have hperm := List.mergeSort_perm g upTo
    rw [hnil] at hperm
    exact List.ne_nil_of_mem_splitBy hg hperm.nil_eq.symm
  rw [sortMarks_eq_flatMap, List.flatMap_def, Ordered, List.isChain_flatten hne]
  constructor
  · simp only [List.mem_map, forall_exists_index, and_imp]
    rintro _ g - rfl
    exact ordered_mergeSort g
  · rw [List.isChain_map]
    refine (List.isChain_getLast_head_splitBy _ u).imp fun g g' hbetween c hc d hd => .inl ?_
    obtain ⟨-, hg', hhead⟩ := hbetween
    exact head?_mergeSort (List.head_mem hg') (by simpa using hhead) d hd

theorem sortMarks_of_ordered {u : List Char} (h : Ordered u) : sortMarks u = u :=
  (alike_sortMarks u).eq (ordered_sortMarks u) h

theorem Alike.sortMarks_eq {u v : List Char} (h : Alike u v) : sortMarks u = sortMarks v :=
  ((alike_sortMarks u).trans (h.trans (alike_sortMarks v).symm)).eq (ordered_sortMarks u)
    (ordered_sortMarks v)

end FleetDesk.Domain
