import FleetDesk.Text.EditDistance
import Mathlib.Order.Bounds.Defs

/-!
# The least number of edits

An edit inserts, deletes or replaces one character. `distance` takes the first characters of two
texts away, whichever way costs least, and so gives the least number of edits from one text to the
other (`isLeast_distance`). The rows of `editDistance` hold the same numbers for the front parts of
the texts, read backwards (`foldl_editRow`); since edits can be read backwards too, `editDistance`
is that least number (`isLeast_editDistance`).
-/

namespace FleetDesk.Text

inductive Edit : List Char → List Char → Prop
  | insert (before behind : List Char) (c : Char) : Edit (before ++ behind) (before ++ c :: behind)
  | delete (before behind : List Char) (c : Char) : Edit (before ++ c :: behind) (before ++ behind)
  | replace (before behind : List Char) (c d : Char) :
    Edit (before ++ c :: behind) (before ++ d :: behind)

/-- So many edits lead from one text to the other. -/
inductive Edits : Nat → List Char → List Char → Prop
  | done (cs : List Char) : Edits 0 cs cs
  | more {n : Nat} {as bs cs : List Char} (h : Edit as bs) (hrest : Edits n bs cs) :
    Edits (n + 1) as cs

namespace Edits

variable {m n : Nat} {as bs cs : List Char}

theorem single (h : Edit as bs) : Edits 1 as bs := .more h (.done bs)

theorem trans (h : Edits m as bs) (h' : Edits n bs cs) : Edits (m + n) as cs := by
  induction h with
  | done => rwa [Nat.zero_add]
  | more he _ ih => rw [Nat.add_right_comm]; exact .more he (ih h')

theorem cons (c : Char) (h : Edits n as bs) : Edits n (c :: as) (c :: bs) := by
  induction h with
  | done => exact .done _
  | more he _ ih =>
    refine .more ?_ ih
    cases he with
    | insert before behind d => exact .insert (c :: before) behind d
    | delete before behind d => exact .delete (c :: before) behind d
    | replace before behind d e => exact .replace (c :: before) behind d e

theorem reverse (h : Edits n as bs) : Edits n as.reverse bs.reverse := by
  induction h with
  | done => exact .done _
  | more he _ ih =>
    refine .more ?_ ih
    cases he with
    | insert before behind d => simpa using Edit.insert behind.reverse before.reverse d
    | delete before behind d => simpa using Edit.delete behind.reverse before.reverse d
    | replace before behind d e => simpa using Edit.replace behind.reverse before.reverse d e

theorem reverse_iff : Edits n as.reverse bs.reverse ↔ Edits n as bs :=
  ⟨fun h => by simpa using h.reverse, reverse⟩

end Edits

/-! ### The distance from the front -/

/-- What it costs to put one character in the place of another. -/
def replaceCost (c d : Char) : Nat := if c = d then 0 else 1

def distance : List Char → List Char → Nat
  | [], ds => ds.length
  | c :: cs, [] => (c :: cs).length
  | c :: cs, d :: ds =>
    min (min (distance cs (d :: ds) + 1) (distance (c :: cs) ds + 1))
      (distance cs ds + replaceCost c d)

theorem replaceCost_le (c d : Char) : replaceCost c d ≤ 1 := by
  unfold replaceCost
  split <;> omega

@[simp] theorem replaceCost_self (c : Char) : replaceCost c c = 0 := if_pos rfl

@[simp] theorem distance_nil_left (ds : List Char) : distance [] ds = ds.length := by
  rw [distance]

@[simp] theorem distance_nil_right (cs : List Char) : distance cs [] = cs.length := by
  cases cs <;> rw [distance]

theorem distance_cons_cons (c d : Char) (cs ds : List Char) : distance (c :: cs) (d :: ds) =
    min (min (distance cs (d :: ds) + 1) (distance (c :: cs) ds + 1))
      (distance cs ds + replaceCost c d) := by
  rw [distance]

@[simp] theorem distance_self (cs : List Char) : distance cs cs = 0 := by
  induction cs with
  | nil => simp
  | cons c cs ih =>
    rw [distance_cons_cons, ih, replaceCost_self]
    omega

section

variable (c : Char) (cs ds : List Char)

theorem distance_cons_right_le : distance cs (c :: ds) ≤ distance cs ds + 1 := by
  cases cs with
  | nil => simp
  | cons d cs => rw [distance_cons_cons]; omega

theorem distance_cons_left_le : distance (c :: cs) ds ≤ distance cs ds + 1 := by
  cases ds with
  | nil => simp
  | cons d ds => rw [distance_cons_cons]; omega

theorem distance_le_cons_left : distance cs ds ≤ distance (c :: cs) ds + 1 := by
  induction ds with
  | nil => simp; omega
  | cons d ds ih =>
    have hright := distance_cons_right_le d cs ds
    rw [distance_cons_cons]
    omega

theorem distance_replace_le (d : Char) :
    distance (c :: cs) ds ≤ distance (d :: cs) ds + 1 := by
  induction ds with
  | nil => simp
  | cons e ds ih =>
    have hcost := replaceCost_le c e
    rw [distance_cons_cons, distance_cons_cons]
    omega

end

/-- What is put in front of two texts moves them no further apart than they are, whatever they are
compared with. -/
theorem distance_cons_le_succ {as bs : List Char} (h : ∀ ds, distance as ds ≤ distance bs ds + 1)
    (c : Char) (ds : List Char) : distance (c :: as) ds ≤ distance (c :: bs) ds + 1 := by
  induction ds with
  | nil => simpa using h []
  | cons d ds ih =>
    have hkept := h (d :: ds)
    have htail := h ds
    rw [distance_cons_cons, distance_cons_cons]
    omega

/-- One edit changes the distance to any text by at most one. -/
theorem Edit.distance_le {as bs : List Char} (h : Edit as bs) (ds : List Char) :
    distance as ds ≤ distance bs ds + 1 := by
  have hprefix : ∀ {xs ys : List Char}, (∀ ds, distance xs ds ≤ distance ys ds + 1) →
      ∀ before ds, distance (before ++ xs) ds ≤ distance (before ++ ys) ds + 1 := by
    intro xs ys hle before
    induction before with
    | nil => exact hle
    | cons b before ih => exact distance_cons_le_succ ih b
  cases h with
  | insert before behind c => exact hprefix (distance_le_cons_left c behind) before ds
  | delete before behind c => exact hprefix (distance_cons_left_le c behind) before ds
  | replace before behind c d =>
    exact hprefix (fun ds => distance_replace_le c behind ds d) before ds

theorem Edits.distance_le {n : Nat} {as bs : List Char} (h : Edits n as bs) :
    distance as bs ≤ n := by
  induction h with
  | done => simp
  | more he _ ih =>
    exact Nat.le_trans (he.distance_le _) (Nat.add_le_add_right ih 1)

theorem edits_insert_all (ds : List Char) : Edits ds.length [] ds := by
  induction ds with
  | nil => exact .done []
  | cons d ds ih => exact .more (.insert [] [] d) (ih.cons d)

theorem edits_delete_all (cs : List Char) : Edits cs.length cs [] := by
  induction cs with
  | nil => exact .done []
  | cons c cs ih => exact .more (.delete [] cs c) ih

theorem edits_replaceCost (c d : Char) (cs : List Char) :
    Edits (replaceCost c d) (c :: cs) (d :: cs) := by
  by_cases h : c = d
  · rw [h, replaceCost_self]
    exact .done _
  · rw [replaceCost, if_neg h]
    exact .single (.replace [] cs c d)

theorem edits_distance (cs ds : List Char) : Edits (distance cs ds) cs ds := by
  fun_induction distance cs ds with
  | case1 ds => exact edits_insert_all ds
  | case2 c cs => exact edits_delete_all (c :: cs)
  | case3 c cs d ds hdelete hinsert hreplace =>
    have hd := (Edits.single (.delete [] cs c)).trans hdelete
    have hi := hinsert.trans (.single (.insert [] ds d))
    have hr := (edits_replaceCost c d cs).trans (hreplace.cons d)
    rw [Nat.add_comm] at hd hr
    -- The least of the three costs is one of them.
    grind

theorem isLeast_distance (cs ds : List Char) : IsLeast {n | Edits n cs ds} (distance cs ds) :=
  ⟨edits_distance cs ds, fun _ h => h.distance_le⟩

/-! ### The rows -/

/-- The distances from a text to the front parts of another, of which `front` was passed; both are
read backwards. -/
def distances (cs front : List Char) : List Char → List Nat
  | [] => [distance cs front]
  | d :: ds => distance cs front :: distances cs (d :: front) ds

theorem distances_eq_cons (cs front ds : List Char) :
    distances cs front ds = distance cs front :: (distances cs front ds).tail := by
  cases ds <;> rfl

theorem editCells_distances (c : Char) (cs front ds : List Char) :
    editCells c ds (distances cs front ds) (distance (c :: cs) front) =
      (distances (c :: cs) front ds).tail := by
  induction ds generalizing front with
  | nil => rfl
  | cons d ds ih =>
    have hrow := distances_eq_cons cs (d :: front) ds
    have hcell : min (min (distance cs (d :: front) + 1) (distance (c :: cs) front + 1))
        (distance cs front + if c = d then 0 else 1) = distance (c :: cs) (d :: front) :=
      (distance_cons_cons c d cs front).symm
    rw [distances, hrow, editCells, hcell, ← hrow, ih, distances, List.tail_cons,
      ← distances_eq_cons]

theorem editRow_distances (c : Char) (cs ds : List Char) :
    editRow ds (distances cs [] ds) c = distances (c :: cs) [] ds := by
  have hfirst : (distances cs [] ds).headD 0 + 1 = distance (c :: cs) [] := by
    rw [distances_eq_cons]
    simp
  rw [editRow, hfirst, editCells_distances, ← distances_eq_cons]

theorem distances_nil (front ds : List Char) :
    distances [] front ds = List.range' front.length (ds.length + 1) := by
  induction ds generalizing front with
  | nil => simp [distances]
  | cons d ds ih =>
    rw [distances, ih, distance_nil_left]
    exact List.range'_succ.symm

/-- After each character of the first text the row holds its distances. -/
theorem foldl_editRow (cs front ds : List Char) :
    cs.foldl (editRow ds) (distances front [] ds) = distances (cs.reverse ++ front) [] ds := by
  induction cs generalizing front with
  | nil => rfl
  | cons c cs ih => rw [List.foldl_cons, editRow_distances, ih]; simp

theorem getLastD_distances (cs front ds : List Char) :
    (distances cs front ds).getLastD 0 = distance cs (ds.reverse ++ front) := by
  induction ds generalizing front with
  | nil => rfl
  | cons d ds ih =>
    have htail := distances_eq_cons cs (d :: front) ds
    have hlast : (distances cs (d :: front) ds).getLastD (distance cs front) =
        (distances cs (d :: front) ds).getLastD 0 := by
      rw [htail, List.getLastD_cons, List.getLastD_cons]
    rw [distances, List.getLastD_cons, hlast, ih]
    simp

theorem editStart_eq (ds : List Char) : editStart ds = distances [] [] ds := by
  rw [distances_nil, editStart, List.range_eq_range', List.length_nil]

theorem editDistance_eq (cs ds : List Char) :
    editDistance cs ds = distance cs.reverse ds.reverse := by
  rw [editDistance, editStart_eq, foldl_editRow, getLastD_distances, List.append_nil,
    List.append_nil]

theorem isLeast_editDistance (cs ds : List Char) :
    IsLeast {n | Edits n cs ds} (editDistance cs ds) := by
  have hleast := isLeast_distance cs.reverse ds.reverse
  simpa only [Edits.reverse_iff, ← editDistance_eq] using hleast

end FleetDesk.Text
