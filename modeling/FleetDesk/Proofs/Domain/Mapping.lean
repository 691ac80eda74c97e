import FleetDesk.Domain.Mapping
import FleetDesk.Proofs.Domain.Row

/-!
# What the mapping of a name leaves

The characters that the mapping puts in the place of others are all kept by it, so a name that has
been mapped is mapped to itself (`mapped?_of_kept`). In ASCII, what is not kept is a capital.
-/

namespace FleetDesk.Domain

/-- The image of a code point by rows in a tree. -/
def Tree.image (t : Tree) (n : Nat) : Image :=
  match t.find? Row.runLength n with
  | some r => r.image (n - r.first)
  | none => .kept

def keptIn (t : Tree) (c : Char) : Bool := t.image c.toNat = .kept

namespace Row

/-- A row that puts characters in the place of others. -/
def isReplacing (r : Row) : Bool := r.sign != '-' && r.sign != '!'

theorem isReplacing_of_image {r : Row} {place : Nat} {cs : List Char}
    (h : r.image place = .replaced cs) : r.isReplacing := by
  unfold image at h
  split at h
  · cases h
  · cases h
  all_goals simp_all [isReplacing]

/-- Every character that a row puts somewhere is kept. -/
def leavesKept (t : Tree) (r : Row) : Bool :=
  !r.isReplacing || (List.range r.runLength).all fun place =>
    match r.image place with
    | .replaced cs => cs.all (keptIn t)
    | _ => true

end Row

/-- What the rows of a mapping are checked for; there are fewer than two thousand. -/
def areSettled (rows : List Row) : Bool :=
  let t := Tree.build 11 rows
  Row.inOrder Row.runLength rows && t.2.isEmpty && rows.all (Row.leavesKept t.1) &&
    (List.range 0x80).all fun n => (t.1.image n = .kept) == !(0x41 ≤ n && n ≤ 0x5A)

set_option maxRecDepth 4000 in
theorem areSettled_mappingRows : areSettled mappingRows := by
  apply Row.holds_ofLines (p := fun rows => areSettled rows)
  apply Exists.intro
  apply And.intro
  · unfold mappingLines
    repeat (first | exact .nil | apply Row.Lines.cons rfl)
  · decide +kernel

/-- A tree finds the images of a mapping, which keeps what it puts somewhere, and all of ASCII but
the capitals. -/
structure Settles (t : Tree) (rows : List Row) : Prop where
  order : rows.Pairwise (Row.Precedes Row.runLength)
  rows_eq : t.rows = rows
  kept : ∀ r ∈ rows, r.leavesKept t
  ascii : ∀ n < 0x80, t.image n = .kept ↔ ¬ (0x41 ≤ n ∧ n ≤ 0x5A)

theorem settles_of_areSettled {rows : List Row} (h : areSettled rows) :
    Settles (Tree.build 11 rows).1 rows := by
  simp only [areSettled, Bool.and_eq_true, List.all_eq_true, List.isEmpty_iff, List.mem_range,
    and_assoc, beq_iff_eq] at h
  obtain ⟨horder, hleft, hkept, hascii⟩ := h
  have hrows := Tree.rows_build 11 rows
  rw [hleft, List.append_nil] at hrows
  refine ⟨Row.pairwise_of_inOrder _ horder, hrows, hkept, fun n hn => ?_⟩
  have hsame := hascii n hn
  rw [Bool.eq_iff_iff, decide_eq_true_iff] at hsame
  rw [hsame, Bool.not_eq_true', Bool.and_eq_false_iff, decide_eq_false_iff_not,
    decide_eq_false_iff_not]
  omega

theorem settles_mappingRows : Settles (Tree.build 11 mappingRows).1 mappingRows :=
  settles_of_areSettled areSettled_mappingRows

/-! ### Names -/

section

variable {t : Tree} (h : Settles t mappingRows)

include h

theorem Settles.image_eq (c : Char) : image c = t.image c.toNat := by
  have hfind := Tree.find?_eq (h.rows_eq.symm ▸ h.order) c.toNat
  rw [h.rows_eq] at hfind
  rw [image, Tree.image, hfind]
  rfl

theorem Settles.keptIn_eq (c : Char) : keptIn t c = isKept c := by
  rw [keptIn, isKept, h.image_eq]

theorem Settles.isKept_of_replaced {c d : Char} {ds : List Char} (hc : image c = .replaced ds)
    (hd : d ∈ ds) : isKept d := by
  rw [image] at hc
  split at hc
  · next r hfind =>
    have hr := h.kept r (List.mem_of_find?_eq_some hfind)
    have hcovers := List.find?_some hfind
    simp only [Bool.and_eq_true, decide_eq_true_eq] at hcovers
    rw [Row.leavesKept, Row.isReplacing_of_image hc, Bool.not_true, Bool.false_or,
      List.all_eq_true] at hr
    have hplace := hr (c.toNat - r.first) (List.mem_range.2 (by omega))
    rw [hc] at hplace
    rw [← h.keptIn_eq]
    exact List.all_eq_true.1 hplace d hd
  · cases hc

end

/-- Of the characters in ASCII the capitals are not kept. -/
theorem isKept_iff_of_ascii {c : Char} (hc : c.toNat < 0x80) :
    isKept c ↔ ¬ (0x41 ≤ c.toNat ∧ c.toNat ≤ 0x5A) := by
  rw [← settles_mappingRows.keptIn_eq, keptIn, decide_eq_true_iff]
  exact settles_mappingRows.ascii c.toNat hc

theorem isKept_of_mapped? {cs ds : List Char} (h : mapped? cs = some ds) : ∀ d ∈ ds, isKept d := by
  induction cs generalizing ds with
  | nil =>
    cases h
    simp
  | cons c cs ih =>
    rw [mapped?] at h
    split at h
    · next hc =>
      obtain ⟨rest, hrest, rfl⟩ := Option.map_eq_some_iff.1 h
      exact List.forall_mem_cons.2 ⟨decide_eq_true hc, ih hrest⟩
    · exact ih h
    · cases h
    · next xs hc =>
      obtain ⟨rest, hrest, rfl⟩ := Option.map_eq_some_iff.1 h
      exact List.forall_mem_append.2
        ⟨fun d => settles_mappingRows.isKept_of_replaced hc, ih hrest⟩

theorem mapped?_of_kept {cs : List Char} (h : ∀ c ∈ cs, isKept c) : mapped? cs = some cs := by
  induction cs with
  | nil => rfl
  | cons c cs ih =>
    obtain ⟨hc, hcs⟩ := List.forall_mem_cons.1 h
    have himage : image c = .kept := of_decide_eq_true hc
    rw [mapped?, himage, ih hcs]
    rfl

end FleetDesk.Domain
