import FleetDesk.Domain.Composition
import FleetDesk.Proofs.Domain.Mapping
import FleetDesk.Proofs.Text.Utf8
import Mathlib.Data.List.Nodup

/-!
# Characters and their parts

A composed character has the two parts that it is composed of (`parts?_of_composed?`). The second
part has no parts again, and the first has none that lie deeper than `decomposed` goes
(`endsWithin_maxParts`). All of them are letters and marks that a label may hold
(`isLabelChar_of_parts?`).
-/

namespace FleetDesk.Domain

/-! ### Syllables of Hangul -/

def isSyllable (n : Nat) : Bool := syllableBase ≤ n && n < syllableBase + syllableCount

/-- The letters that syllables are made of. -/
def isJamo (n : Nat) : Bool :=
  (leadBase ≤ n && n < leadBase + leadCount) || (vowelBase ≤ n && n < vowelBase + vowelCount) ||
    (tailBase < n && n < tailBase + tailCount)

theorem isSyllable_iff {n : Nat} : isSyllable n ↔ 0xAC00 ≤ n ∧ n < 0xD7A4 := by
  have hend : syllableBase + syllableCount = 0xD7A4 := rfl
  rw [isSyllable, hend, Bool.and_eq_true, decide_eq_true_eq, decide_eq_true_eq]
  rfl

theorem isJamo_iff {n : Nat} : isJamo n ↔
    0x1100 ≤ n ∧ n < 0x1113 ∨ 0x1161 ≤ n ∧ n < 0x1176 ∨ 0x11A7 < n ∧ n < 0x11C3 := by
  simp only [isJamo, Bool.or_eq_true, Bool.and_eq_true, decide_eq_true_eq, or_assoc]
  exact Iff.rfl

theorem of_syllable? {a b n : Nat} (h : syllable? a b = some n) :
    0x1100 ≤ a ∧ a < 0x1113 ∧ 0x1161 ≤ b ∧ b < 0x1176 ∧
        n = 0xAC00 + ((a - 0x1100) * 21 + (b - 0x1161)) * 28 ∨
      isSyllable a ∧ (a - 0xAC00) % 28 = 0 ∧ 0x11A7 < b ∧ b < 0x11C3 ∧ n = a + (b - 0x11A7) := by
  rw [isSyllable_iff]
  unfold syllable? at h
  split at h
  · next hin =>
    simp only [Bool.and_eq_true, decide_eq_true_eq, and_assoc] at hin
    exact .inl ⟨hin.1, hin.2.1, hin.2.2.1, hin.2.2.2, (Option.some.inj h).symm⟩
  · split at h
    · next hin =>
      simp only [Bool.and_eq_true, decide_eq_true_eq, and_assoc] at hin
      exact .inr ⟨⟨hin.1, hin.2.1⟩, hin.2.2.1, hin.2.2.2.1, hin.2.2.2.2,
        (Option.some.inj h).symm⟩
    · cases h

theorem syllableParts?_eq (n : Nat) : syllableParts? n =
    if isSyllable n then
      if (n - 0xAC00) % 28 = 0 then
        some (0x1100 + (n - 0xAC00) / 28 / 21, 0x1161 + (n - 0xAC00) / 28 % 21)
      else some (n - (n - 0xAC00) % 28, 0x11A7 + (n - 0xAC00) % 28)
    else none := rfl

theorem syllableParts?_of_syllable? {a b n : Nat} (h : syllable? a b = some n) :
    isSyllable n ∧ syllableParts? n = some (a, b) := by
  rw [syllableParts?_eq]
  rcases of_syllable? h with ⟨ha, ha', hb, hb', hn⟩ | ⟨ha, htail, hb, hb', hn⟩
  · have hin : isSyllable n := isSyllable_iff.2 (by omega)
    rw [if_pos hin, if_pos (by omega)]
    refine ⟨hin, congrArg some (Prod.ext ?_ ?_)⟩ <;> simp only <;> omega
  · rw [isSyllable_iff] at ha
    have hin : isSyllable n := isSyllable_iff.2 (by omega)
    rw [if_pos hin, if_neg (by omega)]
    refine ⟨hin, congrArg some (Prod.ext ?_ ?_)⟩ <;> simp only <;> omega

/-- A syllable is two letters, or a syllable of two letters and a third one. -/
theorem of_syllableParts? {n a b : Nat} (h : syllableParts? n = some (a, b)) :
    isJamo b ∧ (isJamo a ∨ isSyllable a ∧ (a - 0xAC00) % 28 = 0) := by
  simp only [isJamo_iff, isSyllable_iff]
  rw [syllableParts?_eq] at h
  split at h
  · next hn =>
    rw [isSyllable_iff] at hn
    split at h
    all_goals
      obtain ⟨ha, hb⟩ := Prod.mk.inj (Option.some.inj h)
      omega
  · cases h

/-! ### The rows of the composition -/

/-- The parts of a code point by rows in a tree. -/
def Tree.parts? (t : Tree) (n : Nat) : Option (Nat × Nat) :=
  if n < 0xC0 then none
  else match syllableParts? n with
    | some p => some p
    | none => (t.find? (fun _ => 1) n).map fun r => (r.field 0, r.field 1)

/-- The first part, and its first part, so many times at most, have no parts. -/
def Tree.endsWithin (t : Tree) : Nat → Nat → Bool
  | 0, n => (t.parts? n).isNone
  | depth + 1, n =>
    match t.parts? n with
    | none => true
    | some (a, _) => t.endsWithin depth a

/-- What a label may hold once it has been mapped. -/
def isLabelChar (c : Char) : Bool := isKept c && c != '.'

/-- The code point of such a character. -/
def labelCode (mapping : Tree) (n : Nat) : Bool :=
  Nat.isValidChar n && keptIn mapping (Char.ofNat n) && n != 0x2E

/-- What a row of the composition is checked for. -/
def Row.composes (mapping t : Tree) (r : Row) : Bool :=
  0xC0 ≤ r.first && !isSyllable r.first && !isJamo r.first &&
    ([r.first, r.field 0, r.field 1].all (labelCode mapping)) &&
    (t.parts? (r.field 1)).isNone && t.endsWithin 3 (r.field 0)

def areComposed (mapping rows : List Row) : Bool :=
  let m := (Tree.build 11 mapping).1
  let t := Tree.build 10 rows
  Row.inOrder (fun _ => 1) rows && t.2.isEmpty && rows.all (Row.composes m t.1) &&
    ((List.range' 0x1100 0x100).all fun n => !isJamo n || labelCode m n) &&
    mapping.all fun r =>
      r.first + r.runLength ≤ syllableBase || syllableBase + syllableCount ≤ r.first

set_option maxRecDepth 4000 in
theorem areComposed_compositionRows : areComposed mappingRows compositionRows := by
  apply Row.holds_ofLines (p := fun mapping => areComposed mapping compositionRows)
  apply Exists.intro
  apply And.intro
  · unfold mappingLines
    repeat (first | exact .nil | apply Row.Lines.cons rfl)
  · apply Row.holds_ofLines (p := fun rows => areComposed _ rows)
    apply Exists.intro
    apply And.intro
    · unfold compositionLines
      repeat (first | exact .nil | apply Row.Lines.cons rfl)
    · decide +kernel

/-- A tree finds the parts of all characters, and a mapping keeps them. -/
structure Composes (m t : Tree) (mapping rows : List Row) : Prop where
  order : rows.Pairwise (Row.Precedes fun _ => 1)
  rows_eq : t.rows = rows
  row : ∀ r ∈ rows, r.composes m t
  jamo : ∀ n, isJamo n → labelCode m n
  syllable : ∀ n, isSyllable n → mapping.find? (Row.covers Row.runLength n) = none

theorem composes_of_areComposed {mapping rows : List Row} (h : areComposed mapping rows) :
    Composes (Tree.build 11 mapping).1 (Tree.build 10 rows).1 mapping rows := by
  simp only [areComposed, Bool.and_eq_true, List.all_eq_true, List.isEmpty_iff, and_assoc] at h
  obtain ⟨horder, hleft, hrow, hjamo, hsyllable⟩ := h
  have hrows := Tree.rows_build 10 rows
  rw [hleft, List.append_nil] at hrows
  refine ⟨Row.pairwise_of_inOrder _ horder, hrows, hrow, fun n hn => ?_, fun n hn => ?_⟩
  · have hin : n ∈ List.range' 0x1100 0x100 := by
      rw [List.mem_range'_1]
      rw [isJamo_iff] at hn
      omega
    simpa [hn] using hjamo n hin
  · have hend : syllableBase + syllableCount = 0xD7A4 := rfl
    have hstart : syllableBase = 0xAC00 := rfl
    refine List.find?_eq_none.2 fun r hr hcovers => ?_
    have hout := hsyllable r hr
    rw [hend, hstart, Bool.or_eq_true, decide_eq_true_eq, decide_eq_true_eq] at hout
    rw [Row.covers, Bool.and_eq_true, decide_eq_true_eq, decide_eq_true_eq] at hcovers
    rw [isSyllable_iff] at hn
    omega

theorem composes_compositionRows : Composes (Tree.build 11 mappingRows).1
    (Tree.build 10 compositionRows).1 mappingRows compositionRows :=
  composes_of_areComposed areComposed_compositionRows

theorem isLabelChar_iff {c : Char} : isLabelChar c ↔ isKept c ∧ c.toNat ≠ 0x2E := by
  rw [isLabelChar, Bool.and_eq_true, bne_iff_ne, ne_eq, ← Char.toNat_inj]
  rfl

theorem Settles.isLabelChar_of_labelCode {m : Tree} (hm : Settles m mappingRows) {n : Nat}
    (hn : labelCode m n) : n.isValidChar ∧ isLabelChar (Char.ofNat n) := by
  simp only [labelCode, Bool.and_eq_true, bne_iff_ne, decide_eq_true_eq, hm.keptIn_eq] at hn
  obtain ⟨⟨hvalid, hkept⟩, hstop⟩ := hn
  rw [isLabelChar_iff, Utf8.toNat_ofNat hvalid]
  exact ⟨hvalid, hkept, hstop⟩

section

variable {m t : Tree} (hm : Settles m mappingRows) (h : Composes m t mappingRows compositionRows)

include h

theorem Composes.find?_eq (n : Nat) :
    t.find? (fun _ => 1) n = compositionRows.find? (·.first = n) := by
  have hcovers : (fun r : Row => decide (r.first = n)) = Row.covers (fun _ => 1) n := by
    funext r
    rw [Row.covers, Bool.eq_iff_iff, Bool.and_eq_true, decide_eq_true_eq, decide_eq_true_eq,
      decide_eq_true_eq]
    omega
  rw [Tree.find?_eq (h.rows_eq.symm ▸ h.order), h.rows_eq, hcovers]

/-- A row is found by the character that it composes. -/
theorem Composes.find?_first {r : Row} (hr : r ∈ compositionRows) :
    t.find? (fun _ => 1) r.first = some r := by
  have hdistinct : (compositionRows.map Row.first).Nodup :=
    List.pairwise_map.2 (h.order.imp fun hlt => Nat.ne_of_lt hlt)
  rw [h.find?_eq]
  cases hfind : compositionRows.find? (·.first = r.first) with
  | none => simpa using List.find?_eq_none.1 hfind r hr
  | some r' =>
    have hsame := List.find?_some hfind
    rw [decide_eq_true_eq] at hsame
    exact congrArg some
      (List.inj_on_of_nodup_map hdistinct (List.mem_of_find?_eq_some hfind) hr hsame)

theorem Composes.parts?_eq (c : Char) : Domain.parts? c =
    (t.parts? c.toNat).map fun p => (Char.ofNat p.1, Char.ofNat p.2) := by
  rw [Domain.parts?, Tree.parts?, h.find?_eq]
  split
  · rfl
  · cases syllableParts? c.toNat <;> simp [Function.comp_def]

theorem Composes.parts?_first {r : Row} (hr : r ∈ compositionRows) :
    t.parts? r.first = some (r.field 0, r.field 1) := by
  have hrow := h.row r hr
  simp only [Row.composes, Bool.and_eq_true, Bool.not_eq_true', decide_eq_true_eq, and_assoc]
    at hrow
  rw [Tree.parts?, if_neg (Nat.not_lt.2 hrow.1), syllableParts?_eq, hrow.2.1, h.find?_first hr]
  simp

theorem Composes.parts?_jamo {n : Nat} (hn : isJamo n) : t.parts? n = none := by
  have hsyllable : isSyllable n = false := by
    rw [← Bool.not_eq_true, isSyllable_iff]
    rw [isJamo_iff] at hn
    omega
  have hfind : t.find? (fun _ => 1) n = none := by
    rw [h.find?_eq, List.find?_eq_none]
    intro r hr hfirst
    have hrow := h.row r hr
    simp only [Row.composes, Bool.and_eq_true, Bool.not_eq_true'] at hrow
    rw [decide_eq_true_eq] at hfirst
    rw [hfirst, hn] at hrow
    simp at hrow
  rw [Tree.parts?, syllableParts?_eq, hsyllable, hfind]
  simp

theorem Composes.endsWithin_jamo {n : Nat} (hn : isJamo n) (depth : Nat) :
    t.endsWithin depth n := by
  cases depth <;> simp [Tree.endsWithin, h.parts?_jamo hn]

/-- A syllable without a third letter has letters for parts. -/
theorem Composes.endsWithin_syllable {n : Nat} (hn : isSyllable n) (htail : (n - 0xAC00) % 28 = 0)
    (depth : Nat) : t.endsWithin (depth + 1) n := by
  have hfirst : ¬ n < 0xC0 := by
    rw [isSyllable_iff] at hn
    omega
  have hlead : isJamo (0x1100 + (n - 0xAC00) / 28 / 21) := by
    rw [isSyllable_iff] at hn
    rw [isJamo_iff]
    omega
  rw [Tree.endsWithin, Tree.parts?, if_neg hfirst, syllableParts?_eq, if_pos hn, if_pos htail]
  exact h.endsWithin_jamo hlead depth

theorem Composes.isLabelChar_syllable {n : Nat} (hn : isSyllable n) :
    n.isValidChar ∧ isLabelChar (Char.ofNat n) := by
  have hvalid : n.isValidChar := by
    rw [isSyllable_iff] at hn
    exact .inl (by omega)
  have himage : image (Char.ofNat n) = .kept := by
    rw [image, Utf8.toNat_ofNat hvalid]
    split
    · next r hfind => exact absurd (hfind.symm.trans (h.syllable n hn)) (by simp)
    · rfl
  rw [isLabelChar_iff, Utf8.toNat_ofNat hvalid]
  refine ⟨hvalid, decide_eq_true himage, ?_⟩
  rw [isSyllable_iff] at hn
  omega

include hm

theorem Composes.isLabelChar_jamo {n : Nat} (hn : isJamo n) :
    n.isValidChar ∧ isLabelChar (Char.ofNat n) :=
  hm.isLabelChar_of_labelCode (h.jamo n hn)

theorem Composes.of_composes {r : Row} (hr : r ∈ compositionRows) :
    (∀ n ∈ [r.first, r.field 0, r.field 1], n.isValidChar ∧ isLabelChar (Char.ofNat n)) ∧
      t.parts? (r.field 1) = none ∧ t.endsWithin 3 (r.field 0) := by
  have hrow := h.row r hr
  simp only [Row.composes, Bool.and_eq_true, List.all_eq_true, Option.isNone_iff_eq_none,
    and_assoc] at hrow
  obtain ⟨-, -, -, hcodes, hsecond, hends⟩ := hrow
  exact ⟨fun n hn => hm.isLabelChar_of_labelCode (hcodes n hn), hsecond, hends⟩

theorem Composes.of_parts? {n a b : Nat} (hparts : t.parts? n = some (a, b)) :
    (a.isValidChar ∧ isLabelChar (Char.ofNat a)) ∧ (b.isValidChar ∧ isLabelChar (Char.ofNat b)) ∧
      t.parts? b = none ∧ t.endsWithin 3 a := by
  rw [Tree.parts?] at hparts
  split at hparts
  · cases hparts
  · split at hparts
    · next p hsyllable =>
      cases hparts
      obtain ⟨hb, ha | ⟨ha, htail⟩⟩ := of_syllableParts? hsyllable
      · exact ⟨h.isLabelChar_jamo hm ha, h.isLabelChar_jamo hm hb, h.parts?_jamo hb,
          h.endsWithin_jamo ha 3⟩
      · exact ⟨h.isLabelChar_syllable ha, h.isLabelChar_jamo hm hb, h.parts?_jamo hb,
          h.endsWithin_syllable ha htail 2⟩
    · rw [h.find?_eq, Option.map_eq_some_iff] at hparts
      obtain ⟨r, hfind, heq⟩ := hparts
      cases heq
      obtain ⟨hchars, hsecond, hends⟩ := h.of_composes hm (List.mem_of_find?_eq_some hfind)
      exact ⟨hchars _ (by simp), hchars _ (by simp), hsecond, hends⟩

end

/-! ### Characters -/

section

variable {a b c : Char}

theorem exists_parts? (hparts : parts? c = some (a, b)) :
    (Tree.build 10 compositionRows).1.parts? c.toNat = some (a.toNat, b.toNat) ∧
      isLabelChar a ∧ isLabelChar b := by
  rw [composes_compositionRows.parts?_eq, Option.map_eq_some_iff] at hparts
  obtain ⟨⟨n, k⟩, hcodes, heq⟩ := hparts
  obtain ⟨⟨hn, ha⟩, ⟨hk, hb⟩, -, -⟩ :=
    composes_compositionRows.of_parts? settles_mappingRows hcodes
  obtain ⟨rfl, rfl⟩ := Prod.mk.inj heq
  rw [Utf8.toNat_ofNat hn, Utf8.toNat_ofNat hk]
  exact ⟨hcodes, ha, hb⟩

theorem isLabelChar_of_parts? (h : parts? c = some (a, b)) : isLabelChar a ∧ isLabelChar b :=
  (exists_parts? h).2

theorem parts?_second (h : parts? c = some (a, b)) : parts? b = none := by
  have hsecond := (composes_compositionRows.of_parts? settles_mappingRows (exists_parts? h).1).2.2.1
  rw [composes_compositionRows.parts?_eq, hsecond]
  rfl

/-- Taking apart the first part so many times, at most, leads to one without parts. -/
def EndsWithin : Nat → Char → Prop
  | 0, c => parts? c = none
  | depth + 1, c => ∀ a b, parts? c = some (a, b) → EndsWithin depth a

theorem endsWithin_of_tree {depth : Nat}
    (h : (Tree.build 10 compositionRows).1.endsWithin depth c.toNat) : EndsWithin depth c := by
  induction depth generalizing c with
  | zero =>
    rw [Tree.endsWithin, Option.isNone_iff_eq_none] at h
    rw [EndsWithin, composes_compositionRows.parts?_eq, h]
    rfl
  | succ depth ih =>
    intro a b hparts
    rw [Tree.endsWithin, (exists_parts? hparts).1] at h
    exact ih h

theorem endsWithin_maxParts (c : Char) : EndsWithin maxParts c := fun _ _ hparts =>
  endsWithin_of_tree (composes_compositionRows.of_parts? settles_mappingRows
    (exists_parts? hparts).1).2.2.2

/-- A composed character has the parts that it is composed of. -/
theorem parts?_of_composed? (h : composed? a b = some c) :
    parts? c = some (a, b) ∧ isLabelChar c := by
  have hcomposes := composes_compositionRows
  rw [composed?] at h
  split at h
  · cases h
  · split at h
    · next n hsyllable =>
      obtain ⟨hin, hparts⟩ := syllableParts?_of_syllable? hsyllable
      obtain ⟨hvalid, hlabel⟩ := hcomposes.isLabelChar_syllable hin
      obtain rfl := Option.some.inj h
      have hbig : ¬ n < 0xC0 := by
        rw [isSyllable_iff] at hin
        omega
      refine ⟨?_, hlabel⟩
      rw [parts?, Utf8.toNat_ofNat hvalid, if_neg hbig, hparts]
      simp
    · rw [Option.map_eq_some_iff] at h
      obtain ⟨r, hfind, rfl⟩ := h
      have hr := List.mem_of_find?_eq_some hfind
      have hfields := List.find?_some hfind
      obtain ⟨hchars, -, -⟩ := hcomposes.of_composes settles_mappingRows hr
      obtain ⟨hvalid, hlabel⟩ := hchars r.first (by simp)
      simp only [Bool.and_eq_true, decide_eq_true_eq] at hfields
      refine ⟨?_, hlabel⟩
      rw [hcomposes.parts?_eq, Utf8.toNat_ofNat hvalid, hcomposes.parts?_first hr, hfields.1,
        hfields.2]
      simp

/-- A full stop joins no mark. -/
theorem composed?_stop (b : Char) : composed? '.' b = none := by
  cases h : composed? '.' b with
  | none => rfl
  | some c =>
    have hstop := (isLabelChar_of_parts? (parts?_of_composed? h).1).1
    rw [isLabelChar, bne_self_eq_false, Bool.and_false] at hstop
    cases hstop

end

end FleetDesk.Domain
