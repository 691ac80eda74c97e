import FleetDesk.Domain.Ascii
import FleetDesk.Proofs.Domain.Composition
import FleetDesk.Proofs.Domain.Punycode
import Mathlib.Data.Bool.AllAny
import Mathlib.Data.List.Forall2

/-!
# Domain names in ASCII stand for themselves

Each label that `ascii?` finds is one that is read back from what it is written as (`IsLabel`). So
what `ascii?` makes of a name it leaves as it is (`ascii?_idem`).
-/

namespace FleetDesk.Domain

theorem mapM_eq_some_iff {α β : Type} {f : α → Option β} {xs : List α} {ys : List β} :
    xs.mapM f = some ys ↔ List.Forall₂ (fun x y => f x = some y) xs ys := by
  induction xs generalizing ys with
  | nil => simp [eq_comm]
  | cons x xs ih =>
    simp only [List.mapM_cons, Option.bind_eq_bind, Option.bind_eq_some_iff, Option.pure_def,
      Option.some.injEq, List.forall₂_cons_left_iff, ih]
    constructor
    · rintro ⟨y, hy, ys, hys, rfl⟩
      exact ⟨y, ys, hy, hys, rfl⟩
    · rintro ⟨y, ys, hy, hys, rfl⟩
      exact ⟨y, hy, ys, hys, rfl⟩

theorem exists_mem_left {α β : Type} {r : α → β → Prop} {xs : List α} {ys : List β} {y : β}
    (h : List.Forall₂ r xs ys) (hy : y ∈ ys) : ∃ x ∈ xs, r x y := by
  induction h with
  | nil => cases hy
  | cons hr _ ih =>
    rcases List.mem_cons.1 hy with rfl | hy
    · exact ⟨_, List.mem_cons_self, hr⟩
    · obtain ⟨x, hx, hr⟩ := ih hy
      exact ⟨x, List.mem_cons_of_mem _ hx, hr⟩

/-! ### The parts of a name in normal form -/

theorem splitChars_normalize (cs : List Char) : Text.splitChars (· = '.') (normalize cs) =
    (Text.splitChars (· = '.') cs).map normalize := by
  induction hlength : cs.length using Nat.strongRecOn generalizing cs with
  | ind length ih =>
    by_cases hstop : '.' ∈ cs
    · obtain ⟨u, v, rfl⟩ := List.append_of_mem hstop
      rw [List.length_append, List.length_cons] at hlength
      rw [normalize_append_stop, Text.splitChars_append_cons (by decide),
        Text.splitChars_append_cons (by decide), ih u.length (by omega) u rfl,
        ih v.length (by omega) v rfl, List.map_append]
    · have hnone : ∀ c ∈ cs, decide (c = '.') = false := fun c hc =>
        decide_eq_false fun heq => hstop (heq ▸ hc)
      have hnone' : ∀ c ∈ normalize cs, decide (c = '.') = false := fun c hc => by
        rcases mem_normalize hc with hc | hc
        · exact hnone c hc
        · exact decide_eq_false fun heq => (isLabelChar_iff.1 hc).2 (heq ▸ rfl)
      rw [Text.splitChars_of_forall_not hnone, Text.splitChars_of_forall_not hnone']
      rfl

/-- Each part of a name that is in normal form is in normal form. -/
theorem normalize_of_mem_splitChars {cs part : List Char}
    (h : part ∈ Text.splitChars (· = '.') (normalize cs)) : normalize part = part := by
  have hmap := splitChars_normalize (normalize cs)
  rw [normalize_normalize] at hmap
  exact (List.map_inj_left.1 (hmap.symm.trans (List.map_id _).symm)) part h

/-! ### Labels -/

/-- A label that can be read from what it is written as. -/
structure IsLabel (label : List Char) : Prop where
  chars : ∀ c ∈ label, isLabelChar c
  reads : label? (written label) = some label

/-- A character of a label that is written. -/
def isWrittenChar (c : Char) : Bool := Punycode.isBasic c && isLabelChar c

theorem label?_codedStart (cs : List Char) : label? (codedStart ++ cs) = decoded? cs := by
  have hprefix : codedStart.isPrefixOf (codedStart ++ cs) :=
    List.isPrefixOf_iff_prefix.2 (List.prefix_append _ _)
  rw [label?, if_pos hprefix, List.drop_left]

theorem decoded?_encode {label : List Char} (h : isCoded label) :
    decoded? (Punycode.encode label) = some label := by
  rw [decoded?, Punycode.decode_encode, Option.filter_some, if_pos h]

theorem isLabel_of_coded {label : List Char} (hchars : ∀ c ∈ label, isLabelChar c)
    (h : isCoded label) : IsLabel label where
  chars := hchars
  reads := by
    have hothers : ¬ label.all Punycode.isBasic := by
      simp only [isCoded, Bool.and_eq_true, Bool.not_eq_true'] at h
      simp [h.1.1.1]
    rw [written, if_neg hothers, label?_codedStart, decoded?_encode h]

theorem isLabel_of_label? {part label : List Char} (hchars : ∀ c ∈ part, isLabelChar c)
    (hnormal : normalize part = part) (h : label? part = some label) : IsLabel label := by
  rw [label?] at h
  split at h
  · rw [decoded?, Option.filter_eq_some_iff] at h
    obtain ⟨hdecode, hcoded⟩ := h
    have hall := hcoded
    simp only [isCoded, Bool.and_eq_true, List.all_eq_true] at hall
    refine isLabel_of_coded (fun c hc => isLabelChar_iff.2 ⟨hall.1.1.2 c hc, ?_⟩) hcoded
    rcases Punycode.mem_decode hdecode hc with hmem | hbig
    · exact (isLabelChar_iff.1 (hchars c (List.mem_of_mem_drop hmem))).2
    · intro heq
      rw [heq] at hbig
      exact absurd hbig (by decide)
  · next hplain =>
    obtain rfl := Option.some.inj h
    by_cases hbasic : part.all Punycode.isBasic
    · refine ⟨hchars, ?_⟩
      rw [written, if_pos hbasic, label?, if_neg hplain]
    · refine isLabel_of_coded hchars ?_
      have hkept : part.all isKept :=
        List.all_eq_true.2 fun c hc => (isLabelChar_iff.1 (hchars c hc)).1
      simp [isCoded, hbasic, hkept, hnormal, hplain]

theorem isWrittenChar_of_ascii {c : Char} (h : c.toNat < 0x80 ∧
    ¬ (0x41 ≤ c.toNat ∧ c.toNat ≤ 0x5A) ∧ c.toNat ≠ 0x2E) : isWrittenChar c := by
  have hlabel : isLabelChar c := isLabelChar_iff.2 ⟨(isKept_iff_of_ascii h.1).2 h.2.1, h.2.2⟩
  rw [isWrittenChar, hlabel, Bool.and_true]
  exact decide_eq_true h.1

theorem isWrittenChar_of_mem_encode {label : List Char} (h : ∀ c ∈ label, isLabelChar c)
    {c : Char} (hc : c ∈ Punycode.encode label) : isWrittenChar c := by
  have hdigit : ∀ n : Fin Punycode.base, (Punycode.digitChar n).toNat < 0x80 ∧
      ¬ (0x41 ≤ (Punycode.digitChar n).toNat ∧ (Punycode.digitChar n).toNat ≤ 0x5A) ∧
      (Punycode.digitChar n).toNat ≠ 0x2E := by decide
  rw [Punycode.encode_eq, List.mem_append, List.mem_append] at hc
  rcases hc with (hc | hc) | hc
  · obtain ⟨hmem, hbasic⟩ := List.mem_filter.1 hc
    rw [isWrittenChar, hbasic, h c hmem]
    rfl
  · split at hc
    · cases hc
    · exact List.mem_singleton.1 hc ▸ isWrittenChar_of_ascii (by decide)
  · obtain ⟨d, hd, rfl⟩ := Punycode.exists_of_mem_distances hc
    exact isWrittenChar_of_ascii (hdigit ⟨d, hd⟩)

theorem IsLabel.isWrittenChar {label : List Char} (h : IsLabel label) :
    ∀ c ∈ written label, isWrittenChar c := by
  have hstart : ∀ c ∈ codedStart, c.toNat < 0x80 ∧ ¬ (0x41 ≤ c.toNat ∧ c.toNat ≤ 0x5A) ∧
      c.toNat ≠ 0x2E := List.all_iff_forall_prop.1 (by decide)
  intro c hc
  rw [written] at hc
  split at hc
  · next hbasic =>
    rw [Domain.isWrittenChar, List.all_eq_true.1 hbasic c hc, h.chars c hc]
    rfl
  · rcases List.mem_append.1 hc with hc | hc
    · exact isWrittenChar_of_ascii (hstart c hc)
    · exact isWrittenChar_of_mem_encode h.chars hc

theorem isLabel_of_mem_splitChars {cs part label : List Char} (h : ∀ c ∈ cs, isKept c)
    (hpart : part ∈ Text.splitChars (· = '.') (normalize cs)) (hlabel : label? part = some label) :
    IsLabel label := by
  refine isLabel_of_label? (fun c hc => ?_) (normalize_of_mem_splitChars hpart) hlabel
  obtain ⟨hstop, hmem⟩ := Text.of_mem_splitChars hpart hc
  rcases mem_normalize hmem with hmem | hlabel
  · exact isLabelChar_iff.2 ⟨h c hmem, fun heq => of_decide_eq_false hstop (Char.toNat_inj.1 heq)⟩
  · exact hlabel

/-! ### Names -/

/-- A name from its labels, unless they may not stand in one name. -/
def spelled? (labels : List (List Char)) : Option (List Char) :=
  if !labels.all isValidLabel then none
  else if labels.any turnsAround && !labels.all keepsDirection then none
  else
    let out := ['.'].intercalate (labels.map written)
    if out.any isForbidden then none else some out

theorem ascii?_eq_some_iff {name out : List Char} : ascii? name = some out ↔
    ∃ cs labels, mapped? name = some cs ∧
      List.Forall₂ (fun part label => label? part = some label)
        (Text.splitChars (· = '.') (normalize cs)) labels ∧ spelled? labels = some out := by
  simp only [← mapM_eq_some_iff]
  rw [ascii?]
  simp only [Option.bind_eq_bind, Option.bind_eq_some_iff]
  constructor
  · rintro ⟨cs, hcs, labels, hlabels, hout⟩
    exact ⟨cs, labels, hcs, hlabels, hout⟩
  · rintro ⟨cs, labels, hcs, hlabels, hout⟩
    exact ⟨cs, hcs, labels, hlabels, hout⟩

theorem spelled?_eq_some {labels : List (List Char)} {out : List Char}
    (h : spelled? labels = some out) :
    out = ['.'].intercalate (labels.map written) ∧ ∀ c ∈ out, isForbidden c = false := by
  rw [spelled?] at h
  split at h
  · cases h
  · split at h
    · cases h
    · simp only at h
      split at h
      · cases h
      · next hforbidden =>
        obtain rfl := Option.some.inj h
        rw [List.any_eq_true, not_exists] at hforbidden
        exact ⟨rfl, fun c hc => by simpa [hc] using hforbidden c⟩

/-- A name in ASCII is the one that labels are written as. -/
theorem exists_labels {name out : List Char} (h : ascii? name = some out) :
    ∃ labels, labels ≠ [] ∧ (∀ label ∈ labels, IsLabel label) ∧ spelled? labels = some out := by
  obtain ⟨cs, labels, hcs, hlabels, hout⟩ := ascii?_eq_some_iff.1 h
  refine ⟨labels, ?_, fun label hlabel => ?_, hout⟩
  · rintro rfl
    exact Text.splitChars_ne_nil _ _ (List.forall₂_nil_right_iff.1 hlabels)
  · obtain ⟨part, hpart, hread⟩ := exists_mem_left hlabels hlabel
    exact isLabel_of_mem_splitChars (isKept_of_mapped? hcs) hpart hread

/-- The characters of a name in ASCII. -/
theorem mem_ascii? {name out : List Char} (h : ascii? name = some out) {c : Char} (hc : c ∈ out) :
    Punycode.isBasic c ∧ isKept c ∧ isForbidden c = false := by
  obtain ⟨labels, -, hlabels, hspelled⟩ := exists_labels h
  obtain ⟨rfl, hforbidden⟩ := spelled?_eq_some hspelled
  rcases Text.mem_intercalate hc with rfl | ⟨part, hpart, hmem⟩
  · exact ⟨rfl, (isKept_iff_of_ascii (by decide)).2 (by decide), hforbidden '.' hc⟩
  · obtain ⟨label, hlabel, rfl⟩ := List.mem_map.1 hpart
    have hwritten := (hlabels label hlabel).isWrittenChar c hmem
    rw [isWrittenChar, Bool.and_eq_true] at hwritten
    exact ⟨hwritten.1, (isLabelChar_iff.1 hwritten.2).1, hforbidden c hc⟩

theorem ascii?_idem {name out : List Char} (h : ascii? name = some out) :
    ascii? out = some out := by
  obtain ⟨labels, hne, hlabels, hspelled⟩ := exists_labels h
  have hnormal : normalize out = out :=
    normalize_of_ascii fun c hc => of_decide_eq_true (mem_ascii? h hc).1
  have hparts : Text.splitChars (· = '.') (normalize out) = labels.map written := by
    rw [hnormal, (spelled?_eq_some hspelled).1]
    refine Text.splitChars_intercalate (by decide) (by simpa using hne) fun part hpart c hc => ?_
    obtain ⟨label, hlabel, rfl⟩ := List.mem_map.1 hpart
    have hwritten := (hlabels label hlabel).isWrittenChar c hc
    rw [isWrittenChar, Bool.and_eq_true] at hwritten
    exact decide_eq_false fun heq => (isLabelChar_iff.1 hwritten.2).2 (heq ▸ rfl)
  refine ascii?_eq_some_iff.2
    ⟨out, labels, mapped?_of_kept fun c hc => (mem_ascii? h hc).2.1, ?_, hspelled⟩
  rw [hparts, List.forall₂_map_left_iff, List.forall₂_same]
  exact fun label hlabel => (hlabels label hlabel).reads

/-! ### Names of ASCII characters -/

/-- No ASCII character has labels' directions checked, by the rows of a table. -/
def leadsOn (rows : List Row) : Bool :=
  (List.range 0x80).all fun n =>
    !(isRightToLeft (Row.signOf rows 'L' n) || Row.signOf rows 'L' n = 'N')

set_option maxRecDepth 4000 in
theorem leadsOn_directionRows : leadsOn directionRows := by
  apply Row.holds_ofLines (p := fun rows => leadsOn rows)
  apply Exists.intro
  apply And.intro
  · unfold directionLines
    repeat (first | exact .nil | apply Row.Lines.cons rfl)
  · decide +kernel

theorem turnsAround_of_ascii {cs : List Char} (h : ∀ c ∈ cs, c.toNat < 0x80) :
    turnsAround cs = false := by
  have hall := leadsOn_directionRows
  simp only [leadsOn, List.all_eq_true, List.mem_range, Bool.not_eq_true'] at hall
  exact List.any_eq_false.2 fun c hc => by
    rw [direction, hall c.toNat (h c hc)]
    decide

theorem joinersFit_of_ascii {cs : List Char} (h : ∀ c ∈ cs, c.toNat < 0x80) (before : List Char) :
    joinersFit before cs := by
  induction cs generalizing before with
  | nil => rfl
  | cons c cs ih =>
    obtain ⟨hc, hcs⟩ := List.forall_mem_cons.1 h
    have hjoiner : c ≠ joiner := by
      rintro rfl
      exact absurd hc (by decide)
    have hnonJoiner : c ≠ nonJoiner := by
      rintro rfl
      exact absurd hc (by decide)
    simp [joinersFit, hjoiner, hnonJoiner, ih hcs]

theorem isValidLabel_of_ascii {label : List Char} (h : ∀ c ∈ label, c.toNat < 0x80) :
    isValidLabel label := by
  have hmark : label.head?.any isMark = false := by
    cases label with
    | nil => rfl
    | cons c cs =>
      have hc := h c List.mem_cons_self
      simp [isMark]
      omega
  rw [isValidLabel, hmark, joinersFit_of_ascii h]
  rfl

theorem written_of_ascii {label : List Char} (h : ∀ c ∈ label, c.toNat < 0x80) :
    written label = label := by
  have hbasic : label.all Punycode.isBasic :=
    List.all_eq_true.2 fun c hc => decide_eq_true (h c hc)
  rw [written, if_pos hbasic]

/-- A name of small letters and digits, none of them behind `xn--`, is itself in ASCII. -/
theorem ascii?_of_ascii {name : List Char} (hascii : ∀ c ∈ name, c.toNat < 0x80)
    (hkept : ∀ c ∈ name, isKept c) (hallowed : ∀ c ∈ name, isForbidden c = false)
    (hcoded : ∀ part ∈ Text.splitChars (· = '.') name, codedStart.isPrefixOf part = false) :
    ascii? name = some name := by
  have hparts : ∀ part ∈ Text.splitChars (· = '.') name, ∀ c ∈ part, c.toNat < 0x80 :=
    fun part hpart c hc => hascii c (Text.of_mem_splitChars hpart hc).2
  have hreads : ∀ part ∈ Text.splitChars (· = '.') name, label? part = some part :=
    fun part hpart => by rw [label?, hcoded part hpart]; rfl
  have hwritten : (Text.splitChars (· = '.') name).map written =
      Text.splitChars (· = '.') name := by
    rw [List.map_congr_left fun part hpart => written_of_ascii (hparts part hpart), List.map_id']
  have hturns : (Text.splitChars (· = '.') name).any turnsAround = false :=
    List.any_eq_false.2 fun part hpart => by simp [turnsAround_of_ascii (hparts part hpart)]
  have hvalid : (Text.splitChars (· = '.') name).all isValidLabel :=
    List.all_eq_true.2 fun part hpart => isValidLabel_of_ascii (hparts part hpart)
  have hforbidden : name.any isForbidden = false :=
    List.any_eq_false.2 fun c hc => by simp [hallowed c hc]
  refine ascii?_eq_some_iff.2 ⟨name, Text.splitChars (· = '.') name, mapped?_of_kept hkept, ?_, ?_⟩
  · rw [normalize_of_ascii hascii]
    exact List.forall₂_same.2 hreads
  · simp only [spelled?, hturns, hvalid, hwritten, Text.intercalate_splitChars, hforbidden]
    rfl

end FleetDesk.Domain
