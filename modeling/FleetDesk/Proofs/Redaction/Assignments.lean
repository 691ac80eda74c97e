import FleetDesk.Proofs.Redaction.Classes
import FleetDesk.Proofs.Redaction.Runs

/-!
# Masking values one character at a time

`maskFrom name` reads a text after a run `name` of name characters. It is `maskValues` when nothing
was read before (`maskFrom_nil`), and its laws are those of a scanner: name characters lengthen the
name (`maskFrom_append_name`), and a blank ends whatever came before it (`maskFrom_append`).
-/

namespace FleetDesk.Text

/-- The run of name characters that ends with `c`. -/
def extendName (name : List Char) (c : Char) : List Char :=
  if isNameChar c then name ++ [c] else []

/-- After `name` and `c` a value follows that must be masked. -/
def opensValue (name : List Char) (c : Char) (rest : List Char) : Bool :=
  c == '=' && isSecretName name && rest.head?.any (!isBlank ·)

/-- Masks a text that comes after the name characters `name`. -/
def maskFrom (name : List Char) (cs : List Char) : List Char :=
  match cs with
  | [] => []
  | c :: rest =>
    if opensValue name c rest then c :: (marker ++ maskFrom [] (rest.dropWhile (!isBlank ·)))
    else c :: maskFrom (extendName name c) rest
termination_by cs.length
decreasing_by
  · have := dropWhile_length_le (!isBlank ·) rest
    simp only [List.length_cons]; omega
  · simp

theorem opensValue_iff {name : List Char} {c : Char} {rest : List Char} :
    opensValue name c rest ↔ c = '=' ∧ isSecretName name ∧ ∃ v ∈ rest.head?, ¬ isBlank v := by
  cases rest <;> simp [opensValue, and_assoc]

theorem opensValue_nil (c : Char) (rest : List Char) : opensValue [] c rest = false := by
  simp [opensValue, isSecretName_nil]

theorem extendName_pos {c : Char} (h : isNameChar c) (name : List Char) :
    extendName name c = name ++ [c] := if_pos h

theorem extendName_neg {c : Char} (h : ¬ isNameChar c) (name : List Char) :
    extendName name c = [] := if_neg h

@[simp] theorem maskFrom_nil_right (name : List Char) : maskFrom name [] = [] := by
  rw [maskFrom]

theorem maskFrom_cons_pos {name : List Char} {c : Char} {rest : List Char}
    (h : opensValue name c rest) :
    maskFrom name (c :: rest) =
      c :: (marker ++ maskFrom [] (rest.dropWhile (!isBlank ·))) := by
  rw [maskFrom, if_pos h]

theorem maskFrom_cons_neg {name : List Char} {c : Char} {rest : List Char}
    (h : ¬ opensValue name c rest) :
    maskFrom name (c :: rest) = c :: maskFrom (extendName name c) rest := by
  rw [maskFrom, if_neg h]

/-- Name characters are kept and lengthen the name. -/
theorem maskFrom_append_name {more : List Char} (h : ∀ c ∈ more, isNameChar c)
    (name rest : List Char) :
    maskFrom name (more ++ rest) = more ++ maskFrom (name ++ more) rest := by
  induction more generalizing name with
  | nil => simp
  | cons c cs ih =>
    have hc : isNameChar c := h c List.mem_cons_self
    have ho : ¬ opensValue name c (cs ++ rest) := by
      rw [opensValue_iff]
      rintro ⟨rfl, -⟩
      exact not_isNameChar_equals hc
    rw [List.cons_append, maskFrom_cons_neg ho, extendName_pos hc,
      ih (fun d hd => h d (List.mem_cons_of_mem _ hd))]
    simp

/-- Without a name in front other characters are kept. -/
theorem maskFrom_append_gap {gap : List Char} (h : ∀ c ∈ gap, ¬ isNameChar c) (rest : List Char) :
    maskFrom [] (gap ++ rest) = gap ++ maskFrom [] rest := by
  induction gap with
  | nil => rfl
  | cons c cs ih =>
    rw [List.cons_append, maskFrom_cons_neg (by simp [opensValue_nil]),
      extendName_neg (h c List.mem_cons_self), ih fun d hd => h d (List.mem_cons_of_mem _ hd)]
    rfl

/-- A name matters only in front of an equals sign with something behind it. -/
theorem maskFrom_reset {name cs : List Char} (hn : ∀ c ∈ cs.head?, ¬ isNameChar c)
    (he : ∀ v tail, cs ≠ '=' :: v :: tail) : maskFrom name cs = maskFrom [] cs := by
  cases cs with
  | nil => simp
  | cons c rest =>
    have hc : ¬ isNameChar c := hn c rfl
    have ho : ¬ opensValue name c rest := by
      rw [opensValue_iff]
      rintro ⟨rfl, -, v, hv, -⟩
      obtain ⟨tail, rfl⟩ := List.head?_eq_some_iff.1 hv
      exact he v tail rfl
    rw [maskFrom_cons_neg ho, maskFrom_cons_neg (by simp [opensValue_nil]), extendName_neg hc,
      extendName_neg hc]

/-- A whole run of name characters is read before anything is decided. -/
theorem maskFrom_name {c : Char} (hc : isNameChar c) (rest : List Char) :
    maskFrom [] (c :: rest) = (c :: rest.takeWhile isNameChar) ++
      maskFrom (c :: rest.takeWhile isNameChar) (rest.dropWhile isNameChar) := by
  calc maskFrom [] (c :: rest)
      = maskFrom [] ((c :: rest.takeWhile isNameChar) ++ rest.dropWhile isNameChar) := by
        rw [cons_takeWhile_append]
    _ = _ := maskFrom_append_name (forall_cons_takeWhile hc rest) [] _

theorem maskFrom_nil (cs : List Char) : maskFrom [] cs = maskValues cs := by
  fun_induction maskValues cs with
  | case1 => simp
  | case2 c rest hc name v tail hrest hs ih =>
    simp only [Bool.and_eq_true, Bool.not_eq_true'] at hs
    have ho : opensValue name '=' (v :: tail) :=
      opensValue_iff.2 ⟨rfl, hs.1, v, rfl, by simp [hs.2]⟩
    rw [maskFrom_name hc, hrest, maskFrom_cons_pos ho, List.dropWhile_cons_of_pos (by simp [hs.2]),
      ih]
    simp [name]
  | case3 c rest hc name v tail hrest hs ih =>
    have ho : ¬ opensValue name '=' (v :: tail) := by
      rw [opensValue_iff]
      rintro ⟨-, hname, w, hw, hv⟩
      cases hw
      exact hs (by simp [hname, hv])
    rw [maskFrom_name hc, hrest, maskFrom_cons_neg ho, extendName_neg not_isNameChar_equals, ih]
  | case4 c rest hc name hrest ih =>
    rw [maskFrom_name hc, maskFrom_reset (head?_dropWhile_neg _ _) hrest, ih]
  | case5 c rest hc ih =>
    rw [← ih, ← maskFrom_append_gap (forall_cons_takeWhile_not hc rest), cons_takeWhile_append]

/-! ### Blanks end what comes before them -/

theorem head?_dropWhile_blank (cs : List Char) :
    ∀ c ∈ (cs.dropWhile (!isBlank ·)).head?, isBlank c :=
  fun c hc => by simpa using head?_dropWhile_neg (!isBlank ·) cs c hc

theorem dropWhile_append_blank (a : List Char) {b : List Char} (hb : ∀ c ∈ b.head?, isBlank c) :
    (a ++ b).dropWhile (!isBlank ·) = a.dropWhile (!isBlank ·) ++ b := by
  have hself : b.dropWhile (!isBlank ·) = b := by
    cases b with
    | nil => rfl
    | cons c cs => exact List.dropWhile_cons_of_neg (by simp [hb c rfl])
  rw [List.dropWhile_append, hself]
  split
  · next h => rw [List.isEmpty_iff.1 h, List.nil_append]
  · rfl

theorem opensValue_append (name : List Char) (c : Char) (rest : List Char) {b : List Char}
    (hb : ∀ c ∈ b.head?, isBlank c) :
    opensValue name c (rest ++ b) = opensValue name c rest := by
  cases rest with
  | cons v tail => rfl
  | nil =>
    cases b with
    | nil => rfl
    | cons w b => simp [opensValue, hb w rfl]

theorem maskFrom_append (name a : List Char) {b : List Char} (hb : ∀ c ∈ b.head?, isBlank c) :
    maskFrom name (a ++ b) = maskFrom name a ++ maskFrom [] b := by
  fun_induction maskFrom name a with
  | case1 name =>
    refine maskFrom_reset (fun c hc => not_isNameChar_of_isBlank (hb c hc)) ?_
    rintro v tail rfl
    exact not_isBlank_equals (hb '=' rfl)
  | case2 name c rest ho ih =>
    rw [List.cons_append, maskFrom_cons_pos (by rwa [opensValue_append _ _ _ hb]),
      dropWhile_append_blank _ hb, ih]
    simp
  | case3 name c rest ho ih =>
    rw [List.cons_append, maskFrom_cons_neg (by rwa [opensValue_append _ _ _ hb]), ih]
    rfl

theorem head?_maskFrom (name cs : List Char) : (maskFrom name cs).head? = cs.head? := by
  cases cs with
  | nil => simp
  | cons c rest =>
    by_cases ho : opensValue name c rest
    · rw [maskFrom_cons_pos ho]; rfl
    · rw [maskFrom_cons_neg ho]; rfl

/-! ### Values and assignments -/

/-- What a name may be set to. -/
structure IsValue (v : List Char) : Prop where
  ne_nil : v ≠ []
  not_blank : ∀ c ∈ v, ¬ isBlank c

/-- A secret is set to `value`, which reaches up to `after`. -/
structure Assignment (name value after : List Char) : Prop where
  name_chars : ∀ c ∈ name, isNameChar c
  secret : isSecretName name
  value : IsValue value
  after : ∀ c ∈ after.head?, isBlank c

theorem IsValue.exists_head? {v : List Char} (h : IsValue v) : ∃ c ∈ v.head?, ¬ isBlank c := by
  obtain ⟨c, cs, rfl⟩ := List.exists_cons_of_ne_nil h.ne_nil
  exact ⟨c, rfl, h.not_blank c List.mem_cons_self⟩

theorem IsValue.takeWhile_append {v b : List Char} (h : IsValue v)
    (hb : ∀ c ∈ b.head?, isBlank c) : (v ++ b).takeWhile (!isBlank ·) = v :=
  (takeWhile_run (p := (!isBlank ·)) (by simpa using h.not_blank) (by simpa using hb)).1

/-- A value ends in one place only. -/
theorem IsValue.eq_of_append_eq {v w b c : List Char} (hv : IsValue v) (hw : IsValue w)
    (hb : ∀ d ∈ b.head?, isBlank d) (hc : ∀ d ∈ c.head?, isBlank d) (h : v ++ b = w ++ c) :
    v = w := by
  rw [← hv.takeWhile_append hb, h, hw.takeWhile_append hc]

theorem isValue_takeWhile {cs : List Char} (h : ∃ c ∈ cs.head?, ¬ isBlank c) :
    IsValue (cs.takeWhile (!isBlank ·)) := by
  obtain ⟨c, hhead, hc⟩ := h
  obtain ⟨rest, rfl⟩ := List.head?_eq_some_iff.1 hhead
  refine ⟨?_, fun d hd => by simpa using List.mem_takeWhile_imp hd⟩
  rw [List.takeWhile_cons_of_pos (by simpa using hc)]
  exact List.cons_ne_nil _ _

/-- What the scanner masks is an assignment. -/
theorem assignment_of_opensValue {name : List Char} {c : Char} {rest : List Char}
    (hn : ∀ d ∈ name, isNameChar d) (h : opensValue name c rest) :
    Assignment name (rest.takeWhile (!isBlank ·)) (rest.dropWhile (!isBlank ·)) := by
  obtain ⟨-, hs, hv⟩ := opensValue_iff.1 h
  exact ⟨hn, hs, isValue_takeWhile hv, head?_dropWhile_blank rest⟩

theorem isValue_marker : IsValue marker := ⟨by decide, fun _ => not_isBlank_of_mem_marker⟩

end FleetDesk.Text
