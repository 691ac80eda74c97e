import FleetDesk.Proofs.Redaction.Assignments
import FleetDesk.Proofs.Redaction.Digests
import Mathlib.Logic.Relation

/-!
# Redaction hides secrets

Two texts are secret-equivalent when one becomes the other by steps that set a secret to another
value or put another digest in the place of one. Redaction does not tell them apart
(`redact_eq_of_secretEquiv`). A step changes a text behind some beginning `a`. Having read `a`, the
first pass either is in a value, and swallows what follows whatever it is, or it reaches the place
of the change and scans on from there (`maskFrom_reach`).
-/

namespace FleetDesk.Text

inductive SecretStep : List Char → List Char → Prop
  | value {a name v w b : List Char} (hv : Assignment name v b) (hw : Assignment name w b) :
    SecretStep (a ++ name ++ '=' :: (v ++ b)) (a ++ name ++ '=' :: (w ++ b))
  /-- A name character in front of a digest may belong to a secret word that goes on in it. -/
  | digest {a g h b : List Char} (ha : ∀ c ∈ a.getLast?, ¬ isNameChar c) (hg : IsDigest g)
      (hh : IsDigest h) (hb : ∀ c ∈ b.head?, ¬ isHexDigit c) :
    SecretStep (a ++ (g ++ b)) (a ++ (h ++ b))

def SecretEquiv (s t : String) : Prop := Relation.ReflTransGen SecretStep s.toList t.toList

/-! ### What comes before a change -/

theorem foldl_extendName_blank (name p : List Char) {w : Char} (hw : isBlank w) (q : List Char) :
    (p ++ w :: q).foldl extendName name = q.foldl extendName [] := by
  rw [List.foldl_append, List.foldl_cons, extendName_neg (not_isNameChar_of_isBlank hw)]

theorem foldl_extendName_gap {a : List Char} (ha : ∀ c ∈ a.getLast?, ¬ isNameChar c) :
    a.foldl extendName [] = [] := by
  rcases List.eq_nil_or_concat' a with rfl | ⟨init, c, rfl⟩
  · rfl
  · rw [List.foldl_concat, extendName_neg (ha c (by simp))]

theorem opensValue_append_left {name : List Char} {c : Char} {rest : List Char}
    (h : opensValue name c rest) (v : List Char) : opensValue name c (rest ++ v) := by
  obtain ⟨hc, hs, d, hd, hb⟩ := opensValue_iff.1 h
  exact opensValue_iff.2 ⟨hc, hs, d, by simp_all, hb⟩

theorem opensValue_value {v : List Char} (hv : IsValue v) (name : List Char) (c : Char) :
    opensValue name c v ↔ c = '=' ∧ isSecretName name := by
  rw [opensValue_iff]
  exact and_congr_right fun _ => and_iff_left hv.exists_head?

/-- What follows `a` does not matter: the scanner masks it whatever it is. -/
def Swallows (name a : List Char) : Prop :=
  ∀ v w, IsValue v → IsValue w → maskFrom name (a ++ v) = maskFrom name (a ++ w)

/-- What follows `a` is scanned by itself, behind the name that ends `a`. -/
structure Reaches (name a : List Char) : Prop where
  last : (maskFrom name a).getLast? = a.getLast?
  behind : ∀ v, IsValue v →
    maskFrom name (a ++ v) = maskFrom name a ++ maskFrom (a.foldl extendName name) v

/-- A value that has begun in `a` goes on behind it. -/
theorem maskFrom_open {name : List Char} {c : Char} {rest v : List Char}
    (ho : opensValue name c (rest ++ v)) (hrest : ∀ d ∈ rest, ¬ isBlank d) (hv : IsValue v) :
    maskFrom name (c :: (rest ++ v)) = c :: marker := by
  have hdrop : (rest ++ v).dropWhile (!isBlank ·) = [] := by
    refine List.dropWhile_eq_nil_iff.2 fun d hd => ?_
    rcases List.mem_append.1 hd with hd | hd
    · simpa using hrest d hd
    · simpa using hv.not_blank d hd
  rw [maskFrom_cons_pos ho, hdrop, maskFrom_nil_right, List.append_nil]

theorem swallows_open {name : List Char} {c : Char} {rest : List Char}
    (ho : opensValue name c rest) (hrest : ∀ d ∈ rest, ¬ isBlank d) :
    Swallows name (c :: rest) := by
  intro v w hv hw
  rw [List.cons_append, List.cons_append, maskFrom_open (opensValue_append_left ho v) hrest hv,
    maskFrom_open (opensValue_append_left ho w) hrest hw]

/-- Behind a value that ends in `a` the scanner starts afresh. -/
theorem maskFrom_past {name : List Char} {c : Char} {rest : List Char} {d : Char} {q : List Char}
    (ho : opensValue name c rest) (hr : rest.dropWhile (!isBlank ·) = d :: q) (v : List Char) :
    maskFrom name (c :: rest ++ v) = c :: (marker ++ maskFrom [] (d :: q ++ v)) := by
  have hdrop : (rest ++ v).dropWhile (!isBlank ·) = d :: q ++ v := by
    rw [List.dropWhile_append, hr]
    rfl
  rw [List.cons_append, maskFrom_cons_pos (opensValue_append_left ho v), hdrop]

theorem reaches_past {name : List Char} {c : Char} {rest : List Char} {d : Char} {q : List Char}
    (ho : opensValue name c rest) (hr : rest.dropWhile (!isBlank ·) = d :: q)
    (h : Reaches [] (d :: q)) : Reaches name (c :: rest) := by
  have hsplit : rest.takeWhile (!isBlank ·) ++ d :: q = rest := by
    rw [← hr, List.takeWhile_append_dropWhile]
  have hblank : isBlank d := head?_dropWhile_blank rest d (by rw [hr]; rfl)
  have hfold : (c :: rest).foldl extendName name = (d :: q).foldl extendName [] := by
    rw [← hsplit, ← List.cons_append, foldl_extendName_blank _ _ hblank, List.foldl_cons,
      extendName_neg (not_isNameChar_of_isBlank hblank)]
  have hlast : (c :: rest).getLast? = (d :: q).getLast? := by
    rw [← hsplit, ← List.cons_append, List.getLast?_append]
    simp [List.getLast?_cons]
  have hself : maskFrom name (c :: rest) = c :: (marker ++ maskFrom [] (d :: q)) := by
    simpa using maskFrom_past ho hr []
  refine ⟨?_, fun v hv => ?_⟩
  · rw [hself, hlast, ← h.last, ← List.cons_append, List.getLast?_append, h.last]
    simp [List.getLast?_cons]
  · rw [maskFrom_past ho hr, h.behind v hv, hself, hfold]
    simp

theorem reaches_keep {name : List Char} {c d : Char} {q : List Char}
    (ho : ¬ opensValue name c (d :: q)) (h : Reaches (extendName name c) (d :: q)) :
    Reaches name (c :: d :: q) := by
  refine ⟨?_, fun v hv => ?_⟩
  · rw [maskFrom_cons_neg ho, List.getLast?_cons, h.last, List.getLast?_cons (a := c)]
  · have ho' : ¬ opensValue name c (d :: q ++ v) := ho
    rw [List.cons_append, maskFrom_cons_neg ho', h.behind v hv, maskFrom_cons_neg ho]
    rfl

theorem maskFrom_reach (name a : List Char) : Swallows name a ∨ Reaches name a := by
  fun_induction maskFrom name a with
  | case1 name => exact .inr ⟨by simp, fun v _ => by simp⟩
  | case2 name c rest ho ih =>
    cases hr : rest.dropWhile (!isBlank ·) with
    | nil =>
      have hrest : ∀ d ∈ rest, !isBlank d := List.dropWhile_eq_nil_iff.1 hr
      exact .inl (swallows_open ho (by simpa using hrest))
    | cons d q =>
      rw [hr] at ih
      rcases ih with ih | ih
      · refine .inl fun v w hv hw => ?_
        rw [maskFrom_past ho hr, maskFrom_past ho hr, ih v w hv hw]
      · exact .inr (reaches_past ho hr ih)
  | case3 name c rest ho ih =>
    cases rest with
    | nil =>
      -- A character at the end of `a` may be the equals sign that opens whatever follows.
      by_cases hc : c = '=' ∧ isSecretName name
      · have hmask : ∀ u, IsValue u → maskFrom name ([c] ++ u) = c :: marker := fun u hu =>
          have hopen : opensValue name c ([] ++ u) := (opensValue_value hu name c).2 hc
          maskFrom_open hopen (by simp) hu
        exact .inl fun v w hv hw => by rw [hmask v hv, hmask w hw]
      · have hself : maskFrom name [c] = [c] := by rw [maskFrom_cons_neg ho, maskFrom_nil_right]
        refine .inr ⟨by rw [hself], fun v hv => ?_⟩
        have hv' : ¬ opensValue name c v := fun h => hc ((opensValue_value hv name c).1 h)
        rw [hself, List.singleton_append, maskFrom_cons_neg hv']
        rfl
    | cons d q =>
      rcases ih with ih | ih
      · refine .inl fun v w hv hw => ?_
        have hkeep : ∀ u, maskFrom name (c :: d :: q ++ u) =
            c :: maskFrom (extendName name c) (d :: q ++ u) := fun u => maskFrom_cons_neg ho
        rw [hkeep, hkeep, ih v w hv hw]
      · exact .inr (reaches_keep ho ih)

/-! ### The two kinds of steps -/

theorem isValue_append_cons {name : List Char} {c : Char} {v : List Char}
    (hn : ∀ d ∈ name, isNameChar d) (hc : ¬ isBlank c) (hv : IsValue v) :
    IsValue (name ++ c :: v) := by
  refine ⟨by simp, fun d hd => ?_⟩
  rcases List.mem_append.1 hd with hd | hd
  · exact not_isBlank_of_isNameChar (hn d hd)
  · rcases List.mem_cons.1 hd with rfl | hd
    · exact hc
    · exact hv.not_blank d hd

/-- A secret that is reached is masked. -/
theorem maskFrom_assignment {name v b : List Char} (h : Assignment name v b) (before : List Char) :
    maskFrom before (name ++ '=' :: v) = name ++ '=' :: marker := by
  have hs : isSecretName (before ++ name) :=
    isSecretName_of_infix h.secret (List.suffix_append before name).isInfix
  have hopen : opensValue (before ++ name) '=' ([] ++ v) :=
    (opensValue_value h.value _ _).2 ⟨rfl, hs⟩
  rw [maskFrom_append_name h.name_chars, ← List.nil_append v, maskFrom_open hopen (by simp) h.value]

theorem maskValues_value_congr {name v w b : List Char} (hv : Assignment name v b)
    (hw : Assignment name w b) (a : List Char) :
    maskValues (a ++ name ++ '=' :: (v ++ b)) = maskValues (a ++ name ++ '=' :: (w ++ b)) := by
  have hcut : ∀ u, maskValues (a ++ name ++ '=' :: (u ++ b)) =
      maskFrom [] (a ++ (name ++ '=' :: u)) ++ maskFrom [] b := fun u => by
    rw [← maskFrom_append [] _ hv.after, maskFrom_nil]
    simp
  have hvalue := fun {u} (hu : Assignment name u b) =>
    isValue_append_cons hu.name_chars not_isBlank_equals hu.value
  rw [hcut, hcut]
  rcases maskFrom_reach [] a with h | h
  · rw [h _ _ (hvalue hv) (hvalue hw)]
  · rw [h.behind _ (hvalue hv), h.behind _ (hvalue hw), maskFrom_assignment hv,
      maskFrom_assignment hw]

/-- Names that no further character can tell apart lead to the same output. -/
theorem maskFrom_name_congr {m n : List Char}
    (h : ∀ more, isSecretName (m ++ more) = isSecretName (n ++ more)) (cs : List Char) :
    maskFrom m cs = maskFrom n cs := by
  induction cs generalizing m n with
  | nil => simp
  | cons c rest ih =>
    have ho : opensValue m c rest = opensValue n c rest := by
      have := h []
      rw [List.append_nil, List.append_nil] at this
      rw [opensValue, opensValue, this]
    by_cases hm : opensValue m c rest
    · rw [maskFrom_cons_pos hm, maskFrom_cons_pos (by rwa [← ho])]
    · rw [maskFrom_cons_neg hm, maskFrom_cons_neg (by rwa [← ho])]
      by_cases hc : isNameChar c
      · rw [extendName_pos hc, extendName_pos hc,
          ih (n := n ++ [c]) fun more => by simpa using h (c :: more)]
      · rw [extendName_neg hc, extendName_neg hc]

/-- A digest is kept and leaves no trace in the name that it starts. -/
theorem maskFrom_hex {digits : List Char} (h : ∀ c ∈ digits, isHexDigit c) (cs : List Char) :
    maskFrom [] (digits ++ cs) = digits ++ maskFrom [] cs := by
  rw [maskFrom_append_name fun c hc => isNameChar_of_isHexDigit (h c hc),
    maskFrom_name_congr (n := []) fun more => by simpa using isSecretName_append_hex h more]

theorem IsDigest.isValue_append {h v : List Char} (hd : IsDigest h) (hv : ∀ c ∈ v, ¬ isBlank c) :
    IsValue (h ++ v) := by
  refine ⟨by simp [hd.ne_nil], fun c hc => ?_⟩
  rcases List.mem_append.1 hc with hc | hc
  · exact not_isBlank_of_isNameChar (isNameChar_of_isHexDigit (hd.digits c hc))
  · exact hv c hc

theorem maskDigests_digest_congr {a g h b : List Char} (ha : ∀ c ∈ a.getLast?, ¬ isNameChar c)
    (hg : IsDigest g) (hh : IsDigest h) (hb : ∀ c ∈ b.head?, ¬ isHexDigit c) :
    maskDigests (maskValues (a ++ (g ++ b))) = maskDigests (maskValues (a ++ (h ++ b))) := by
  have hword : ∀ c ∈ b.takeWhile (!isBlank ·), ¬ isBlank c :=
    fun c hc => by simpa using List.mem_takeWhile_imp hc
  have hsplit : b.takeWhile (!isBlank ·) ++ b.dropWhile (!isBlank ·) = b :=
    List.takeWhile_append_dropWhile
  have hcut : ∀ d, maskValues (a ++ (d ++ b)) =
      maskFrom [] (a ++ (d ++ b.takeWhile (!isBlank ·))) ++
        maskFrom [] (b.dropWhile (!isBlank ·)) := fun d => by
    rw [← maskFrom_append [] _ (head?_dropWhile_blank b), ← maskFrom_nil]
    simp only [List.append_assoc, hsplit]
  rcases maskFrom_reach [] a with hr | hr
  · rw [hcut, hcut, hr _ _ (hg.isValue_append hword) (hh.isValue_append hword)]
  · have hkeep : ∀ d, IsDigest d →
        maskDigests (maskValues (a ++ (d ++ b))) =
          maskDigests (maskFrom [] a) ++ (marker ++ maskDigests (maskFrom [] b)) := fun d hd => by
      have hd' : LoneDigest (maskFrom [] a) d (maskFrom [] b) := by
        refine ⟨hd, fun c hc => ?_, fun c hc => ?_⟩
        · rw [hr.last] at hc
          exact not_isHexDigit_of_not_isNameChar (ha c hc)
        · rw [head?_maskFrom] at hc
          exact hb c hc
      rw [← maskDigests_loneDigest hd', hcut, hr.behind _ (hd.isValue_append hword),
        foldl_extendName_gap ha, maskFrom_hex hd.digits, List.append_assoc, List.append_assoc,
        ← maskFrom_append [] _ (head?_dropWhile_blank b), hsplit]
    rw [hkeep g hg, hkeep h hh]

theorem SecretStep.redact_eq {x y : List Char} (h : SecretStep x y) :
    maskDigests (maskValues x) = maskDigests (maskValues y) := by
  cases h with
  | value hv hw => rw [maskValues_value_congr hv hw]
  | digest ha hg hh hb => exact maskDigests_digest_congr ha hg hh hb

theorem redact_eq_of_secretEquiv {s t : String} (h : SecretEquiv s t) : redact s = redact t := by
  have hchars : ∀ {x y}, Relation.ReflTransGen SecretStep x y →
      maskDigests (maskValues x) = maskDigests (maskValues y) := by
    intro x y hxy
    induction hxy with
    | refl => rfl
    | tail _ hstep ih => rw [ih, hstep.redact_eq]
  rw [redact, redact, hchars h]

end FleetDesk.Text
