import Mathlib.Data.List.SplitBy
import Mathlib.Data.List.TakeWhile

/-!
# Runs of characters

`runs key` cuts a text into maximal runs on which `key` is constant. `run_induction` reads a text as
a run of characters that satisfy `p`, then perhaps another character and a text. `mapRuns p f`
rewrites every run by `f`; if `f` leaves alone what holds no `p`, the text may be cut at every
character that is no `p` (`mapRuns_append_cons`). The last lemmas tell where a character stands that
occurs in two ways of cutting one text.
-/

namespace FleetDesk.Text

def runs (key : Char → Bool) (cs : List Char) : List (List Char) :=
  cs.splitBy fun a b => key a == key b

theorem runs_append {key : Char → Bool} {p q : List Char}
    (h : ∀ x ∈ p.getLast?, ∀ y ∈ q.head?, key x ≠ key y) :
    runs key (p ++ q) = runs key p ++ runs key q :=
  List.splitBy_append (by simpa using h)

theorem runs_of_const {key : Char → Bool} {b : Bool} {run : List Char} (hn : run ≠ [])
    (h : ∀ c ∈ run, key c = b) : runs key run = [run] := by
  refine List.splitBy_of_isChain hn (List.Pairwise.isChain (List.pairwise_of_forall_mem_list ?_))
  intro x hx y hy
  simp [h x hx, h y hy]

theorem head?_dropWhile_neg (p : Char → Bool) (cs : List Char) :
    ∀ c ∈ (cs.dropWhile p).head?, ¬ p c := by
  intro c hc
  have := cs.head?_dropWhile_not p
  rw [hc] at this
  simpa using this

theorem forall_cons_takeWhile {p : Char → Bool} {c : Char} (hc : p c) (cs : List Char) :
    ∀ d ∈ c :: cs.takeWhile p, p d := by
  intro d hd
  rcases List.mem_cons.1 hd with rfl | hd
  · exact hc
  · exact List.mem_takeWhile_imp hd

theorem forall_cons_takeWhile_not {p : Char → Bool} {c : Char} (hc : ¬ p c) (cs : List Char) :
    ∀ d ∈ c :: cs.takeWhile (!p ·), ¬ p d := fun d hd => by
  simpa using forall_cons_takeWhile (p := (!p ·)) (by simpa using hc) cs d hd

theorem cons_takeWhile_append (p : Char → Bool) (c : Char) (cs : List Char) :
    (c :: cs.takeWhile p) ++ cs.dropWhile p = c :: cs := by
  rw [List.cons_append, List.takeWhile_append_dropWhile]

/-- A run is read up to the first character that does not belong to it. -/
theorem takeWhile_run {p : Char → Bool} {run rest : List Char} (h : ∀ c ∈ run, p c)
    (hrest : ∀ c ∈ rest.head?, ¬ p c) :
    (run ++ rest).takeWhile p = run ∧ (run ++ rest).dropWhile p = rest := by
  rw [List.takeWhile_append_of_pos h, List.dropWhile_append_of_pos h]
  cases rest with
  | nil => simp
  | cons c rest =>
    have hc := hrest c rfl
    rw [List.takeWhile_cons_of_neg hc, List.dropWhile_cons_of_neg hc, List.append_nil]
    exact ⟨rfl, rfl⟩

theorem run_induction {p : Char → Bool} {motive : List Char → Prop}
    (run : ∀ h, (∀ c ∈ h, p c) → motive h)
    (cut : ∀ h c cs, (∀ c ∈ h, p c) → ¬ p c → motive cs → motive (h ++ c :: cs))
    (cs : List Char) : motive cs := by
  have hrun : ∀ c ∈ cs.takeWhile p, p c := fun c hc => List.mem_takeWhile_imp hc
  match hd : cs.dropWhile p with
  | [] =>
    have := run _ hrun
    rwa [← List.append_nil (cs.takeWhile p), ← hd, List.takeWhile_append_dropWhile] at this
  | c :: rest =>
    have hc : ¬ p c := head?_dropWhile_neg p cs c (by rw [hd]; rfl)
    have := cut _ c rest hrun hc (run_induction run cut rest)
    rwa [← hd, List.takeWhile_append_dropWhile] at this
termination_by cs.length
decreasing_by
  have := (List.dropWhile_suffix p (l := cs)).length_le
  rw [hd, List.length_cons] at this
  omega

/-! ### Rewriting the runs -/

def mapRuns (p : Char → Bool) (f : List Char → List Char) (cs : List Char) : List Char :=
  (runs p cs).flatMap f

/-- `f` leaves alone what lies between the runs of `p`. -/
def FixesGaps (p : Char → Bool) (f : List Char → List Char) : Prop :=
  ∀ gap, (∀ c ∈ gap, ¬ p c) → f gap = gap

section

variable {p : Char → Bool} {f : List Char → List Char}

theorem mapRuns_append {a b : List Char} (h : ∀ x ∈ a.getLast?, ∀ y ∈ b.head?, p x ≠ p y) :
    mapRuns p f (a ++ b) = mapRuns p f a ++ mapRuns p f b := by
  rw [mapRuns, runs_append h, List.flatMap_append]
  rfl

theorem mapRuns_of_const (hf : FixesGaps p f) {b : Bool} {run : List Char}
    (h : ∀ c ∈ run, p c = b) : mapRuns p f run = f run := by
  by_cases hn : run = []
  · subst hn
    exact (hf [] (by simp)).symm
  · rw [mapRuns, runs_of_const hn h, List.flatMap_singleton]

theorem mapRuns_gap (hf : FixesGaps p f) {gap : List Char} (h : ∀ c ∈ gap, ¬ p c) :
    mapRuns p f gap = gap := by
  rw [mapRuns_of_const hf (b := false) (by simpa using h), hf gap h]

theorem mapRuns_cons (hf : FixesGaps p f) {c : Char} (hc : ¬ p c) (cs : List Char) :
    mapRuns p f (c :: cs) = c :: mapRuns p f cs := by
  have hgap : ∀ d ∈ cs.takeWhile (!p ·), ¬ p d :=
    fun d hd => by simpa using List.mem_takeWhile_imp hd
  have hhead := head?_dropWhile_neg (!p ·) cs
  -- Behind any gap the rest starts a run, so the gap is a run of its own.
  have hcut : ∀ gap : List Char, (∀ d ∈ gap, ¬ p d) →
      mapRuns p f (gap ++ cs.dropWhile (!p ·)) = gap ++ mapRuns p f (cs.dropWhile (!p ·)) := by
    intro gap hg
    rw [mapRuns_append, mapRuns_gap hf hg]
    intro x hx y hy
    have h1 := hg x (List.mem_of_getLast? hx)
    have h2 := hhead y hy
    simp_all
  have h1 := hcut _ (forall_cons_takeWhile_not hc cs)
  have h2 := hcut _ hgap
  rw [cons_takeWhile_append] at h1
  rw [List.takeWhile_append_dropWhile] at h2
  rw [h1, h2]
  rfl

theorem mapRuns_run_cons (hf : FixesGaps p f) {run : List Char} {c : Char}
    (h : ∀ d ∈ run, p d) (hc : ¬ p c) (cs : List Char) :
    mapRuns p f (run ++ c :: cs) = f run ++ c :: mapRuns p f cs := by
  rw [mapRuns_append, mapRuns_of_const hf h, mapRuns_cons hf hc]
  intro x hx y hy
  cases hy
  rw [h x (List.mem_of_getLast? hx)]
  exact fun e => hc e.symm

theorem mapRuns_append_cons (hf : FixesGaps p f) {c : Char} (hc : ¬ p c) (a b : List Char) :
    mapRuns p f (a ++ c :: b) = mapRuns p f a ++ c :: mapRuns p f b := by
  induction a using run_induction (p := p) with
  | run h hh => rw [mapRuns_run_cons hf hh hc, mapRuns_of_const hf hh]
  | cut h d cs hh hd ih =>
    rw [List.append_assoc, List.cons_append, mapRuns_run_cons hf hh hd, ih,
      mapRuns_run_cons hf hh hd]
    simp

end

/-! ### One text cut in two ways -/

/-- Where the first of two marked characters stands in a text that is cut at both. -/
theorem append_cons_cases {a b x y : List Char} {e d : Char} (h : a ++ e :: b = x ++ d :: y) :
    (a = x ∧ e = d ∧ b = y) ∨ (∃ z, x = a ++ e :: z ∧ b = z ++ d :: y) ∨
      ∃ z, a = x ++ d :: z ∧ y = z ++ e :: b := by
  rcases List.append_eq_append_iff.1 h with ⟨z, hx, hz⟩ | ⟨z, ha, hz⟩
  · cases z with
    | nil =>
      cases hz
      exact .inl ⟨by simp [hx], rfl, rfl⟩
    | cons f z =>
      cases hz
      exact .inr (.inl ⟨z, hx, rfl⟩)
  · cases z with
    | nil =>
      cases hz
      exact .inl ⟨by simp [ha], rfl, rfl⟩
    | cons f z =>
      cases hz
      exact .inr (.inr ⟨z, ha, rfl⟩)

/-- A run at the end of a text does not reach over a character that does not belong to it. -/
theorem suffix_of_append_cons {p : Char → Prop} {a run x z : List Char} {d : Char}
    (hrun : ∀ c ∈ run, p c) (hd : ¬ p d) (h : a ++ run = x ++ d :: z) :
    ∃ a', a = x ++ d :: a' ∧ z = a' ++ run := by
  rcases List.append_eq_append_iff.1 h with ⟨w, rfl, hw⟩ | ⟨w, rfl, hw⟩
  · exact absurd (hrun d (by simp [hw])) hd
  · cases w with
    | nil =>
      rw [List.nil_append] at hw
      exact absurd (hrun d (by simp [← hw])) hd
    | cons f w =>
      cases hw
      exact ⟨w, rfl, rfl⟩

end FleetDesk.Text
