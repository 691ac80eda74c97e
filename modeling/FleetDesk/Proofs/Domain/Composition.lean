import FleetDesk.Proofs.Domain.Marks
import FleetDesk.Proofs.Domain.Parts

/-!
# The composed normal form

What `compose` puts together comes apart into what it was given, but for the order of marks that do
not stand in each other's way (`alike_spread_compose`). So a text in normal form is its own normal
form (`normalize_normalize`). A full stop joins nothing, and the texts at its sides have normal
forms of their own (`normalize_append_stop`).
-/

namespace FleetDesk.Domain

/-! ### Taking apart -/

/-- The letters and marks that a text is put together from. -/
def spread (cs : List Char) : List Char := cs.flatMap (decomposed maxParts)

theorem normalize_eq (cs : List Char) : normalize cs = compose (sortMarks (spread cs)) := rfl

theorem decomposed_of_parts?_eq_none {c : Char} (h : parts? c = none) (depth : Nat) :
    decomposed depth c = [c] := by
  cases depth <;> simp [decomposed, h]

theorem parts?_of_mem_decomposed {depth : Nat} {c d : Char} (h : EndsWithin depth c)
    (hd : d ∈ decomposed depth c) : parts? d = none := by
  induction depth generalizing c with
  | zero => rwa [List.mem_singleton.1 hd]
  | succ depth ih =>
    rw [decomposed] at hd
    split at hd
    · next hparts => rwa [List.mem_singleton.1 hd]
    · next a b hparts =>
      rcases List.mem_append.1 hd with hd | hd
      · exact ih (h a b hparts) hd
      · exact List.mem_singleton.1 hd ▸ parts?_second hparts

/-- Deeper than its parts lie nothing is taken apart. -/
theorem decomposed_succ {depth : Nat} {c : Char} (h : EndsWithin depth c) :
    decomposed (depth + 1) c = decomposed depth c := by
  induction depth generalizing c with
  | zero => exact decomposed_of_parts?_eq_none h 1
  | succ depth ih =>
    rw [decomposed, decomposed]
    cases hparts : parts? c with
    | none => rfl
    | some p => simp only [ih (h p.1 p.2 hparts)]

theorem decomposed_of_parts? {a b c : Char} (h : parts? c = some (a, b)) :
    decomposed maxParts c = decomposed maxParts a ++ [b] := by
  have hfirst : EndsWithin 3 a := endsWithin_maxParts c a b h
  rw [maxParts, decomposed, h, decomposed_succ hfirst]

theorem mem_decomposed {depth : Nat} {c d : Char} (h : d ∈ decomposed depth c) :
    d = c ∨ isLabelChar d := by
  induction depth generalizing c with
  | zero => exact .inl (List.mem_singleton.1 h)
  | succ depth ih =>
    rw [decomposed] at h
    split at h
    · exact .inl (List.mem_singleton.1 h)
    · next a b hparts =>
      obtain ⟨ha, hb⟩ := isLabelChar_of_parts? hparts
      rcases List.mem_append.1 h with h | h
      · exact .inr ((ih h).elim (fun heq => heq ▸ ha) id)
      · exact .inr (List.mem_singleton.1 h ▸ hb)

theorem parts?_of_mem_spread {cs : List Char} {d : Char} (h : d ∈ spread cs) : parts? d = none := by
  obtain ⟨c, -, hd⟩ := List.mem_flatMap.1 h
  exact parts?_of_mem_decomposed (endsWithin_maxParts c) hd

theorem spread_of_simple {cs : List Char} (h : ∀ c ∈ cs, parts? c = none) : spread cs = cs := by
  rw [spread, List.flatMap_congr fun c hc => decomposed_of_parts?_eq_none (h c hc) maxParts]
  exact List.flatMap_singleton' cs

theorem spread_append (u v : List Char) : spread (u ++ v) = spread u ++ spread v :=
  List.flatMap_append

/-! ### Putting together -/

/-- A mark may come to those that did not join, or a letter. -/
def Joining.Admits (j : Joining) (c : Char) : Prop :=
  markClass c = 0 ∨ ∀ m ∈ j.marks, markClass m ≤ markClass c

/-- What did not join is marks in order. -/
structure Joining.Tidy (j : Joining) : Prop where
  simple : ∀ m ∈ j.marks, parts? m = none
  marks : ∀ m ∈ j.marks, markClass m ≠ 0
  order : j.marks.Pairwise fun a b => markClass b ≤ markClass a

/-- A mark changes places with marks of lower classes. -/
theorem alike_append_singleton {c : Char} {marks : List Char}
    (h : ∀ m ∈ marks, markClass m ≠ 0 ∧ markClass m < markClass c) :
    Alike (c :: marks) (marks ++ [c]) := by
  intro k
  by_cases hc : isOfClass k c
  · have hnone : marks.filter (isOfClass k) = [] := by
      refine List.filter_eq_nil_iff.2 fun m hm => ?_
      have hclass := h m hm
      simp only [isOfClass, Bool.or_eq_true, decide_eq_true_eq] at hc ⊢
      omega
    rw [List.filter_cons_of_pos hc, List.filter_append, hnone, List.filter_cons_of_pos hc]
    rfl
  · rw [List.filter_cons_of_neg hc, List.filter_append, List.filter_cons_of_neg hc]
    simp

namespace Joining

variable {j : Joining} {c : Char}

/-- What joins a letter is of a higher class than the marks between. -/
theorem Tidy.lt_of_reaches (h : j.Tidy) (hreaches : j.reaches c) :
    ∀ m ∈ j.marks, markClass m < markClass c := by
  have horder := h.order
  rw [reaches] at hreaches
  split at hreaches
  · next heq => simp [heq]
  · next m marks heq =>
    rw [heq] at horder ⊢
    rw [decide_eq_true_eq] at hreaches
    refine List.forall_mem_cons.2 ⟨hreaches, fun n hn => ?_⟩
    exact Nat.lt_of_le_of_lt ((List.pairwise_cons.1 horder).1 n hn) hreaches

theorem add_eq (j : Joining) (c : Char) :
    (∃ l x, j.letter = some l ∧ composed? l c = some x ∧ j.reaches c ∧
        j.add c = { j with letter := some x }) ∨
      (markClass c = 0 ∧ j.add c = { settled := j.text, letter := some c }) ∨
      (markClass c ≠ 0 ∧ j.add c = { j with marks := c :: j.marks }) := by
  rw [add]
  split
  · next x hjoined =>
    split at hjoined
    · next hreaches =>
      obtain ⟨l, hletter, hx⟩ := Option.bind_eq_some_iff.1 hjoined
      exact .inl ⟨l, x, hletter, hx, hreaches, rfl⟩
    · cases hjoined
  · split
    · next hc => exact .inr (.inl ⟨hc, rfl⟩)
    · next hc => exact .inr (.inr ⟨hc, rfl⟩)

theorem Tidy.add (h : j.Tidy) (hc : parts? c = none) (hadmits : j.Admits c) :
    (j.add c).Tidy ∧ ∀ d, MayFollow c d → (j.add c).Admits d := by
  obtain ⟨l, x, hletter, hx, hreaches, heq⟩ | ⟨hclass, heq⟩ | ⟨hclass, heq⟩ := j.add_eq c <;>
    rw [heq]
  · refine ⟨⟨h.simple, h.marks, h.order⟩, fun d hd => hd.imp_right fun hle m hm => ?_⟩
    exact Nat.le_trans (Nat.le_of_lt (h.lt_of_reaches hreaches m hm)) hle
  · exact ⟨⟨by simp, by simp, .nil⟩, fun d hd => .inr (by simp)⟩
  · have hle := hadmits.resolve_left hclass
    refine ⟨⟨List.forall_mem_cons.2 ⟨hc, h.simple⟩, List.forall_mem_cons.2 ⟨hclass, h.marks⟩,
      List.pairwise_cons.2 ⟨hle, h.order⟩⟩, fun d hd => hd.imp_right fun hcd => ?_⟩
    exact List.forall_mem_cons.2 ⟨hcd, fun m hm => Nat.le_trans (hle m hm) hcd⟩

theorem Tidy.alike_add (h : j.Tidy) (hc : parts? c = none) :
    Alike (spread (j.add c).text.reverse) (spread j.text.reverse ++ [c]) := by
  have hsimple : spread [c] = [c] := spread_of_simple (by simpa using hc)
  obtain ⟨l, x, hletter, hx, hreaches, heq⟩ | ⟨hclass, heq⟩ | ⟨hclass, heq⟩ := j.add_eq c <;>
    rw [heq]
  · have hmarks : spread j.marks.reverse = j.marks.reverse :=
      spread_of_simple fun m hm => h.simple m (List.mem_reverse.1 hm)
    have hjoined : spread [x] = spread [l] ++ [c] := by
      simpa [spread] using decomposed_of_parts? (parts?_of_composed? hx).1
    have hpast : Alike (c :: j.marks.reverse) (j.marks.reverse ++ [c]) :=
      alike_append_singleton fun m hm =>
        ⟨h.marks m (List.mem_reverse.1 hm), h.lt_of_reaches hreaches m (List.mem_reverse.1 hm)⟩
    have htext (y : Char) : spread (text { j with letter := some y }).reverse =
        spread j.settled.reverse ++ (spread [y] ++ j.marks.reverse) := by
      rw [text, Option.toList_some, List.reverse_append, List.reverse_append,
        List.reverse_singleton, spread_append, spread_append, hmarks]
    have hold : j.text = text { j with letter := some l } := by rw [← hletter]
    rw [hold, htext, htext, hjoined, List.append_assoc, List.append_assoc, List.append_assoc]
    exact (Alike.refl _).append ((Alike.refl _).append hpast)
  · have htext : text { settled := j.text, letter := some c } = c :: j.text := rfl
    rw [htext, List.reverse_cons, spread_append, hsimple]
    exact .refl _
  · have htext : text { j with marks := c :: j.marks } = c :: j.text := rfl
    rw [htext, List.reverse_cons, spread_append, hsimple]
    exact .refl _

theorem Tidy.alike_foldl {cs : List Char} (h : j.Tidy) (hsimple : ∀ c ∈ cs, parts? c = none)
    (hordered : Ordered cs) (hadmits : ∀ c ∈ cs.head?, j.Admits c) :
    Alike (spread (cs.foldl Joining.add j).text.reverse) (spread j.text.reverse ++ cs) := by
  induction cs generalizing j with
  | nil => simpa using Alike.refl _
  | cons c cs ih =>
    obtain ⟨hc, hcs⟩ := List.forall_mem_cons.1 hsimple
    obtain ⟨htidy, hnext⟩ := h.add hc (hadmits c rfl)
    have hrest := ih htidy hcs hordered.tail fun d hd => hnext d (hordered.rel_head? hd)
    have hone := (h.alike_add hc).append (Alike.refl cs)
    rw [List.append_assoc] at hone
    exact hrest.trans hone

end Joining

theorem alike_spread_compose {cs : List Char} (hsimple : ∀ c ∈ cs, parts? c = none)
    (hordered : Ordered cs) : Alike (spread (compose cs)) cs := by
  have hstart : Joining.Tidy {} := ⟨by simp, by simp, .nil⟩
  exact hstart.alike_foldl hsimple hordered fun c _ => .inr (by simp)

/-! ### The normal form -/

theorem normalize_normalize (cs : List Char) : normalize (normalize cs) = normalize cs := by
  have hordered := ordered_sortMarks (spread cs)
  have hsimple : ∀ c ∈ sortMarks (spread cs), parts? c = none := fun c hc =>
    parts?_of_mem_spread ((alike_sortMarks (spread cs)).mem_iff.1 hc)
  rw [normalize_eq (normalize cs), normalize_eq cs,
    (alike_spread_compose hsimple hordered).sortMarks_eq, sortMarks_of_ordered hordered]

theorem Joining.mem_text_add {j : Joining} {c d : Char} (h : c ∈ (j.add d).text) :
    c ∈ j.text ∨ c = d ∨ isLabelChar c := by
  obtain ⟨l, x, hletter, hx, -, heq⟩ | ⟨-, heq⟩ | ⟨-, heq⟩ := j.add_eq d <;>
    rw [heq] at h
  · simp only [text, Option.toList_some, List.mem_append, List.mem_singleton] at h ⊢
    rcases h with (h | rfl) | h
    · exact .inl (.inl (.inl h))
    · exact .inr (.inr (parts?_of_composed? hx).2)
    · exact .inl (.inr h)
  · exact (List.mem_cons.1 h).elim (.inr ∘ .inl) .inl
  · exact (List.mem_cons.1 h).elim (.inr ∘ .inl) .inl

theorem Joining.mem_text_foldl {cs : List Char} {j : Joining} {c : Char}
    (h : c ∈ (cs.foldl add j).text) : c ∈ j.text ∨ c ∈ cs ∨ isLabelChar c := by
  induction cs generalizing j with
  | nil => exact .inl h
  | cons d cs ih =>
    rcases ih h with hmem | hmem | hlabel
    · exact (mem_text_add hmem).imp_right
        (Or.imp_left fun heq : c = d => heq ▸ List.mem_cons_self)
    · exact .inr (.inl (List.mem_cons_of_mem d hmem))
    · exact .inr (.inr hlabel)

/-- What a text holds in normal form it held, or is a character of a label. -/
theorem mem_normalize {cs : List Char} {c : Char} (h : c ∈ normalize cs) :
    c ∈ cs ∨ isLabelChar c := by
  rw [normalize_eq, compose, List.mem_reverse] at h
  rcases Joining.mem_text_foldl h with h | h | h
  · cases h
  · rw [(alike_sortMarks (spread cs)).mem_iff] at h
    obtain ⟨b, hb, hc⟩ := List.mem_flatMap.1 h
    exact (mem_decomposed hc).imp_left fun heq : c = b => heq ▸ hb
  · exact .inr h

/-! ### Texts that nothing joins -/

theorem ordered_of_letters {cs : List Char} (h : ∀ c ∈ cs, markClass c = 0) : Ordered cs :=
  (List.pairwise_of_forall_mem_list fun _ _ c hc => .inl (h c hc)).isChain

theorem markClass_of_lt {c : Char} (h : c.toNat < 0x300) : markClass c = 0 := by
  rw [markClass, if_pos h]

namespace Joining

/-- A letter of the first alphabets joins nothing. -/
theorem add_of_lt (j : Joining) {c : Char} (h : c.toNat < 0x300) :
    j.add c = { settled := j.text, letter := some c } := by
  have hjoined (l : Char) : composed? l c = none := by rw [composed?, if_pos h]
  simp [add, hjoined, markClass_of_lt h]

theorem text_foldl_of_lt {cs : List Char} (h : ∀ c ∈ cs, c.toNat < 0x300) (j : Joining) :
    (cs.foldl add j).text = cs.reverse ++ j.text := by
  induction cs generalizing j with
  | nil => rfl
  | cons c cs ih =>
    obtain ⟨hc, hcs⟩ := List.forall_mem_cons.1 h
    rw [List.foldl_cons, ih hcs, j.add_of_lt hc]
    simp [text]

/-- The first text stands where the second does behind a full stop. -/
def Behind (done : List Char) (j k : Joining) : Prop :=
  j.marks = k.marks ∧
    (j.letter = some '.' ∧ j.settled = done ∧ k.letter = none ∧ k.settled = [] ∨
      j.letter = k.letter ∧ j.settled = k.settled ++ '.' :: done)

variable {done : List Char} {j k : Joining}

theorem Behind.text_eq (h : j.Behind done k) : j.text = k.text ++ '.' :: done := by
  obtain ⟨hmarks, ⟨hletter, hsettled, hletter', hsettled'⟩ | ⟨hletter, hsettled⟩⟩ := h
  · simp [text, hmarks, hletter, hsettled, hletter', hsettled']
  · simp [text, hmarks, hletter, hsettled]

theorem Behind.add (h : j.Behind done k) (c : Char) : (j.add c).Behind done (k.add c) := by
  have htext := h.text_eq
  obtain ⟨hmarks, hletters⟩ := h
  have hreaches : j.reaches c = k.reaches c := by rw [reaches, reaches, hmarks]
  rcases hletters with ⟨hletter, hsettled, hletter', hsettled'⟩ | ⟨hletter, hsettled⟩
  · simp only [Joining.add, hletter, hletter', Option.bind_some, Option.bind_none, composed?_stop,
      ite_self]
    split
    · exact ⟨rfl, .inr ⟨rfl, htext⟩⟩
    · exact ⟨congrArg (c :: ·) hmarks, .inl ⟨rfl, hsettled, rfl, hsettled'⟩⟩
  · simp only [Joining.add, hletter, hreaches]
    split
    · exact ⟨hmarks, .inr ⟨rfl, hsettled⟩⟩
    · split
      · exact ⟨rfl, .inr ⟨rfl, htext⟩⟩
      · exact ⟨congrArg (c :: ·) hmarks, .inr ⟨rfl, hsettled⟩⟩

theorem Behind.foldl (h : j.Behind done k) (cs : List Char) :
    (cs.foldl Joining.add j).Behind done (cs.foldl Joining.add k) := by
  induction cs generalizing j k with
  | nil => exact h
  | cons c cs ih => exact ih (h.add c)

end Joining

theorem compose_append_stop (u v : List Char) :
    compose (u ++ '.' :: v) = compose u ++ '.' :: compose v := by
  have hstart : Joining.Behind (u.foldl Joining.add {}).text
      ((u.foldl Joining.add {}).add '.') {} := by
    rw [Joining.add_of_lt _ (by decide)]
    exact ⟨rfl, .inl ⟨rfl, rfl, rfl, rfl⟩⟩
  rw [compose, List.foldl_append, List.foldl_cons, (hstart.foldl v).text_eq]
  simp [compose]

theorem sortMarks_append_stop (u v : List Char) :
    sortMarks (u ++ '.' :: v) = sortMarks u ++ '.' :: sortMarks v := by
  have halike : Alike (sortMarks u ++ '.' :: sortMarks v) (u ++ '.' :: v) :=
    (alike_sortMarks u).append ((Alike.refl ['.']).append (alike_sortMarks v))
  have hordered : Ordered (sortMarks u ++ '.' :: sortMarks v) := by
    have hstop : markClass '.' = 0 := by decide
    refine List.isChain_append.2 ⟨ordered_sortMarks u, ?_, ?_⟩
    · refine List.isChain_cons.2 ⟨fun c _ => .inr ?_, ordered_sortMarks v⟩
      rw [hstop]
      exact Nat.zero_le _
    · intro a _ b hb
      cases hb
      exact .inl hstop
  rw [← halike.sortMarks_eq, sortMarks_of_ordered hordered]

theorem normalize_append_stop (u v : List Char) :
    normalize (u ++ '.' :: v) = normalize u ++ '.' :: normalize v := by
  have hstop : spread ('.' :: v) = '.' :: spread v := rfl
  rw [normalize_eq, spread_append, hstop, sortMarks_append_stop, compose_append_stop]
  rfl

theorem normalize_of_ascii {cs : List Char} (h : ∀ c ∈ cs, c.toNat < 0x80) :
    normalize cs = cs := by
  have hspread : spread cs = cs := spread_of_simple fun c hc => by
    rw [parts?, if_pos (Nat.lt_trans (h c hc) (by decide))]
  have hlow : ∀ c ∈ cs, c.toNat < 0x300 := fun c hc => Nat.lt_trans (h c hc) (by decide)
  have hordered : Ordered cs := ordered_of_letters fun c hc => markClass_of_lt (hlow c hc)
  rw [normalize_eq, hspread, sortMarks_of_ordered hordered, compose,
    Joining.text_foldl_of_lt hlow]
  simp [Joining.text]

end FleetDesk.Domain
