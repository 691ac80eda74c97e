import FleetDesk.Proofs.Redaction.Assignments
import FleetDesk.Proofs.Redaction.Digests

/-!
# Redaction as search and replace

A `Pattern` reads characters from the front of a text. It may do so in several ways, and `splits`
lists them with the preferred one first: a repetition prefers to read more, a choice its left side.
`replaceAll` looks for the leftmost place where a lead and a body can be read, keeps the lead,
replaces the body and goes on behind it. Secrets and digests are found by two such searches. A
search for a secret starts wherever a name can start, but behind the first character of a name it
finds nothing that it did not find there (`searchValues_name`).
-/

namespace FleetDesk.Text

inductive Pattern where
  | nothing
  | one (p : Char → Bool)
  | many (p : Char → Bool)
  | seq (a b : Pattern)
  | either (a b : Pattern)

namespace Pattern

/-- The ways to read characters that satisfy `p`, the longest first. -/
def greedy (p : Char → Bool) : List Char → List (List Char × List Char)
  | [] => [([], [])]
  | c :: cs =>
    if p c then (greedy p cs).map (fun s => (c :: s.1, s.2)) ++ [([], c :: cs)]
    else [([], c :: cs)]

/-- What a pattern can read, with what is left, in order of preference. -/
def splits : Pattern → List Char → List (List Char × List Char)
  | nothing, cs => [([], cs)]
  | one _, [] => []
  | one p, c :: cs => if p c then [([c], cs)] else []
  | many p, cs => greedy p cs
  | seq a b, cs => (a.splits cs).flatMap fun s => (b.splits s.2).map fun t => (s.1 ++ t.1, t.2)
  | either a b, cs => a.splits cs ++ b.splits cs

/-- The texts that a pattern reads. -/
def Reads : Pattern → List Char → Prop
  | nothing, x => x = []
  | one p, x => ∃ c, x = [c] ∧ p c
  | many p, x => ∀ c ∈ x, p c
  | seq a b, x => ∃ y z, x = y ++ z ∧ a.Reads y ∧ b.Reads z
  | either a b, x => a.Reads x ∨ b.Reads x

theorem mem_greedy {p : Char → Bool} {cs x rest : List Char} :
    (x, rest) ∈ greedy p cs ↔ (∀ c ∈ x, p c) ∧ x ++ rest = cs := by
  induction cs generalizing x with
  | nil =>
    rw [greedy, List.mem_singleton, Prod.mk.injEq, List.append_eq_nil_iff]
    exact ⟨fun h => ⟨by simp [h.1], h⟩, fun h => h.2⟩
  | cons d cs ih =>
    have hend : (x, rest) ∈ [(([] : List Char), d :: cs)] ↔ x = [] ∧ rest = d :: cs := by simp
    by_cases hd : p d
    · rw [greedy, if_pos hd, List.mem_append, hend, List.mem_map]
      constructor
      · rintro (⟨⟨y, r⟩, hy, heq⟩ | ⟨rfl, rfl⟩)
        · obtain ⟨rfl, rfl⟩ := Prod.mk.inj heq
          obtain ⟨hall, rfl⟩ := ih.1 hy
          exact ⟨by simpa [hd] using hall, rfl⟩
        · exact ⟨by simp, rfl⟩
      · rintro ⟨hall, heq⟩
        cases x with
        | nil => exact .inr ⟨rfl, heq⟩
        | cons c x =>
          obtain ⟨rfl, htail⟩ := List.cons.inj heq
          exact .inl ⟨(x, rest), ih.2 ⟨fun e he => hall e (List.mem_cons_of_mem _ he), htail⟩, rfl⟩
    · rw [greedy, if_neg hd, hend]
      constructor
      · rintro ⟨rfl, rfl⟩
        exact ⟨by simp, rfl⟩
      · rintro ⟨hall, heq⟩
        cases x with
        | nil => exact ⟨rfl, heq⟩
        | cons c x =>
          obtain ⟨rfl, -⟩ := List.cons.inj heq
          exact absurd (hall c List.mem_cons_self) hd

theorem mem_splits {a : Pattern} {cs x rest : List Char} :
    (x, rest) ∈ a.splits cs ↔ a.Reads x ∧ x ++ rest = cs := by
  induction a generalizing cs x rest with
  | nothing =>
    rw [splits, List.mem_singleton, Prod.mk.injEq, Reads]
    exact and_congr_right fun hx => by rw [hx, List.nil_append]
  | one p =>
    cases cs with
    | nil =>
      refine iff_of_false (by simp [splits]) ?_
      rintro ⟨⟨c, rfl, -⟩, h⟩
      cases h
    | cons d cs =>
      by_cases hd : p d
      · simp only [splits, if_pos hd, List.mem_singleton, Prod.mk.injEq, Reads]
        constructor
        · rintro ⟨rfl, rfl⟩
          exact ⟨⟨d, rfl, hd⟩, rfl⟩
        · rintro ⟨⟨c, rfl, -⟩, h⟩
          cases h
          exact ⟨rfl, rfl⟩
      · refine iff_of_false (by simp [splits, hd]) ?_
        rintro ⟨⟨c, rfl, hc⟩, h⟩
        cases h
        exact hd hc
  | many p => exact mem_greedy
  | seq a b iha ihb =>
    rw [splits, List.mem_flatMap, Reads]
    constructor
    · rintro ⟨⟨y, r⟩, hy, hmem⟩
      obtain ⟨⟨z, after⟩, hz, heq⟩ := List.mem_map.1 hmem
      obtain ⟨rfl, rfl⟩ := Prod.mk.inj heq
      obtain ⟨hreadsY, rfl⟩ := iha.1 hy
      obtain ⟨hreadsZ, hr⟩ := ihb.1 hz
      exact ⟨⟨y, z, rfl, hreadsY, hreadsZ⟩, by rw [List.append_assoc, hr]⟩
    · rintro ⟨⟨y, z, rfl, hy, hz⟩, rfl⟩
      exact ⟨(y, z ++ rest), iha.2 ⟨hy, by simp⟩,
        List.mem_map.2 ⟨(z, rest), ihb.2 ⟨hz, rfl⟩, rfl⟩⟩
  | either a b iha ihb => rw [splits, List.mem_append, iha, ihb, Reads, or_and_right]

theorem head?_greedy (p : Char → Bool) (cs : List Char) :
    (greedy p cs).head? = some (cs.takeWhile p, cs.dropWhile p) := by
  induction cs with
  | nil => rfl
  | cons c cs ih =>
    by_cases hc : p c
    · rw [greedy, if_pos hc, List.head?_append, List.head?_map, ih, List.takeWhile_cons_of_pos hc,
        List.dropWhile_cons_of_pos hc]
      rfl
    · rw [greedy, if_neg hc, List.takeWhile_cons_of_neg hc, List.dropWhile_cons_of_neg hc]
      rfl

/-- At least one character that satisfies `p`. -/
def oneOrMore (p : Char → Bool) : Pattern := seq (one p) (many p)

theorem head?_oneOrMore {p : Char → Bool} {cs : List Char} (h : ∃ c ∈ cs.head?, p c) :
    ((oneOrMore p).splits cs).head? = some (cs.takeWhile p, cs.dropWhile p) := by
  obtain ⟨c, hhead, hc⟩ := h
  obtain ⟨rest, rfl⟩ := List.head?_eq_some_iff.1 hhead
  simp only [oneOrMore, splits, if_pos hc, List.flatMap_singleton, List.head?_map, head?_greedy,
    List.takeWhile_cons_of_pos hc, List.dropWhile_cons_of_pos hc]
  rfl

theorem splits_oneOrMore_neg {p : Char → Bool} {cs : List Char} (h : ∀ c ∈ cs.head?, ¬ p c) :
    (oneOrMore p).splits cs = [] := by
  cases cs with
  | nil => rfl
  | cons c cs => simp [oneOrMore, splits, h c rfl]

/-- The letters of `w`, in any case. -/
def word (w : List Char) : Pattern :=
  w.foldr (fun l p => seq (one fun c => foldName c == l) p) nothing

theorem reads_word {w x : List Char} : (word w).Reads x ↔ x.map foldName = w := by
  induction w generalizing x with
  | nil => simp [word, Reads]
  | cons l w ih =>
    show (∃ y z, x = y ++ z ∧ (∃ c, y = [c] ∧ foldName c == l) ∧ (word w).Reads z) ↔ _
    constructor
    · rintro ⟨_, z, rfl, ⟨c, rfl, hc⟩, hz⟩
      rw [List.singleton_append, List.map_cons, eq_of_beq hc, ih.1 hz]
    · intro h
      obtain ⟨c, z, rfl, hc, hz⟩ := List.map_eq_cons_iff.1 h
      exact ⟨[c], z, rfl, ⟨c, rfl, beq_iff_eq.2 hc⟩, ih.2 hz⟩

end Pattern

/-! ### Search and replace -/

/-- A lead, a body behind it, and the text behind both. -/
structure Hit where
  lead : List Char
  body : List Char
  after : List Char

/-- The preferred way to read `lead` and `body` from the front of a text. -/
def hit? (lead body : Pattern) (cs : List Char) : Option Hit :=
  ((lead.splits cs).flatMap fun s => (body.splits s.2).map fun t => ⟨s.1, t.1, t.2⟩).head?

/-- Rewrites every body by `f`. A hit that reads nothing is passed over. -/
def replaceAll (lead body : Pattern) (f : List Char → List Char) (cs : List Char) : List Char :=
  match cs with
  | [] => []
  | c :: rest =>
    match hit? lead body (c :: rest) with
    | some hit =>
      if hit.after.length ≤ rest.length then
        hit.lead ++ (f hit.body ++ replaceAll lead body f hit.after)
      else c :: replaceAll lead body f rest
    | none => c :: replaceAll lead body f rest
termination_by cs.length

section

variable {lead body : Pattern} {f : List Char → List Char}

theorem hit?_eq_none {cs : List Char}
    (h : ∀ x rest, lead.Reads x → x ++ rest = cs → body.splits rest = []) :
    hit? lead body cs = none := by
  rw [hit?, List.head?_eq_none_iff, List.flatMap_eq_nil_iff]
  rintro ⟨x, rest⟩ hx
  obtain ⟨hreads, hcs⟩ := Pattern.mem_splits.1 hx
  rw [h x rest hreads hcs, List.map_nil]

/-- A lead that can be read in one way only is followed by the body's preferred way. -/
theorem hit?_of_unique {x rest y after : List Char} (hx : lead.Reads x)
    (huniq : ∀ x' rest', lead.Reads x' → x' ++ rest' = x ++ rest → x' = x)
    (hbody : (body.splits rest).head? = some (y, after)) :
    hit? lead body (x ++ rest) = some ⟨x, y, after⟩ := by
  have hmem : (x, rest) ∈ lead.splits (x ++ rest) := Pattern.mem_splits.2 ⟨hx, rfl⟩
  have hall : ∀ s ∈ lead.splits (x ++ rest), s = (x, rest) := by
    rintro ⟨x', rest'⟩ hs
    obtain ⟨hreads, heq⟩ := Pattern.mem_splits.1 hs
    obtain rfl := huniq x' rest' hreads heq
    rw [List.append_cancel_left heq]
  cases hs : lead.splits (x ++ rest) with
  | nil => rw [hs] at hmem; cases hmem
  | cons s ss =>
    obtain rfl := hall s (by rw [hs]; exact List.mem_cons_self)
    rw [hit?, hs, List.flatMap_cons, List.head?_append, List.head?_map, hbody]
    rfl

theorem replaceAll_nil : replaceAll lead body f [] = [] := by
  rw [replaceAll]

theorem replaceAll_cons {c : Char} {rest : List Char} (h : hit? lead body (c :: rest) = none) :
    replaceAll lead body f (c :: rest) = c :: replaceAll lead body f rest := by
  rw [replaceAll, h]

theorem replaceAll_hit {cs x y after : List Char} (h : hit? lead body cs = some ⟨x, y, after⟩)
    (hlt : after.length < cs.length) :
    replaceAll lead body f cs = x ++ (f y ++ replaceAll lead body f after) := by
  cases cs with
  | nil => simp at hlt
  | cons c rest =>
    rw [replaceAll, h]
    exact if_pos (Nat.le_of_lt_succ hlt)

end

/-! ### Secrets -/

def secretWord : Pattern :=
  .either (.word "secret".toList) <| .either (.word "key".toList) <|
    .either (.word "password".toList) (.word "token".toList)

def secretLead : Pattern :=
  .seq (.many isNameChar) <| .seq secretWord <| .seq (.many isNameChar) (.one (· == '='))

def searchValues (cs : List Char) : List Char :=
  replaceAll secretLead (.oneOrMore (!isBlank ·)) (fun _ => marker) cs

theorem reads_secretWord {x : List Char} : secretWord.Reads x ↔ x.map foldName ∈ secretWords := by
  simp only [secretWord, Pattern.Reads, Pattern.reads_word, secretWords, List.mem_cons,
    List.not_mem_nil, or_false]

theorem reads_secretLead {x : List Char} :
    secretLead.Reads x ↔ ∃ name, x = name ++ ['='] ∧ (∀ c ∈ name, isNameChar c) ∧
      isSecretName name := by
  simp only [secretLead, Pattern.Reads, reads_secretWord, beq_iff_eq]
  constructor
  · rintro ⟨p, _, rfl, hp, w, _, rfl, hw, q, _, rfl, hq, _, rfl, rfl⟩
    have hword : ∀ c ∈ w, isNameChar c := fun c hc =>
      isNameChar_of_foldName (isNameChar_of_mem_secretWords hw _ (List.mem_map_of_mem hc))
    refine ⟨p ++ w ++ q, by simp, fun c hc => ?_, isSecretName_iff.2 ⟨_, hw, ?_⟩⟩
    · rcases List.mem_append.1 hc with hc | hc
      · rcases List.mem_append.1 hc with hc | hc
        · exact hp c hc
        · exact hword c hc
      · exact hq c hc
    · exact List.IsInfix.map foldName ⟨p, q, rfl⟩
  · rintro ⟨name, rfl, hname, hs⟩
    obtain ⟨word, hw, p', q', heq⟩ := isSecretName_iff.1 hs
    obtain ⟨pw, q, rfl, hpw, rfl⟩ := List.map_eq_append_iff.1 heq.symm
    obtain ⟨p, w, rfl, rfl, rfl⟩ := List.map_eq_append_iff.1 hpw
    have hp : ∀ c ∈ p, isNameChar c := fun c hc => hname c (by simp [hc])
    have hq : ∀ c ∈ q, isNameChar c := fun c hc => hname c (by simp [hc])
    exact ⟨p, w ++ (q ++ ['=']), by simp, hp, w, q ++ ['='], rfl, hw, q, ['='], rfl, hq, '=', rfl, rfl⟩

/-- A name is read up to the only equals sign behind it. -/
theorem name_eq_of_append_equals {m n x y : List Char} (hm : ∀ c ∈ m, isNameChar c)
    (hn : ∀ c ∈ n, isNameChar c) (h : m ++ '=' :: x = n ++ '=' :: y) : m = n ∧ x = y := by
  rcases append_cons_cases h with ⟨rfl, -, rfl⟩ | ⟨z, rfl, -⟩ | ⟨z, rfl, -⟩
  · exact ⟨rfl, rfl⟩
  · exact absurd (by simp) (equals_notMem_name hn)
  · exact absurd (by simp) (equals_notMem_name hm)

theorem hit?_secret {name rest : List Char} (hn : ∀ c ∈ name, isNameChar c)
    (ho : opensValue name '=' rest) :
    hit? secretLead (.oneOrMore (!isBlank ·)) (name ++ '=' :: rest) =
      some ⟨name ++ ['='], rest.takeWhile (!isBlank ·), rest.dropWhile (!isBlank ·)⟩ := by
  obtain ⟨-, hs, v, hv, hb⟩ := opensValue_iff.1 ho
  rw [← List.singleton_append, ← List.append_assoc]
  refine hit?_of_unique (reads_secretLead.2 ⟨name, rfl, hn, hs⟩) ?_
    (Pattern.head?_oneOrMore ⟨v, hv, by simpa using hb⟩)
  intro x rest' hx heq
  obtain ⟨m, rfl, hm, -⟩ := reads_secretLead.1 hx
  obtain ⟨rfl, -⟩ := name_eq_of_append_equals hm hn (by simpa using heq)
  rfl

theorem hit?_secret_eq_none {name rest : List Char} (hn : ∀ c ∈ name, isNameChar c)
    (hrest : ∀ c ∈ rest.head?, ¬ isNameChar c)
    (ho : ∀ tail, rest = '=' :: tail → ¬ opensValue name '=' tail) :
    hit? secretLead (.oneOrMore (!isBlank ·)) (name ++ rest) = none := by
  refine hit?_eq_none fun x after hx heq => Pattern.splits_oneOrMore_neg fun v hv hb => ?_
  obtain ⟨m, rfl, hm, hs⟩ := reads_secretLead.1 hx
  have hcut : m = name ∧ '=' :: after = rest := by
    rw [List.append_assoc, List.singleton_append] at heq
    rcases List.append_eq_append_iff.1 heq with ⟨w, rfl, hw⟩ | ⟨w, rfl, hw⟩
    · cases w with
      | nil => exact ⟨by simp, by simpa using hw⟩
      | cons d w =>
        obtain ⟨rfl, -⟩ := List.cons.inj hw
        exact absurd (hn '=' (by simp)) not_isNameChar_equals
    · cases w with
      | nil => exact ⟨by simp, by simpa using hw.symm⟩
      | cons d w => exact absurd (hm d (by simp)) (hrest d (by simp [hw]))
  obtain ⟨rfl, rfl⟩ := hcut
  exact ho after rfl (opensValue_iff.2 ⟨rfl, hs, v, hv, by simpa using hb⟩)

/-- Where nothing is found at the start of a name, nothing is found further on in it. -/
theorem searchValues_name {name rest : List Char} (hn : ∀ c ∈ name, isNameChar c)
    (hrest : ∀ c ∈ rest.head?, ¬ isNameChar c)
    (ho : ∀ tail, rest = '=' :: tail → ¬ opensValue name '=' tail) :
    searchValues (name ++ rest) = name ++ searchValues rest := by
  induction name with
  | nil => rfl
  | cons c cs ih =>
    have hcs : ∀ tail, rest = '=' :: tail → ¬ opensValue cs '=' tail := by
      intro tail htail h
      obtain ⟨hc, hs, hv⟩ := opensValue_iff.1 h
      have hlonger := isSecretName_of_infix hs (List.suffix_cons c cs).isInfix
      exact ho tail htail (opensValue_iff.2 ⟨hc, hlonger, hv⟩)
    have hnone := hit?_secret_eq_none hn hrest ho
    rw [List.cons_append] at hnone ⊢
    rw [searchValues, replaceAll_cons hnone, ← searchValues,
      ih (fun d hd => hn d (List.mem_cons_of_mem _ hd)) hcs]
    rfl

theorem searchValues_cons {c : Char} (hc : ¬ isNameChar c) (rest : List Char) :
    searchValues (c :: rest) = c :: searchValues rest := by
  have hnone : hit? secretLead (.oneOrMore (!isBlank ·)) ([] ++ c :: rest) = none :=
    hit?_secret_eq_none (by simp) (by simpa using hc) (by simp [opensValue_nil])
  rw [searchValues, replaceAll_cons hnone]
  rfl

theorem searchValues_gap {gap : List Char} (h : ∀ c ∈ gap, ¬ isNameChar c) (rest : List Char) :
    searchValues (gap ++ rest) = gap ++ searchValues rest := by
  induction gap with
  | nil => rfl
  | cons c cs ih =>
    rw [List.cons_append, searchValues_cons (h c List.mem_cons_self),
      ih fun d hd => h d (List.mem_cons_of_mem _ hd)]
    rfl

theorem searchValues_secret {name rest : List Char} (hn : ∀ c ∈ name, isNameChar c)
    (ho : opensValue name '=' rest) :
    searchValues (name ++ '=' :: rest) =
      name ++ '=' :: (marker ++ searchValues (rest.dropWhile (!isBlank ·))) := by
  have hlt := dropWhile_length_le (!isBlank ·) rest
  rw [searchValues, replaceAll_hit (hit?_secret hn ho)]
  · simp [searchValues]
  · simp only [List.length_append, List.length_cons]
    omega

theorem searchValues_eq (cs : List Char) : searchValues cs = maskValues cs := by
  fun_induction maskValues cs with
  | case1 => exact replaceAll_nil
  | case2 c rest hc name v tail hrest hs ih =>
    simp only [Bool.and_eq_true] at hs
    have ho : opensValue name '=' (v :: tail) :=
      opensValue_iff.2 ⟨rfl, hs.1, v, rfl, by simpa using hs.2⟩
    rw [← cons_takeWhile_append isNameChar c rest, hrest,
      searchValues_secret (forall_cons_takeWhile hc rest) ho,
      List.dropWhile_cons_of_pos (p := (!isBlank ·)) hs.2, ih]
    simp [name]
  | case3 c rest hc name v tail hrest hs ih =>
    have ho : ∀ rest', '=' :: v :: tail = '=' :: rest' → ¬ opensValue name '=' rest' := by
      intro rest' htail h
      obtain rfl := (List.cons.inj htail).2
      obtain ⟨-, hname, w, hw, hv⟩ := opensValue_iff.1 h
      cases hw
      exact hs (by simp [hname, hv])
    rw [← cons_takeWhile_append isNameChar c rest, hrest,
      searchValues_name (forall_cons_takeWhile hc rest) (by simp [not_isNameChar_equals]) ho,
      searchValues_cons not_isNameChar_equals, ih]
  | case4 c rest hc name hrest ih =>
    have ho : ∀ tail, rest.dropWhile isNameChar = '=' :: tail → ¬ opensValue name '=' tail := by
      intro tail htail h
      obtain ⟨-, -, v, hv, -⟩ := opensValue_iff.1 h
      obtain ⟨more, rfl⟩ := List.head?_eq_some_iff.1 hv
      exact hrest v more htail
    rw [← cons_takeWhile_append isNameChar c rest,
      searchValues_name (forall_cons_takeWhile hc rest) (head?_dropWhile_neg _ _) ho, ih]
  | case5 c rest hc ih =>
    rw [← cons_takeWhile_append (!isNameChar ·) c rest,
      searchValues_gap (forall_cons_takeWhile_not hc rest), ih]

/-! ### Digests -/

/-- A digest is a run of digits of the right length. -/
def searchDigests (cs : List Char) : List Char :=
  replaceAll .nothing (.oneOrMore isHexDigit)
    (fun run => if run.length = digestLength then marker else run) cs

theorem searchDigests_cons {c : Char} (hc : ¬ isHexDigit c) (rest : List Char) :
    searchDigests (c :: rest) = c :: searchDigests rest := by
  refine replaceAll_cons (hit?_eq_none ?_)
  rintro _ after rfl rfl
  exact Pattern.splits_oneOrMore_neg (by simpa using hc)

theorem maskRun_digits {run : List Char} (h : ∀ c ∈ run, isHexDigit c) :
    maskRun run = if run.length = digestLength then marker else run := by
  simp [maskRun, List.all_eq_true.2 h]

theorem searchDigests_run {run rest : List Char} (h : ∀ c ∈ run, isHexDigit c)
    (hrest : ∀ c ∈ rest.head?, ¬ isHexDigit c) :
    searchDigests (run ++ rest) = maskRun run ++ searchDigests rest := by
  cases run with
  | nil => rfl
  | cons c cs =>
    obtain ⟨htake, hdrop⟩ := takeWhile_run h hrest
    have hbody : ((Pattern.oneOrMore isHexDigit).splits (c :: cs ++ rest)).head? =
        some (c :: cs, rest) := by
      rw [Pattern.head?_oneOrMore ⟨c, rfl, h c List.mem_cons_self⟩, htake, hdrop]
    have hhit : hit? .nothing (.oneOrMore isHexDigit) (c :: cs ++ rest) =
        some ⟨[], c :: cs, rest⟩ := hit?_of_unique (x := []) rfl (fun _ _ hx _ => hx) hbody
    have hlt : rest.length < (c :: cs ++ rest).length := by
      simp only [List.length_append, List.length_cons]
      omega
    rw [searchDigests, replaceAll_hit hhit hlt, maskRun_digits h]
    rfl

theorem searchDigests_eq (cs : List Char) : searchDigests cs = maskDigests cs := by
  induction cs using run_induction (p := isHexDigit) with
  | run h hh =>
    have hend : searchDigests (h ++ []) = maskRun h ++ searchDigests [] :=
      searchDigests_run hh (by simp)
    rw [List.append_nil] at hend
    rw [hend, maskDigests_run hh, searchDigests, replaceAll_nil, List.append_nil]
  | cut h c cs hh hc ih =>
    rw [searchDigests_run hh (by simpa using hc), searchDigests_cons hc, ih,
      maskDigests_run_cons hh hc]

/-! ### Both searches -/

def redactSearch (s : String) : String := String.ofList (searchDigests (searchValues s.toList))

theorem redact_eq_redactSearch (s : String) : redact s = redactSearch s := by
  rw [redact, redactSearch, searchValues_eq, searchDigests_eq]

end FleetDesk.Text
