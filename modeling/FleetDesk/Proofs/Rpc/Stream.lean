import FleetDesk.Proofs.Text.Utf8
import FleetDesk.Rpc.Stream

/-!
# The lines of an input

`lines` cuts an input by its bytes alone. The stream is read in another way: a line is read with the
line feed at its end, made a text, and stripped of its end afterwards. Still a line is handed over
exactly if its bytes are those of a text, as this text (`lineText_terminated`, `lineText_rest`), and
an input is handed over line by line up to the first that is none (`exists_feed`).
-/

namespace FleetDesk.Rpc

def carriageReturn : UInt8 := 13

/-- Without a carriage return at the end. -/
def dropReturn (bs : List UInt8) : List UInt8 :=
  if bs.getLast? = some carriageReturn then bs.dropLast else bs

/-- What stands in front of each line feed, and what is left behind the last one. -/
def lines (input : List UInt8) : List (List UInt8) :=
  let pieces := input.splitOn lineFeed
  pieces.dropLast.map dropReturn ++ pieces.getLast?.toList.filter (· ≠ [])

theorem lines_append {body : List UInt8} (h : lineFeed ∉ body) (rest : List UInt8) :
    lines (body ++ lineFeed :: rest) = dropReturn body :: lines rest := by
  have hne : rest.splitOn lineFeed ≠ [] := List.splitOn_ne_nil lineFeed rest
  simp only [lines, List.splitOn_append_cons_self_of_not_mem h]
  rw [List.dropLast_cons_of_ne_nil hne, List.getLast?_cons_of_ne_nil hne, List.map_cons,
    List.cons_append]

theorem lines_rest {body : List UInt8} (h : lineFeed ∉ body) (hne : body ≠ []) :
    lines body = [body] := by
  simp [lines, List.splitOn_eq_singleton h, hne]

@[simp] theorem lines_nil : lines [] = [] := by decide

example : lines [0x61, 13, 10, 10, 0x62, 13] = [[0x61], [], [0x62, 13]] := by decide

/-- A line is cut off with its line feed, or is all that there is. -/
theorem cutLine_cases {input : List UInt8} (h : input ≠ []) :
    (∃ body rest, lineFeed ∉ body ∧ input = body ++ lineFeed :: rest ∧
      cutLine input = (body ++ [lineFeed], rest)) ∨
    (lineFeed ∉ input ∧ cutLine input = (input, [])) := by
  induction input with
  | nil => exact absurd rfl h
  | cons b bs ih =>
    by_cases hb : b = lineFeed
    · exact .inl ⟨[], bs, by simp, by rw [hb]; rfl, by simp [cutLine, hb]⟩
    have hb' : lineFeed ≠ b := Ne.symm hb
    by_cases hbs : bs = []
    · exact .inr ⟨by simp [hbs, hb'], by simp [cutLine, hbs, hb]⟩
    rcases ih hbs with ⟨body, rest, hbody, rfl, hcut⟩ | ⟨hbody, hcut⟩
    · refine .inl ⟨b :: body, rest, ?_, rfl, ?_⟩
      · simp [hb', hbody]
      · simp [cutLine, hb, hcut]
    · exact .inr ⟨by simp [hb', hbody], by simp [cutLine, hb, hcut]⟩

/-! ### The text of a line -/

theorem dropEnding_lineFeed {t : String} (h : t.toList.getLast? ≠ some '\r') :
    dropEnding (t ++ "\n") = t := by
  have hrev : (t ++ "\n").toList.reverse = '\n' :: t.toList.reverse := by simp
  rw [dropEnding, hrev]
  rw [List.getLast?_eq_head?_reverse] at h
  cases hr : t.toList.reverse with
  | nil => simpa using hr
  | cons c cs =>
    rw [hr] at h
    have hc : c ≠ '\r' := by simpa using h
    have ht : (c :: cs).reverse = t.toList := by rw [← hr, List.reverse_reverse]
    split
    · next heq => injection heq with _ heq; injection heq with heq _; exact absurd heq hc
    · next heq => injection heq with _ heq; rw [← heq, ht, String.ofList_toList]
    · next hno => exact absurd rfl (hno _)

theorem dropEnding_carriageReturn (t : String) : dropEnding (t ++ "\r" ++ "\n") = t := by
  have hrev : (t ++ "\r" ++ "\n").toList.reverse = '\n' :: '\r' :: t.toList.reverse := by simp
  rw [dropEnding, hrev]
  simp

theorem dropEnding_of_notMem {t : String} (h : '\n' ∉ t.toList) : dropEnding t = t := by
  rw [← List.mem_reverse] at h
  unfold dropEnding
  split
  · next heq => simp [heq] at h
  · next heq => simp [heq] at h
  · rfl

theorem lineText_eq_ok {line : List UInt8} {t : String} :
    lineText line = .ok t ↔ ∃ s, Utf8.encode s = line ∧ dropEnding s = t := by
  simp only [lineText, ← Utf8.decode_eq_ok_iff]
  cases Utf8.decode line <;> simp [Except.map]

theorem encode_lineFeed : Utf8.encode "\n" = [lineFeed] := by rw [Utf8.encode_eq]; decide

theorem encode_carriageReturn : Utf8.encode "\r" = [carriageReturn] := by
  rw [Utf8.encode_eq]; decide

theorem getLast?_encode {t : String} :
    (Utf8.encode t).getLast? = some carriageReturn ↔ t.toList.getLast? = some '\r' := by
  constructor
  · intro h
    obtain ⟨bs, hbs⟩ := List.getLast?_eq_some_iff.1 h
    obtain ⟨u, rfl, -⟩ := Utf8.exists_of_encode_concat hbs (by decide)
    simp [carriageReturn]
  · intro h
    obtain ⟨cs, hcs⟩ := List.getLast?_eq_some_iff.1 h
    have ht : t = String.ofList cs ++ "\r" := by rw [← String.toList_inj, hcs]; simp
    rw [ht, Utf8.encode_append, encode_carriageReturn, List.getLast?_concat]

theorem lineText_terminated {body : List UInt8} {t : String} :
    lineText (body ++ [lineFeed]) = .ok t ↔ Utf8.encode t = dropReturn body := by
  rw [lineText_eq_ok, dropReturn]
  -- The bytes at the end are characters by themselves, so they can be split off as characters.
  constructor
  · rintro ⟨s, hs, rfl⟩
    obtain ⟨u, rfl, rfl⟩ := Utf8.exists_of_encode_concat hs (by decide)
    change Utf8.encode (dropEnding (u ++ "\n")) = _
    split
    · next hlast =>
      obtain ⟨bs, hbs⟩ := List.getLast?_eq_some_iff.1 hlast
      obtain ⟨t, rfl, ht⟩ := Utf8.exists_of_encode_concat hbs (by decide)
      change Utf8.encode (dropEnding (t ++ "\r" ++ "\n")) = _
      rw [dropEnding_carriageReturn, hbs, List.dropLast_concat, ht]
    · next hlast =>
      rw [dropEnding_lineFeed fun hr => hlast (getLast?_encode.2 hr)]
  · split
    · next hlast =>
      intro ht
      obtain ⟨bs, rfl⟩ := List.getLast?_eq_some_iff.1 hlast
      rw [List.dropLast_concat] at ht
      refine ⟨t ++ "\r" ++ "\n", ?_, dropEnding_carriageReturn t⟩
      rw [Utf8.encode_append, Utf8.encode_append, encode_carriageReturn, encode_lineFeed, ht]
    · next hlast =>
      rintro rfl
      refine ⟨t ++ "\n", by rw [Utf8.encode_append, encode_lineFeed], dropEnding_lineFeed ?_⟩
      exact fun hr => hlast (getLast?_encode.2 hr)

theorem lineText_rest {body : List UInt8} (h : lineFeed ∉ body) {t : String} :
    lineText body = .ok t ↔ Utf8.encode t = body := by
  have hdrop : ∀ s, Utf8.encode s = body → dropEnding s = s := by
    rintro s rfl
    exact dropEnding_of_notMem fun hs => h (Utf8.mem_encode_lineFeed.2 hs)
  rw [lineText_eq_ok]
  constructor
  · rintro ⟨s, hs, rfl⟩
    rw [hdrop s hs, hs]
  · intro ht
    exact ⟨t, ht, hdrop t ht⟩

/-- The first line is what is cut off, and a text exactly if that is read as one. -/
theorem lines_cutLine {input : List UInt8} (h : input ≠ []) :
    ∃ line, lines input = line :: lines (cutLine input).2 ∧
      ∀ t, lineText (cutLine input).1 = .ok t ↔ Utf8.encode t = line := by
  rcases cutLine_cases h with ⟨body, rest, hbody, rfl, hcut⟩ | ⟨hbody, hcut⟩
  · refine ⟨dropReturn body, ?_, fun t => ?_⟩
    · rw [hcut, lines_append hbody]
    · rw [hcut, lineText_terminated]
  · refine ⟨input, ?_, fun t => ?_⟩
    · rw [hcut, lines_rest hbody h, lines_nil]
    · rw [hcut, lineText_rest hbody]

/-! ### Handing over -/

/-- The texts are the first lines of the input; a line behind them is written as no text is, and
there is one if there is a flaw. -/
def Decoded (input : List UInt8) (texts : List String) (flaw : Option Utf8.Flaw) : Prop :=
  ∃ rest, lines input = texts.map Utf8.encode ++ rest ∧
    (∀ line ∈ rest.head?, ∀ t, Utf8.encode t ≠ line) ∧ (flaw = none ↔ rest = [])

variable {σ τ : Type}

theorem exists_feed (handle : σ → String → σ) (s : σ) (input : List UInt8) :
    ∃ texts, Decoded input texts (feed handle s input).2 ∧
      (feed handle s input).1 = texts.foldl handle s := by
  fun_induction feed handle s input with
  | case1 s => exact ⟨[], ⟨[], rfl, by simp, by simp⟩, rfl⟩
  | case2 s input h text htext ih =>
    obtain ⟨line, hlines, hline⟩ := lines_cutLine h
    obtain ⟨texts, ⟨rest, hrest, hbad, hflaw⟩, hfold⟩ := ih
    refine ⟨text :: texts, ⟨rest, ?_, hbad, hflaw⟩, hfold⟩
    rw [hlines, hrest, ← (hline text).1 htext]
    rfl
  | case3 s input h flaw herror =>
    obtain ⟨line, hlines, hline⟩ := lines_cutLine h
    refine ⟨[], ⟨lines input, rfl, ?_, by simp [hlines]⟩, rfl⟩
    intro line' hline' t ht
    rw [hlines, List.head?_cons, Option.mem_some_iff] at hline'
    rw [(hline t).2 (ht.trans hline'.symm)] at herror
    cases herror

/-- There is no flaw exactly if every line is a text. -/
theorem Decoded.flaw_eq_none {input : List UInt8} {texts : List String} {flaw : Option Utf8.Flaw}
    (h : Decoded input texts flaw) :
    flaw = none ↔ ∀ line ∈ lines input, ∃ t, Utf8.encode t = line := by
  obtain ⟨rest, hlines, hbad, hflaw⟩ := h
  rw [hflaw, hlines]
  cases rest with
  | nil => simp
  | cons line rest =>
    refine iff_of_false (List.cons_ne_nil _ _) fun h => ?_
    obtain ⟨t, ht⟩ := h line (by simp)
    exact hbad line rfl t ht

/-- Two ways to handle lines that keep in step do so over an input. -/
theorem feed_rel {R : σ → τ → Prop} {f : σ → String → σ} {g : τ → String → τ}
    (hstep : ∀ s t line, R s t → R (f s line) (g t line)) {s : σ} {t : τ} (h : R s t)
    (input : List UInt8) :
    R (feed f s input).1 (feed g t input).1 ∧ (feed f s input).2 = (feed g t input).2 := by
  fun_induction feed f s input generalizing t with
  | case1 s =>
    rw [feed, if_pos rfl]
    exact ⟨h, rfl⟩
  | case2 s input hne text htext ih =>
    rw [feed.eq_def g, if_neg hne, htext]
    exact ih (hstep s t text h)
  | case3 s input hne flaw herror =>
    rw [feed.eq_def g, if_neg hne, herror]
    exact ⟨h, rfl⟩

end FleetDesk.Rpc
