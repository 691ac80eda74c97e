import FleetDesk.Json.Printer
import FleetDesk.Json.Reader
import FleetDesk.Proofs.Json.Members

/-!
# Flat objects read back

A flat object holds texts, truth values and integers of 64 bits only. Its compact text reads back as
the same object (`parse?_compact_ofMembers`): the tokens of each part are found where the part ends,
and each takes the reader from the state before the part to the one after it (`Feeds`).
-/

namespace FleetDesk.Json

/-! ### Texts -/

theorem hexDigit?_hexDigit : ∀ n < 16, Text.hexDigit? (hexDigit n) = some n := by decide

theorem escape?_control {c : Char} (h : c.toNat < 0x20) (rest : List Char) :
    escape? ('u' :: '0' :: '0' :: hexDigit (c.toNat / 16) :: hexDigit (c.toNat % 16) :: rest) =
      some (c, rest) := by
  have hzero : Text.hexDigit? '0' = some 0 := hexDigit?_hexDigit 0 (by omega)
  have hhigh := hexDigit?_hexDigit (c.toNat / 16) (by omega)
  have hlow := hexDigit?_hexDigit (c.toNat % 16) (by omega)
  have hn : ((0 * 16 + 0) * 16 + c.toNat / 16) * 16 + c.toNat % 16 = c.toNat := by omega
  have hunit : unit? ('0' :: '0' :: hexDigit (c.toNat / 16) :: hexDigit (c.toNat % 16) :: rest) =
      some (c.toNat, rest) := by
    simp only [unit?, hzero, hhigh, hlow, Option.bind_eq_bind, Option.bind_some, hn]
  have hs : isHighSurrogate c.toNat = false := by simp [isHighSurrogate]; omega
  have ht : isLowSurrogate c.toNat = false := by simp [isLowSurrogate]; omega
  simp only [escape?, unicodeEscape?, hunit, Option.bind_eq_bind, Option.bind_some, hs, ht,
    Bool.false_eq_true, if_false, Char.ofNat_toNat]

theorem readQuotedFrom_escaped {acc cs after : List Char} {c : Char}
    (h : escape? cs = some (c, after)) :
    readQuotedFrom acc ('\\' :: cs) = readQuotedFrom (c :: acc) after := by
  rw [readQuotedFrom]
  simp only [Char.reduceEq, if_false, if_true]
  split
  · next e after' he =>
    rw [he] at h
    cases h
    rfl
  · next he => rw [he] at h; cases h

theorem readQuotedFrom_escapeChar (acc : List Char) (c : Char) (rest : List Char) :
    readQuotedFrom acc (escapeChar c ++ rest) = readQuotedFrom (c :: acc) rest := by
  unfold escapeChar
  split
  · next h => subst h; exact readQuotedFrom_escaped rfl
  split
  · next h => subst h; exact readQuotedFrom_escaped rfl
  split
  · next h => subst h; exact readQuotedFrom_escaped rfl
  split
  · next h => subst h; exact readQuotedFrom_escaped rfl
  split
  · next h => subst h; exact readQuotedFrom_escaped rfl
  split
  · next h => subst h; exact readQuotedFrom_escaped rfl
  split
  · next h => subst h; exact readQuotedFrom_escaped rfl
  split
  · next h => exact readQuotedFrom_escaped (escape?_control h rest)
  · next hquote hslash _ _ _ _ _ hcontrol =>
    rw [List.singleton_append, readQuotedFrom]
    simp only [if_neg hquote, if_neg hslash, if_neg hcontrol]

theorem readQuotedFrom_escape (s rest acc : List Char) :
    readQuotedFrom acc (s.flatMap escapeChar ++ '"' :: rest) =
      some (String.ofList (acc.reverse ++ s), rest) := by
  induction s generalizing acc with
  | nil => simp [readQuotedFrom]
  | cons c s ih =>
    rw [List.flatMap_cons, List.append_assoc, readQuotedFrom_escapeChar, ih]
    simp

/-! ### Numerals -/

/-- What follows a numeral does not carry it on. -/
def Stops (rest : List Char) : Prop :=
  ∀ c ∈ rest.head?, ¬ c.isDigit ∧ c ≠ '.' ∧ c ≠ 'e' ∧ c ≠ 'E'

theorem decimalDigits_ne_nil (n : Nat) : decimalDigits n ≠ [] := Nat.toDigits_ne_nil

theorem isDigit_of_mem_decimalDigits {n : Nat} {c : Char} (h : c ∈ decimalDigits n) : c.isDigit :=
  Nat.isDigit_of_mem_toDigits (by omega) (by omega) h

theorem digitsValue_decimalDigits (n : Nat) : digitsValue (decimalDigits n) = n :=
  Nat.ofDigitChars_ten_toDigits

theorem digitChar_ne_zero : ∀ n < 10, n ≠ 0 → Nat.digitChar n ≠ '0' := by decide

theorem head?_decimalDigits {n : Nat} (h : n ≠ 0) : (decimalDigits n).head? ≠ some '0' := by
  induction n using Nat.strongRecOn with
  | ind n ih =>
    rw [decimalDigits, Nat.toDigits_eq_if (by omega)]
    split
    · next hn => simpa using digitChar_ne_zero n hn h
    · rw [List.head?_append_of_ne_nil _ Nat.toDigits_ne_nil]
      exact ih _ (by omega) (by omega)

theorem digitRun?_append {ds rest : List Char} (hd : ∀ c ∈ ds, c.isDigit) (hn : ds ≠ [])
    (hr : ∀ c ∈ rest.head?, ¬ c.isDigit) : digitRun? (ds ++ rest) = some (ds, rest) := by
  have htake : (ds ++ rest).takeWhile Char.isDigit = ds := by
    rw [List.takeWhile_append_of_pos hd]
    cases rest with
    | nil => simp
    | cons c rest => simp [hr c rfl]
  have hdrop : (ds ++ rest).dropWhile Char.isDigit = rest := by
    rw [List.dropWhile_append_of_pos hd]
    cases rest with
    | nil => simp
    | cons c rest => simp [hr c rfl]
  simp [digitRun?, htake, hdrop, hn]

theorem wholePart?_decimalDigits (n : Nat) {rest : List Char} (hr : ∀ c ∈ rest.head?, ¬ c.isDigit) :
    wholePart? (decimalDigits n ++ rest) = some (decimalDigits n, rest) := by
  have hd : ∀ c ∈ decimalDigits n, c.isDigit := fun c => isDigit_of_mem_decimalDigits
  by_cases h : n = 0
  · subst h
    rfl
  · have hne := decimalDigits_ne_nil n
    have hhead : (decimalDigits n ++ rest).head? = (decimalDigits n).head? :=
      List.head?_append_of_ne_nil _ hne
    have hzero : ∀ tail, decimalDigits n ++ rest ≠ '0' :: tail := by
      intro tail he
      rw [he] at hhead
      exact head?_decimalDigits h hhead.symm
    unfold wholePart?
    split
    · next he => exact absurd he (hzero _)
    · exact digitRun?_append hd hne hr

theorem unsignedNumeral?_decimalDigits (negative : Bool) (n : Nat) {rest : List Char}
    (h : Stops rest) : unsignedNumeral? negative (decimalDigits n ++ rest) =
      some (⟨negative, decimalDigits n, none, none⟩, rest) := by
  have hwhole := wholePart?_decimalDigits n fun c hc => (h c hc).1
  have hfraction : fractionPart? rest = some (none, rest) := by
    unfold fractionPart?
    split
    · exact absurd rfl (h '.' rfl).2.1
    · rfl
  have hpower : powerPart? rest = some (none, rest) := by
    cases rest with
    | nil => rfl
    | cons c rest =>
      obtain ⟨-, -, he, hE⟩ := h c rfl
      simp [powerPart?, he, hE]
  simp only [unsignedNumeral?, hwhole, hfraction, hpower, Option.bind_eq_bind, Option.bind_some]

theorem numeral?_intDigits (n : Int) {rest : List Char} (h : Stops rest) :
    numeral? (intDigits n ++ rest) =
      some (⟨decide (n < 0), decimalDigits n.natAbs, none, none⟩, rest) := by
  unfold intDigits
  split
  · next hn =>
    rw [List.cons_append, numeral?, unsignedNumeral?_decimalDigits true _ h, decide_eq_true hn]
  · next hn =>
    have hne : ∀ tail, decimalDigits n.natAbs ++ rest ≠ '-' :: tail := by
      intro tail he
      have hd : ∀ c ∈ (decimalDigits n.natAbs ++ rest).head?, c.isDigit := by
        rw [List.head?_append_of_ne_nil _ (decimalDigits_ne_nil _)]
        exact fun c hc => isDigit_of_mem_decimalDigits (List.mem_of_mem_head? hc)
      rw [he] at hd
      exact absurd (hd '-' rfl) (by decide)
    unfold numeral?
    split
    · next he => exact absurd he (hne _)
    · rw [unsignedNumeral?_decimalDigits false _ h, decide_eq_false hn]

theorem number?_decimalDigits {n : Int} (h : Number.fits n) :
    Numeral.number? ⟨decide (n < 0), decimalDigits n.natAbs, none, none⟩ = some (.int n) := by
  have hvalue : (if decide (n < 0) = true then -(n.natAbs : Int) else n.natAbs) = n := by
    by_cases hn : n < 0
    · rw [decide_eq_true hn, if_pos rfl]
      omega
    · rw [decide_eq_false hn, if_neg Bool.false_ne_true]
      omega
  have hzero : (!(decide (n < 0) && n == 0)) = true := by
    by_cases hn : n < 0
    · have hne : (n == 0) = false := beq_eq_false_iff_ne.2 (by omega)
      simp [hne]
    · simp [hn]
  simp only [Numeral.number?, digitsValue_decimalDigits, hvalue, h, hzero, Option.isNone_none,
    Bool.and_self, if_true]

/-! ### Tokens -/

theorem tokensFrom_cons {acc : List Token} {c : Char} {rest after : List Char} {t : Token}
    (hc : ¬ isSpace c) (h : next? (c :: rest) = some (t, after)) :
    tokensFrom acc (c :: rest) = tokensFrom (t :: acc) after := by
  have hd : (c :: rest).dropWhile isSpace = c :: rest := List.dropWhile_cons_of_neg hc
  rw [tokensFrom]
  split
  · next he => rw [hd] at he; cases he
  · next c' rest' he =>
    rw [hd] at he
    cases he
    split
    · next t' after' ht =>
      rw [h] at ht
      cases ht
      rfl
    · next ht => rw [h] at ht; cases ht

/-- The text is one token that ends where the text does. -/
def Spells (text : List Char) (t : Token) : Prop :=
  ∃ c tail, text = c :: tail ∧ ¬ isSpace c ∧
    ∀ rest, Stops rest → next? (c :: (tail ++ rest)) = some (t, rest)

theorem spells_quote (s : String) : Spells (quote s) (.string s) := by
  refine ⟨'"', s.toList.flatMap escapeChar ++ ['"'], rfl, by decide, fun rest _ => ?_⟩
  rw [List.append_assoc, List.singleton_append]
  simp [next?, readQuoted?, readQuotedFrom_escape]

theorem spells_bool (b : Bool) : Spells (compactChars (.bool b)) (.bool b) := by
  cases b with
  | true => exact ⟨'t', "rue".toList, by simp [compactChars], by decide, fun rest _ => by
      simp [next?, word?]⟩
  | false => exact ⟨'f', "alse".toList, by simp [compactChars], by decide, fun rest _ => by
      simp [next?, word?]⟩

theorem next?_numeral {c : Char} (h : c = '-' ∨ c.isDigit) (rest : List Char) :
    next? (c :: rest) = (do
      let (numeral, after) ← numeral? (c :: rest)
      let n ← numeral.number?
      some (.number n, after)) := by
  have hne : ∀ d : Char, d ≠ '-' → ¬ d.isDigit → c ≠ d := by
    rintro d hminus hdigit rfl
    exact h.elim hminus hdigit
  simp [next?, hne]

theorem spells_int {n : Int} (h : Number.fits n) : Spells (intDigits n) (.number (.int n)) := by
  have hhead : ∃ c tail, intDigits n = c :: tail ∧ (c = '-' ∨ c.isDigit) := by
    unfold intDigits
    split
    · exact ⟨_, _, rfl, .inl rfl⟩
    · obtain ⟨c, tail, hd⟩ := List.exists_cons_of_ne_nil (decimalDigits_ne_nil n.natAbs)
      exact ⟨c, tail, hd, .inr (isDigit_of_mem_decimalDigits (hd ▸ List.mem_cons_self))⟩
  obtain ⟨c, tail, hd, hc⟩ := hhead
  refine ⟨c, tail, hd, ?_, fun rest hrest => ?_⟩
  · have hne : ∀ d : Char, d ≠ '-' → ¬ d.isDigit → c ≠ d := by
      rintro d hminus hdigit rfl
      exact hc.elim hminus hdigit
    simp [isSpace, hne]
  · have hnum := numeral?_intDigits n hrest
    rw [hd, List.cons_append] at hnum
    rw [next?_numeral hc, hnum]
    simp only [Option.bind_eq_bind, Option.bind_some, number?_decimalDigits h]

/-! ### Runs of the reader -/

/-- The text is cut into tokens that take the reader from `s` to `t`, if what follows stops it. -/
def Feeds (s : ReadState) (text : List Char) (t : ReadState) : Prop :=
  ∃ ts : List Token, (∀ acc rest, Stops rest →
      tokensFrom acc (text ++ rest) = tokensFrom (ts.reverse ++ acc) rest) ∧
    ts.foldlM ReadState.step s = some t

variable {s t u : ReadState}

theorem Spells.feeds {text : List Char} {tok : Token} (h : Spells text tok)
    (hs : s.step tok = some t) : Feeds s text t := by
  obtain ⟨c, tail, rfl, hc, hn⟩ := h
  refine ⟨[tok], fun acc rest hrest => ?_, by simp [hs]⟩
  exact tokensFrom_cons hc (hn rest hrest)

theorem Feeds.append {x y : List Char} (h : Feeds s x t) (k : Feeds t y u)
    (hy : ∀ rest, Stops rest → Stops (y ++ rest)) : Feeds s (x ++ y) u := by
  obtain ⟨ts, hts, hs⟩ := h
  obtain ⟨us, hus, ht⟩ := k
  refine ⟨ts ++ us, fun acc rest hrest => ?_, ?_⟩
  · rw [List.append_assoc, hts acc _ (hy rest hrest), hus _ rest hrest, List.reverse_append,
      List.append_assoc]
  · rw [List.foldlM_append, hs]
    exact ht

/-- A sign that is a token of its own. -/
theorem Feeds.sign (tok : Token) {c : Char} {y : List Char} (hc : ¬ isSpace c)
    (hn : ∀ rest, next? (c :: rest) = some (tok, rest)) (hs : s.step tok = some t)
    (h : Feeds t y u) : Feeds s (c :: y) u := by
  obtain ⟨ts, hts, ht⟩ := h
  refine ⟨tok :: ts, fun acc rest hrest => ?_, ?_⟩
  · rw [List.cons_append, tokensFrom_cons hc (hn _), hts _ rest hrest, List.reverse_cons,
      List.append_assoc, List.singleton_append]
  · rw [List.foldlM_cons, hs]
    exact ht

theorem Feeds.nil : Feeds s [] s := ⟨[], fun _ _ _ => rfl, rfl⟩

theorem stops_cons {c : Char} (h : ¬ c.isDigit ∧ c ≠ '.' ∧ c ≠ 'e' ∧ c ≠ 'E') (rest : List Char) :
    Stops (c :: rest) := by
  intro d hd
  cases hd
  exact h

/-! ### Flat objects -/

inductive Scalar : Json → Prop
  | bool (b : Bool) : Scalar (.bool b)
  | int {n : Int} (h : Number.fits n) : Scalar (Json.int n)
  | string (s : String) : Scalar (.string s)

theorem Scalar.feeds {v : Json} (h : Scalar v) (stack : List Frame) :
    Feeds (.want stack) (compactChars v) (.got stack v) := by
  cases h with
  | bool b => exact (spells_bool b).feeds rfl
  | int h => exact (spells_int h).feeds rfl
  | string s => exact (spells_quote s).feeds rfl

/-- A member up to the sign behind it. -/
theorem feeds_member {stack : List Frame} {done : List (String × Json)} (fresh : Bool) {k : String}
    {v : Json} (hv : Scalar v) {c : Char} {tail : List Char}
    (hc : ¬ c.isDigit ∧ c ≠ '.' ∧ c ≠ 'e' ∧ c ≠ 'E')
    (h : Feeds (.got (.member done k :: stack) v) (c :: tail) u) :
    Feeds (.entry stack done fresh) (quote k ++ ':' :: (compactChars v ++ c :: tail)) u := by
  have hkey : Feeds (.entry stack done fresh) (quote k) (.named stack done k) :=
    (spells_quote k).feeds (by cases fresh <;> rfl)
  have hvalue : Feeds (.want (.member done k :: stack)) (compactChars v ++ c :: tail) u :=
    (hv.feeds _).append h fun _ _ => stops_cons hc _
  refine hkey.append (.sign .colon (by decide) (fun _ => rfl) rfl hvalue) fun _ _ => ?_
  exact stops_cons (by decide) _

theorem feeds_members (stack : List Frame) (done : List (String × Json)) (fresh : Bool)
    (m : String × Json) (ms : List (String × Json)) (h : ∀ n ∈ m :: ms, Scalar n.2) :
    Feeds (.entry stack done fresh) (joinWith [','] (compactMembers (m :: ms)) ++ ['\x7d'])
      (.got stack (.object ((m :: ms).foldl (fun acc (k, v) => insertMember k v acc) done))) := by
  induction ms generalizing done fresh m with
  | nil =>
    obtain ⟨k, v⟩ := m
    have hend : Feeds (.got (.member done k :: stack) v) ['\x7d']
        (.got stack (.object (insertMember k v done))) :=
      .sign .closeObject (by decide) (fun _ => rfl) rfl .nil
    have hmember := feeds_member fresh (h (k, v) List.mem_cons_self) (by decide) hend
    simpa [compactMembers, joinWith] using hmember
  | cons n ms ih =>
    obtain ⟨k, v⟩ := m
    have hrest := ih (insertMember k v done) false n fun x hx => h x (List.mem_cons_of_mem _ hx)
    have hcomma := Feeds.sign (s := .got (.member done k :: stack) v) (c := ',') .comma
      (by decide) (fun _ => rfl) rfl hrest
    have hmember := feeds_member fresh (h (k, v) List.mem_cons_self) (by decide) hcomma
    simpa [compactMembers, joinWith] using hmember

/-- Members of scalar values read back in order. -/
theorem parse?_compact_object {ms : List (String × Json)} (h : ∀ m ∈ ms, Scalar m.2) :
    parse? (Json.object ms).compact = some (.object (sortMembers ms)) := by
  have hfeeds :
      Feeds (.want []) (compactChars (.object ms)) (.got [] (.object (sortMembers ms))) := by
    cases ms with
    | nil =>
      refine .sign .openObject (by decide) (fun _ => rfl) rfl ?_
      exact .sign .closeObject (by decide) (fun _ => rfl) rfl .nil
    | cons m ms =>
      refine .sign .openObject (by decide) (fun _ => rfl) rfl ?_
      exact feeds_members [] [] true m ms h
  obtain ⟨ts, hts, hs⟩ := hfeeds
  have htokens : tokens? (compactChars (.object ms)) = some ts := by
    have hend := hts [] [] (by simp [Stops])
    rw [List.append_nil, List.append_nil] at hend
    rw [tokens?, hend, tokensFrom]
    simp
  rw [parse?, compact, String.toList_ofList, htokens, Option.bind_some, ofTokens?, hs]

theorem parse?_compact_ofMembers {ms : List (String × Json)} (h : ∀ m ∈ ms, Scalar m.2) :
    parse? (ofMembers ms).compact = some (ofMembers ms) := by
  rw [ofMembers, parse?_compact_object fun m hm => h m (mem_of_mem_sortMembers hm),
    (sorted_sortMembers ms).sortMembers]

end FleetDesk.Json
