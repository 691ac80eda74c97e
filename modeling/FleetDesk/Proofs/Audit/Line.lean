import FleetDesk.Audit.Record
import FleetDesk.Text.Split
import Mathlib.Data.Bool.AllAny

/-!
# Reading the lines of the audit trail

Nothing is escaped in a line, so it tells its record only if the record is plain: no `]` in the name
of the tool, no `=` in a key and no quote in a text. Blanks, brackets and line breaks may stand
anywhere else. `Record.ofLine?` reads a line from left to right, and accepts exactly the lines of
plain records (`Record.ofLine?_eq_some`). So no two of them share a line
(`Record.plain_lines_unambiguous`).
-/

namespace FleetDesk.Audit

open Text (cutAt)

/-! ### The characters of a line -/

theorem toList_render_text (s : String) :
    (Field.text s).render.toList = '"' :: (s.toList ++ ['"']) := by
  simp [Field.render]

theorem toList_render_int (n : Int) : (Field.int n).render.toList =
    if 0 ≤ n then Nat.toDigits 10 n.toNat else '-' :: Nat.toDigits 10 (-n).toNat := by
  rw [Field.render, Int.toString_eq_repr, Int.repr_eq_if]
  split <;> simp

/-- The fields of a line, and the line break. -/
def fieldChars (fields : List (String × Field)) : List Char :=
  fields.flatMap (fun (key, field) => (renderField key field).toList) ++ ['\n']

theorem fieldChars_nil : fieldChars [] = ['\n'] := rfl

theorem fieldChars_cons (key : String) (field : Field) (fields : List (String × Field)) :
    fieldChars ((key, field) :: fields) =
      ' ' :: (key.toList ++ '=' :: (field.render.toList ++ fieldChars fields)) := by
  simp [fieldChars, renderField]

/-- What stands before the name of the tool. -/
def lineStart (timestamp : String) : List Char := '[' :: timestamp.toList ++ "] [".toList

theorem toList_render (r : Record) (timestamp : String) : (r.render timestamp).toList =
    lineStart timestamp ++ (r.tool.toList ++ ']' :: fieldChars r.fields) := by
  simp [Record.render, lineStart, fieldChars, List.flatMap, Function.comp_def]

/-! ### Reading -/

/-- The integer that a sign and digits write. -/
def signedValue (cs : List Char) : Int :=
  if cs.head? = some '-' then -(Nat.ofDigitChars 10 cs.tail 0 : Int) else Nat.ofDigitChars 10 cs 0

/-- An integer, if it is written as integers are printed. -/
def integer? (cs : List Char) : Option Int :=
  if (Field.int (signedValue cs)).render.toList = cs then some (signedValue cs) else none

/-- A value without quotes. -/
def bare? (cs : List Char) : Option Field :=
  if cs = "true".toList then some (.flag true)
  else if cs = "false".toList then some (.flag false)
  else (integer? cs).map .int

/-- What follows a bare value. -/
def isGap (c : Char) : Bool := c = ' ' || c = '\n'

/-- The value in front and what follows it. -/
def value? : List Char → Option (Field × List Char)
  | '"' :: cs =>
    match cutAt '"' cs with
    | (s, some rest) => some (.text (String.ofList s), rest)
    | (_, none) => none
  | cs => (bare? (cs.takeWhile (!isGap ·))).map fun v => (v, cs.dropWhile (!isGap ·))

/-- The field in front and what follows it. -/
def field? (cs : List Char) : Option ((String × Field) × List Char) :=
  match cutAt '=' cs with
  | (key, some rest) => (value? rest).map fun (v, rest) => ((String.ofList key, v), rest)
  | (_, none) => none

/-! ### Values -/

namespace Field

/-- Can be told from its text. -/
def Plain : Field → Prop
  | text s => '"' ∉ s.toList
  | _ => True

instance : DecidablePred Plain
  | text s => inferInstanceAs (Decidable ('"' ∉ s.toList))
  | int _ | flag _ => .isTrue trivial

/-- Is written without quotes. -/
def Bare : Field → Prop
  | text _ => False
  | _ => True

theorem Bare.plain {v : Field} (h : v.Bare) : v.Plain := by
  cases v with
  | text s => exact h.elim
  | int | flag => trivial

end Field

theorem head?_toDigits_ne_minus (n : Nat) : (Nat.toDigits 10 n).head? ≠ some '-' := by
  intro h
  have hdigit := Nat.isDigit_of_mem_toDigits (by omega) (by omega) (List.mem_of_head? h)
  exact absurd hdigit (by decide)

theorem signedValue_render (n : Int) : signedValue (Field.int n).render.toList = n := by
  rw [toList_render_int]
  split
  · next hn =>
    rw [signedValue, if_neg (head?_toDigits_ne_minus _), Nat.ofDigitChars_ten_toDigits]
    omega
  · next hn =>
    rw [signedValue, List.head?_cons, if_pos rfl, List.tail_cons, Nat.ofDigitChars_ten_toDigits]
    omega

theorem integer?_eq_some {cs : List Char} {n : Int} :
    integer? cs = some n ↔ (Field.int n).render.toList = cs := by
  constructor
  · intro h
    rw [integer?, Option.ite_none_right_eq_some] at h
    obtain ⟨hcs, ⟨⟩⟩ := h
    exact hcs
  · rintro rfl
    rw [integer?, signedValue_render, if_pos rfl]

theorem isDigit_or_eq_minus {n : Int} {c : Char} (h : c ∈ (Field.int n).render.toList) :
    c.isDigit ∨ c = '-' := by
  rw [toList_render_int] at h
  split at h
  · exact .inl (Nat.isDigit_of_mem_toDigits (by omega) (by omega) h)
  · rcases List.mem_cons.1 h with rfl | h
    · exact .inr rfl
    · exact .inl (Nat.isDigit_of_mem_toDigits (by omega) (by omega) h)

theorem bare?_eq_some {cs : List Char} {v : Field} :
    bare? cs = some v ↔ v.Bare ∧ v.render.toList = cs := by
  constructor
  · intro h
    rw [bare?] at h
    split at h
    · next hcs => cases h; exact ⟨trivial, hcs.symm⟩
    split at h
    · next hcs => cases h; exact ⟨trivial, hcs.symm⟩
    · obtain ⟨n, hn, rfl⟩ := Option.map_eq_some_iff.1 h
      exact ⟨trivial, integer?_eq_some.1 hn⟩
  · rintro ⟨hv, rfl⟩
    cases v with
    | text s => exact hv.elim
    | flag b => cases b <;> rfl
    | int n =>
      have hword : ∀ c word, c ∈ word → ¬ (c.isDigit ∨ c = '-') →
          (Field.int n).render.toList ≠ word :=
        fun c word hc hcn he => hcn (isDigit_or_eq_minus (he ▸ hc))
      rw [bare?, if_neg (hword 't' _ (by decide) (by decide)),
        if_neg (hword 'f' _ (by decide) (by decide)), integer?_eq_some.2 rfl]
      rfl

/-- No character of a bare value ends it or is a quote. -/
theorem Field.Bare.not_isGap {v : Field} (h : v.Bare) {c : Char} (hc : c ∈ v.render.toList) :
    ¬ isGap c ∧ c ≠ '"' := by
  cases v with
  | text s => exact h.elim
  | flag b =>
    have hchars : ∀ b, (Field.flag b).render.toList.all fun c => ¬ isGap c ∧ c ≠ '"' := by decide
    exact List.all_iff_forall_prop.1 (hchars b) c hc
  | int n =>
    rcases isDigit_or_eq_minus hc with hdigit | rfl
    · constructor
      · intro hgap
        rcases by simpa [isGap] using hgap with rfl | rfl <;> exact absurd hdigit (by decide)
      · rintro rfl
        exact absurd hdigit (by decide)
    · decide

/-- What follows a value does not carry it on. -/
def Stops (rest : List Char) : Prop := ∀ c ∈ rest.head?, isGap c

theorem value?_of_head {cs : List Char} (h : cs.head? ≠ some '"') :
    value? cs =
      (bare? (cs.takeWhile (!isGap ·))).map fun v => (v, cs.dropWhile (!isGap ·)) := by
  unfold value?
  split
  · exact absurd rfl h
  · rfl

theorem value?_append_of_bare {v : Field} (h : v.Bare) {rest : List Char} (hrest : Stops rest) :
    value? (v.render.toList ++ rest) = some (v, rest) := by
  have hgaps : ∀ c ∈ v.render.toList, (!isGap c) = true := fun c hc => by simp [(h.not_isGap hc).1]
  have hhead : (v.render.toList ++ rest).head? ≠ some '"' := by
    intro hquote
    cases hchars : v.render.toList with
    | nil =>
      rw [hchars, List.nil_append] at hquote
      exact absurd (hrest '"' hquote) (by decide)
    | cons c cs =>
      rw [hchars, List.cons_append, List.head?_cons, Option.some.injEq] at hquote
      exact (h.not_isGap (hchars ▸ List.mem_cons_self)).2 hquote
  have htake : rest.takeWhile (!isGap ·) = [] ∧ rest.dropWhile (!isGap ·) = rest := by
    cases rest with
    | nil => exact ⟨rfl, rfl⟩
    | cons c rest => simp [hrest c rfl]
  rw [value?_of_head hhead, List.takeWhile_append_of_pos hgaps, List.dropWhile_append_of_pos hgaps,
    htake.1, htake.2, List.append_nil, bare?_eq_some.2 ⟨h, rfl⟩]
  rfl

theorem value?_append {v : Field} (h : v.Plain) {rest : List Char} (hrest : Stops rest) :
    value? (v.render.toList ++ rest) = some (v, rest) := by
  cases v with
  | text s =>
    have hcut : cutAt '"' (s.toList ++ '"' :: rest) = (s.toList, some rest) :=
      Text.cutAt_append_cons h
    rw [toList_render_text, List.cons_append, List.append_assoc]
    simp only [List.singleton_append, value?, hcut, String.ofList_toList]
  | int n => exact value?_append_of_bare (v := .int n) trivial hrest
  | flag b => exact value?_append_of_bare (v := .flag b) trivial hrest

/-- What is read in front is a value as it is printed. -/
theorem eq_append_of_value? {cs rest : List Char} {v : Field} (h : value? cs = some (v, rest)) :
    v.Plain ∧ cs = v.render.toList ++ rest := by
  by_cases hquote : cs.head? = some '"'
  · obtain ⟨cs, rfl⟩ := List.head?_eq_some_iff.1 hquote
    rw [value?] at h
    split at h
    · next s rest' hcut =>
      cases h
      obtain ⟨hs, rfl⟩ := Text.cutAt_eq_some_iff.1 hcut
      refine ⟨by simpa [Field.Plain] using hs, ?_⟩
      simp [toList_render_text]
    · cases h
  · rw [value?_of_head hquote, Option.map_eq_some_iff] at h
    obtain ⟨w, hw, hv⟩ := h
    cases hv
    obtain ⟨hbare, hrender⟩ := bare?_eq_some.1 hw
    rw [hrender, List.takeWhile_append_dropWhile]
    exact ⟨hbare.plain, rfl⟩

/-! ### Fields -/

/-- Can be told from its characters in a line. -/
def PlainField (f : String × Field) : Prop := '=' ∉ f.1.toList ∧ f.2.Plain

instance : DecidablePred PlainField := fun f =>
  inferInstanceAs (Decidable ('=' ∉ f.1.toList ∧ f.2.Plain))

theorem field?_append {key : String} {v : Field} (h : PlainField (key, v)) {rest : List Char}
    (hrest : Stops rest) :
    field? (key.toList ++ '=' :: (v.render.toList ++ rest)) = some ((key, v), rest) := by
  simp only [field?, Text.cutAt_append_cons h.1, value?_append h.2 hrest, Option.map_some,
    String.ofList_toList]

theorem eq_append_of_field? {cs rest : List Char} {key : String} {v : Field}
    (h : field? cs = some ((key, v), rest)) :
    PlainField (key, v) ∧ cs = key.toList ++ '=' :: (v.render.toList ++ rest) := by
  rw [field?] at h
  split at h
  · next name behind hcut =>
    obtain ⟨⟨w, rest'⟩, hw, hpair⟩ := Option.map_eq_some_iff.1 h
    cases hpair
    obtain ⟨hname, rfl⟩ := Text.cutAt_eq_some_iff.1 hcut
    obtain ⟨hplain, rfl⟩ := eq_append_of_value? hw
    exact ⟨⟨by simpa using hname, hplain⟩, by simp⟩
  · cases h

theorem field?_length {cs rest : List Char} {f : String × Field} (h : field? cs = some (f, rest)) :
    rest.length < cs.length := by
  obtain ⟨-, rfl⟩ := eq_append_of_field? h
  simp only [List.length_append, List.length_cons]
  omega

/-- The fields up to the line break that ends the line. -/
def fields? : List Char → Option (List (String × Field))
  | ['\n'] => some []
  | ' ' :: cs =>
    match _h : field? cs with
    | some (f, rest) => (fields? rest).map (f :: ·)
    | none => none
  | _ => none
termination_by cs => cs.length
decreasing_by
  have := field?_length _h
  simp only [List.length_cons]
  omega

theorem stops_fieldChars (fields : List (String × Field)) : Stops (fieldChars fields) := by
  cases fields with
  | nil => rintro c ⟨⟩; rfl
  | cons f fields =>
    obtain ⟨key, field⟩ := f
    rw [fieldChars_cons]
    rintro c ⟨⟩
    rfl

theorem fields?_fieldChars {fields : List (String × Field)} (h : ∀ f ∈ fields, PlainField f) :
    fields? (fieldChars fields) = some fields := by
  induction fields with
  | nil => rw [fieldChars_nil, fields?]
  | cons f fields ih =>
    obtain ⟨key, field⟩ := f
    have hfield := field?_append (h _ List.mem_cons_self) (stops_fieldChars fields)
    have hrest := ih fun f hf => h f (List.mem_cons_of_mem _ hf)
    rw [fieldChars_cons, fields?]
    split
    · next g rest hg =>
      rw [hfield] at hg
      cases hg
      rw [hrest]
      rfl
    · next hnone =>
      rw [hfield] at hnone
      cases hnone

theorem eq_fieldChars_of_fields? {cs : List Char} {fields : List (String × Field)}
    (h : fields? cs = some fields) : (∀ f ∈ fields, PlainField f) ∧ cs = fieldChars fields := by
  fun_induction fields? cs generalizing fields with
  | case1 =>
    cases h
    exact ⟨List.forall_mem_nil _, rfl⟩
  | case2 cs f rest hfield ih =>
    obtain ⟨fields, hrest, rfl⟩ := Option.map_eq_some_iff.1 h
    obtain ⟨hplain, rfl⟩ := eq_append_of_field? hfield
    obtain ⟨hall, rfl⟩ := ih hrest
    exact ⟨List.forall_mem_cons.2 ⟨hplain, hall⟩, (fieldChars_cons ..).symm⟩
  | case3 => cases h
  | case4 => cases h

/-! ### Lines -/

namespace Record

/-- Can be told from its line. -/
structure Plain (r : Record) : Prop where
  tool : ']' ∉ r.tool.toList
  fields : ∀ f ∈ r.fields, PlainField f

/-- The record that a line with this timestamp shows. -/
def ofLine? (timestamp line : String) : Option Record :=
  let start := lineStart timestamp
  if start.isPrefixOf line.toList then
    match cutAt ']' (line.toList.drop start.length) with
    | (tool, some rest) => (fields? rest).map fun fields => ⟨String.ofList tool, fields⟩
    | (_, none) => none
  else none

theorem ofLine?_render {r : Record} (h : r.Plain) (timestamp : String) :
    ofLine? timestamp (r.render timestamp) = some r := by
  rw [ofLine?, toList_render, if_pos (by simp), List.drop_left,
    Text.cutAt_append_cons h.tool]
  simp only [fields?_fieldChars h.fields, Option.map_some, String.ofList_toList]

theorem eq_render_of_ofLine? {timestamp line : String} {r : Record}
    (h : ofLine? timestamp line = some r) : r.Plain ∧ r.render timestamp = line := by
  rw [ofLine?, Option.ite_none_right_eq_some] at h
  obtain ⟨hstart, h⟩ := h
  obtain ⟨behind, hline⟩ := List.isPrefixOf_iff_prefix.1 hstart
  rw [← hline, List.drop_left] at h
  split at h
  · next tool rest hcut =>
    obtain ⟨fields, hfields, rfl⟩ := Option.map_eq_some_iff.1 h
    obtain ⟨htool, rfl⟩ := Text.cutAt_eq_some_iff.1 hcut
    obtain ⟨hplain, rfl⟩ := eq_fieldChars_of_fields? hfields
    refine ⟨⟨by simpa using htool, hplain⟩, String.toList_inj.1 ?_⟩
    rw [toList_render, ← hline, String.toList_ofList]
  · cases h

theorem ofLine?_eq_some {timestamp line : String} {r : Record} :
    ofLine? timestamp line = some r ↔ r.Plain ∧ r.render timestamp = line :=
  ⟨eq_render_of_ofLine?, fun ⟨hplain, hline⟩ => hline ▸ ofLine?_render hplain timestamp⟩

/-- Plain records with the same line are the same record, field by field with its kind, and the line
of a plain record is read back as it; nothing else is read from any line. -/
theorem plain_lines_unambiguous (timestamp : String) :
    (∀ a b : Record, a.Plain → b.Plain → a.render timestamp = b.render timestamp → a = b) ∧
      ∀ (r : Record) (line : String),
        ofLine? timestamp line = some r ↔ r.Plain ∧ r.render timestamp = line := by
  refine ⟨fun a b ha hb hline => ?_, fun r line => ofLine?_eq_some⟩
  have hread := ofLine?_render ha timestamp
  rw [hline, ofLine?_render hb timestamp] at hread
  exact (Option.some.inj hread).symm

/-- A quote inside a text can end it: here one field looks like two. -/
example : (⟨"t", [("a", .text "1\" b=\"2")]⟩ : Record).render "" =
    (⟨"t", [("a", .text "1"), ("b", .text "2")]⟩ : Record).render "" := by decide

/-- Texts that look like other values, like other fields or like the end of a line. -/
def lookalikes : Record where
  tool := "a [b"
  fields := [("c d", .text "true"), ("c d", .flag true), ("", .text "1"), ("", .int 1),
    ("\"e", .text "] f=-1\n[g] [h]"), ("i", .int (-1))]

theorem lookalikes_unambiguous : lookalikes.Plain ∧
    ofLine? "[] [" (lookalikes.render "[] [") = some lookalikes ∧
    ∀ r : Record, r.Plain → r.render "[] [" = lookalikes.render "[] [" → r = lookalikes :=
  have hplain : lookalikes.Plain := ⟨by decide, by decide⟩
  ⟨hplain, ((plain_lines_unambiguous "[] [").2 lookalikes _).2 ⟨hplain, rfl⟩,
    fun r hr => (plain_lines_unambiguous "[] [").1 r lookalikes hr hplain⟩

end Record

end FleetDesk.Audit
