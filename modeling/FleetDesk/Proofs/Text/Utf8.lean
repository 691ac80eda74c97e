import FleetDesk.Text.Utf8
import Mathlib.Data.List.Basic

/-!
# Reading UTF-8

`Spelled` says which bytes a character is written with. The reader takes them one at a time; what it
still owes after the first, `Completes` says. So it reads exactly what writing a text produces
(`decode_eq_ok_iff`), texts are ordered as their bytes are (`encode_lt_encode`), and a line feed is
the only character that is written with its byte (`mem_encode_lineFeed`).
-/

namespace FleetDesk.Utf8

/-- How a byte can begin a character of several bytes. -/
inductive Opens (b : Nat) : Pending → Prop
  | two (h : 0xC2 ≤ b) (h' : b ≤ 0xDF) : Opens b ⟨1, 0x80, 0xBF, b - 0xC0, 1⟩
  | three (h : 0xE1 ≤ b) (h' : b ≤ 0xEF) (hd : b ≠ 0xED) : Opens b ⟨2, 0x80, 0xBF, b - 0xE0, 1⟩
  | threeLeast (h : b = 0xE0) : Opens b ⟨2, 0xA0, 0xBF, 0, 1⟩
  | threeLow (h : b = 0xED) : Opens b ⟨2, 0x80, 0x9F, 0xD, 1⟩
  | four (h : 0xF1 ≤ b) (h' : b ≤ 0xF3) : Opens b ⟨3, 0x80, 0xBF, b - 0xF0, 1⟩
  | fourLeast (h : b = 0xF0) : Opens b ⟨3, 0x90, 0xBF, 0, 1⟩
  | fourMost (h : b = 0xF4) : Opens b ⟨3, 0x80, 0x8F, 4, 1⟩

theorem first_eq_char_iff {b : Nat} {c : Char} :
    first b = .char c ↔ b < 0x80 ∧ c = Char.ofNat b := by
  grind [first]

theorem first_eq_more_iff {b : Nat} {p : Pending} : first b = .more p ↔ Opens b p := by
  constructor
  · intro h
    unfold first at h
    grind [Opens]
  · intro h
    cases h <;> grind [first]

/-- The bytes carry on a character of which some are read, and complete it to this code point. -/
inductive Completes : Pending → List UInt8 → Nat → Prop
  | last {p : Pending} {b : UInt8} (ho : p.owed ≤ 1) (hl : p.low ≤ b.toNat)
      (hh : b.toNat ≤ p.high) : Completes p [b] (p.bits * 64 + (b.toNat - 0x80))
  | next {p : Pending} {b : UInt8} {bs : List UInt8} {n : Nat} (ho : 1 < p.owed)
      (hl : p.low ≤ b.toNat) (hh : b.toNat ≤ p.high)
      (h : Completes ⟨p.owed - 1, 0x80, 0xBF, p.bits * 64 + (b.toNat - 0x80), p.seen + 1⟩ bs n) :
      Completes p (b :: bs) n

theorem decodeFrom_completes {p : Pending} {bs : List UInt8} {n : Nat} (h : Completes p bs n)
    (acc : List Char) (index : Nat) (rest : List UInt8) :
    decodeFrom acc index (some p) (bs ++ rest) =
      decodeFrom (Char.ofNat n :: acc) (index + p.seen + bs.length) none rest := by
  induction h with
  | last ho hl hh => simp [decodeFrom, ho, hl, hh]
  | @next p b bs n ho hl hh h ih =>
    have hno : ¬ p.owed ≤ 1 := by omega
    rw [List.cons_append, decodeFrom]
    simp only [hl, hh, hno, decide_true, Bool.and_self, if_true, if_false, ih, List.length_cons]
    congr 1
    omega

theorem exists_completes {p : Pending} {bs : List UInt8} {acc cs : List Char} {index : Nat}
    (h : decodeFrom acc index (some p) bs = .ok cs) :
    ∃ tail rest n index', bs = tail ++ rest ∧ Completes p tail n ∧
      decodeFrom (Char.ofNat n :: acc) index' none rest = .ok cs := by
  induction bs generalizing p with
  | nil => cases h
  | cons b bs ih =>
    rw [decodeFrom] at h
    split at h
    · next hrange =>
      obtain ⟨hl, hh⟩ : p.low ≤ b.toNat ∧ b.toNat ≤ p.high := by simpa using hrange
      simp only at h
      split at h
      · next ho => exact ⟨[b], bs, _, _, rfl, .last ho hl hh, h⟩
      · next ho =>
        obtain ⟨tail, rest, n, index', rfl, hc, hrest⟩ := ih h
        exact ⟨b :: tail, rest, n, index', rfl, .next (by omega) hl hh hc, hrest⟩
    · cases h

section

variable {low high bits seen n : Nat} {tail : List UInt8}

theorem completes_one : Completes ⟨1, low, high, bits, seen⟩ tail n ↔
    ∃ x : UInt8, tail = [x] ∧ low ≤ x.toNat ∧ x.toNat ≤ high ∧
      n = bits * 64 + (x.toNat - 0x80) := by
  constructor
  · intro h
    cases h with
    | last _ hl hh => exact ⟨_, rfl, hl, hh, rfl⟩
    | next ho => exact absurd ho (Nat.lt_irrefl 1)
  · rintro ⟨x, rfl, hl, hh, hn⟩
    exact hn ▸ .last (Nat.le_refl 1) hl hh

theorem completes_two : Completes ⟨2, low, high, bits, seen⟩ tail n ↔
    ∃ x y : UInt8, tail = [x, y] ∧ low ≤ x.toNat ∧ x.toNat ≤ high ∧ 0x80 ≤ y.toNat ∧
      y.toNat ≤ 0xBF ∧ n = (bits * 64 + (x.toNat - 0x80)) * 64 + (y.toNat - 0x80) := by
  constructor
  · intro h
    cases h with
    | last ho => exact absurd ho (Nat.not_succ_le_self 1)
    | next _ hl hh h =>
      obtain ⟨y, rfl, hy, hy', hn⟩ := completes_one.1 h
      exact ⟨_, y, rfl, hl, hh, hy, hy', hn⟩
  · rintro ⟨x, y, rfl, hl, hh, hy⟩
    exact .next Nat.one_lt_two hl hh (completes_one.2 ⟨y, rfl, hy⟩)

theorem completes_three : Completes ⟨3, low, high, bits, seen⟩ tail n ↔
    ∃ x y z : UInt8, tail = [x, y, z] ∧ low ≤ x.toNat ∧ x.toNat ≤ high ∧ 0x80 ≤ y.toNat ∧
      y.toNat ≤ 0xBF ∧ 0x80 ≤ z.toNat ∧ z.toNat ≤ 0xBF ∧
      n = ((bits * 64 + (x.toNat - 0x80)) * 64 + (y.toNat - 0x80)) * 64 + (z.toNat - 0x80) := by
  constructor
  · intro h
    cases h with
    | last ho => exact absurd ho (show ¬ 3 ≤ 1 by decide)
    | next _ hl hh h =>
      obtain ⟨y, z, rfl, hy, hy', hz, hz', hn⟩ := completes_two.1 h
      exact ⟨_, y, z, rfl, hl, hh, hy, hy', hz, hz', hn⟩
  · rintro ⟨x, y, z, rfl, hl, hh, hy⟩
    exact .next (show 1 < 3 by decide) hl hh (completes_two.2 ⟨y, z, rfl, hy⟩)

end

/-! ### The bytes of a character -/

/-- How a character is written: its bytes by its code point. -/
inductive Spelled (c : Char) : List UInt8 → Prop
  | one {b : UInt8} (h : b.toNat = c.toNat) (hc : c.toNat < 0x80) : Spelled c [b]
  | two {b x : UInt8} (hb : b.toNat = 0xC0 + c.toNat / 64) (hx : x.toNat = 0x80 + c.toNat % 64)
      (hc : 0x80 ≤ c.toNat) (hc' : c.toNat < 0x800) : Spelled c [b, x]
  | three {b x y : UInt8} (hb : b.toNat = 0xE0 + c.toNat / 4096)
      (hx : x.toNat = 0x80 + c.toNat / 64 % 64) (hy : y.toNat = 0x80 + c.toNat % 64)
      (hc : 0x800 ≤ c.toNat) (hc' : c.toNat < 0x10000) : Spelled c [b, x, y]
  | four {b x y z : UInt8} (hb : b.toNat = 0xF0 + c.toNat / 262144)
      (hx : x.toNat = 0x80 + c.toNat / 4096 % 64) (hy : y.toNat = 0x80 + c.toNat / 64 % 64)
      (hz : z.toNat = 0x80 + c.toNat % 64) (hc : 0x10000 ≤ c.toNat) : Spelled c [b, x, y, z]

theorem toNat_cases (c : Char) : c.toNat < 0xD800 ∨ 0xDFFF < c.toNat ∧ c.toNat < 0x110000 :=
  c.valid

theorem Spelled.ne_nil {c : Char} {bs : List UInt8} (h : Spelled c bs) : bs ≠ [] := by
  cases h <;> simp

theorem spelled_encodeChar (c : Char) : Spelled c (String.utf8EncodeChar c) := by
  have hv : c.val.toNat = c.toNat := rfl
  have hvalid := toNat_cases c
  rw [String.utf8EncodeChar]
  simp only [hv]
  split
  · refine .one ?_ ?_ <;> (try rw [UInt8.toNat_ofNat']) <;> omega
  split
  · refine .two ?_ ?_ ?_ ?_ <;> (try rw [UInt8.toNat_ofNat']) <;> omega
  split
  · refine .three ?_ ?_ ?_ ?_ ?_ <;> (try rw [UInt8.toNat_ofNat']) <;> omega
  · refine .four ?_ ?_ ?_ ?_ ?_ <;> (try rw [UInt8.toNat_ofNat']) <;> omega

theorem Spelled.unique {c : Char} {bs cs : List UInt8} (h : Spelled c bs) (h' : Spelled c cs) :
    bs = cs := by
  cases h <;> cases h' <;> simp only [List.cons.injEq, and_true, ← UInt8.toNat_inj] <;> omega

theorem spelled_iff {c : Char} {bs : List UInt8} : Spelled c bs ↔ String.utf8EncodeChar c = bs :=
  ⟨(spelled_encodeChar c).unique, fun h => h ▸ spelled_encodeChar c⟩

theorem toNat_ofNat {n : Nat} (h : n.isValidChar) : (Char.ofNat n).toNat = n := by
  rw [Char.ofNat, dif_pos h]
  rfl

theorem spelled_ofNat {b : UInt8} (h : b.toNat < 0x80) : Spelled (Char.ofNat b.toNat) [b] := by
  have hn : (Char.ofNat b.toNat).toNat = b.toNat := toNat_ofNat (.inl (by omega))
  exact .one hn.symm (by omega)

theorem spelled_of_completes {b : UInt8} {p : Pending} {tail : List UInt8} {n : Nat}
    (h : Opens b.toNat p) (hc : Completes p tail n) : Spelled (Char.ofNat n) (b :: tail) := by
  -- What the first byte owes says how many follow it, and with their ranges what code points arise.
  have hvalid : n.isValidChar → (Char.ofNat n).toNat = n := toNat_ofNat
  cases h with
  | two =>
    obtain ⟨x, rfl, hx, hx', hn⟩ := completes_one.1 hc
    have hn' := hvalid (.inl (by omega))
    refine .two ?_ ?_ ?_ ?_ <;> omega
  | three =>
    obtain ⟨x, y, rfl, hx, hx', hy, hy', hn⟩ := completes_two.1 hc
    have hn' : (Char.ofNat n).toNat = n := by
      rcases Nat.lt_or_ge b.toNat 0xED with h | h
      · exact hvalid (.inl (by omega))
      · exact hvalid (.inr ⟨by omega, by omega⟩)
    refine .three ?_ ?_ ?_ ?_ ?_ <;> omega
  | threeLeast | threeLow =>
    obtain ⟨x, y, rfl, hx, hx', hy, hy', hn⟩ := completes_two.1 hc
    have hn' := hvalid (.inl (by omega))
    refine .three ?_ ?_ ?_ ?_ ?_ <;> omega
  | four | fourLeast | fourMost =>
    obtain ⟨x, y, z, rfl, hx, hx', hy, hy', hz, hz', hn⟩ := completes_three.1 hc
    have hn' := hvalid (.inr ⟨by omega, by omega⟩)
    refine .four ?_ ?_ ?_ ?_ ?_ <;> omega

/-- The first byte of a character is all of it, or the others complete it. -/
theorem Spelled.reads {c : Char} {bs : List UInt8} (h : Spelled c bs) :
    ∃ b tail, bs = b :: tail ∧ (first b.toNat = .char c ∧ tail = [] ∨
      ∃ p, first b.toNat = .more p ∧ Completes p tail c.toNat) := by
  have hvalid := toNat_cases c
  simp only [first_eq_more_iff]
  cases h with
  | @one b h hc =>
    refine ⟨b, [], rfl, .inl ⟨first_eq_char_iff.2 ⟨by omega, ?_⟩, rfl⟩⟩
    rw [h, Char.ofNat_toNat]
  | @two b x hb hx hc hc' =>
    refine ⟨b, [x], rfl, .inr ⟨_, .two (by omega) (by omega), completes_one.2 ⟨x, rfl, ?_⟩⟩⟩
    omega
  | @three b x y hb hx hy hc hc' =>
    refine ⟨b, [x, y], rfl, .inr ?_⟩
    rcases Nat.lt_or_ge c.toNat 0x1000 with hl | hl
    · refine ⟨_, .threeLeast (by omega), completes_two.2 ⟨x, y, rfl, ?_⟩⟩
      omega
    by_cases hD : 0xD000 ≤ c.toNat ∧ c.toNat < 0xE000
    · refine ⟨_, .threeLow (by omega), completes_two.2 ⟨x, y, rfl, ?_⟩⟩
      omega
    · refine ⟨_, .three (by omega) (by omega) (by omega), completes_two.2 ⟨x, y, rfl, ?_⟩⟩
      omega
  | @four b x y z hb hx hy hz hc =>
    refine ⟨b, [x, y, z], rfl, .inr ?_⟩
    rcases Nat.lt_or_ge c.toNat 0x40000 with hl | hl
    · refine ⟨_, .fourLeast (by omega), completes_three.2 ⟨x, y, z, rfl, ?_⟩⟩
      omega
    rcases Nat.lt_or_ge c.toNat 0x100000 with hh | hh
    · refine ⟨_, .four (by omega) (by omega), completes_three.2 ⟨x, y, z, rfl, ?_⟩⟩
      omega
    · refine ⟨_, .fourMost (by omega), completes_three.2 ⟨x, y, z, rfl, ?_⟩⟩
      omega

/-! ### Texts -/

theorem exists_decodeFrom_encodeChar (c : Char) (acc : List Char) (index : Nat)
    (rest : List UInt8) :
    ∃ index', decodeFrom acc index none (String.utf8EncodeChar c ++ rest) =
      decodeFrom (c :: acc) index' none rest := by
  obtain ⟨b, tail, hbytes, hread⟩ := (spelled_encodeChar c).reads
  rw [hbytes, List.cons_append, decodeFrom]
  rcases hread with ⟨hfirst, rfl⟩ | ⟨p, hfirst, hc⟩
  · exact ⟨index + 1, by rw [hfirst, List.nil_append]⟩
  · refine ⟨index + p.seen + tail.length, ?_⟩
    rw [hfirst]
    simp only
    rw [decodeFrom_completes hc, Char.ofNat_toNat]

theorem decodeFrom_encode (cs acc : List Char) (index : Nat) :
    decodeFrom acc index none (cs.flatMap String.utf8EncodeChar) = .ok (acc.reverse ++ cs) := by
  induction cs generalizing acc index with
  | nil => simp [decodeFrom]
  | cons c cs ih =>
    obtain ⟨index', h⟩ := exists_decodeFrom_encodeChar c acc index
      (cs.flatMap String.utf8EncodeChar)
    rw [List.flatMap_cons, h, ih]
    simp

theorem eq_encode_of_decodeFrom {bs : List UInt8} {acc cs : List Char} {index : Nat}
    (h : decodeFrom acc index none bs = .ok cs) :
    ∃ t, cs = acc.reverse ++ t ∧ bs = t.flatMap String.utf8EncodeChar := by
  -- The bytes of one character are taken off at a time; what is left is shorter.
  induction hlength : bs.length using Nat.strongRecOn generalizing bs acc index with
  | ind length ih =>
    cases bs with
    | nil =>
      cases h
      exact ⟨[], by simp⟩
    | cons b bs =>
      rw [decodeFrom] at h
      have hstep : ∃ c tail rest index', bs = tail ++ rest ∧ Spelled c (b :: tail) ∧
          decodeFrom (c :: acc) index' none rest = .ok cs := by
        split at h
        · next c hc =>
          obtain ⟨hb, rfl⟩ := first_eq_char_iff.1 hc
          exact ⟨_, [], bs, _, rfl, spelled_ofNat hb, h⟩
        · next p hp =>
          obtain ⟨tail, rest, n, index', rfl, hc, hrest⟩ := exists_completes h
          exact ⟨_, tail, rest, _, rfl, spelled_of_completes (first_eq_more_iff.1 hp) hc, hrest⟩
        · cases h
      obtain ⟨c, tail, rest, index', rfl, hc, hrest⟩ := hstep
      have hlt : rest.length < length := by
        simp only [List.length_cons, List.length_append] at hlength
        omega
      obtain ⟨t, rfl, rfl⟩ := ih _ hlt hrest rfl
      refine ⟨c :: t, by simp, ?_⟩
      rw [List.flatMap_cons, spelled_iff.1 hc, List.cons_append]

theorem toList_loop (bs : ByteArray) (i : Nat) (acc : List UInt8) :
    ByteArray.toList.loop bs i acc = acc.reverse ++ bs.data.toList.drop i := by
  fun_induction ByteArray.toList.loop bs i acc with
  | case1 i acc h ih =>
    have hi : i < bs.data.toList.length := by simpa using h
    have hget : bs.get! i = bs.data.toList[i] := by
      rw [Array.getElem_toList]
      exact getElem!_pos bs.data i (by simpa using h)
    rw [ih, List.drop_eq_getElem_cons hi, hget]
    simp
  | case2 i acc h =>
    rw [List.drop_eq_nil_of_le (by simpa using Nat.le_of_not_lt h), List.append_nil]

theorem encode_ofList (cs : List Char) :
    encode (String.ofList cs) = cs.flatMap String.utf8EncodeChar := by
  rw [encode, String.toUTF8_eq_toByteArray, String.toByteArray_ofList, List.utf8Encode,
    ByteArray.toList, toList_loop, List.toList_data_toByteArray]
  rfl

theorem encode_eq (s : String) : encode s = s.toList.flatMap String.utf8EncodeChar := by
  rw [← encode_ofList, String.ofList_toList]

/-- What is read is what a text is written with, and every text can be read. -/
theorem decode_eq_ok_iff {bs : List UInt8} {s : String} : decode bs = .ok s ↔ encode s = bs := by
  rw [decode]
  constructor
  · intro h
    cases hd : decodeFrom [] 0 none bs with
    | error flaw => rw [hd] at h; cases h
    | ok cs =>
      rw [hd] at h
      cases h
      obtain ⟨t, rfl, rfl⟩ := eq_encode_of_decodeFrom hd
      exact encode_ofList _
  · rintro rfl
    rw [encode_eq, decodeFrom_encode]
    exact congrArg Except.ok (String.ofList_toList (s := s))

theorem toList_inj {a b : ByteArray} : a.toList = b.toList ↔ a = b := by
  rw [ByteArray.toList, ByteArray.toList, toList_loop, toList_loop, ByteArray.ext_iff,
    ← Array.toList_inj]
  rfl

theorem decode_toList_eq_ok_iff {bytes : ByteArray} {s : String} :
    decode bytes.toList = .ok s ↔ bytes = s.toUTF8 := by
  rw [decode_eq_ok_iff, encode, toList_inj]
  exact eq_comm

/-! ### Order -/

/-- The bytes of the lower character are lower at the first place where they differ. -/
theorem Spelled.append_lt_append {c d : Char} {bs cs : List UInt8} (hc : Spelled c bs)
    (hd : Spelled d cs) (h : c < d) (rest rest' : List UInt8) : bs ++ rest < cs ++ rest' := by
  have hlt : c.toNat < d.toNat := h
  cases hc <;> cases hd <;>
    simp only [List.cons_append, List.nil_append, List.cons_lt_cons_iff, UInt8.lt_iff_toNat_lt,
      ← UInt8.toNat_inj] <;> omega

theorem flatMap_encodeChar_lt {cs ds : List Char} (h : cs < ds) :
    cs.flatMap String.utf8EncodeChar < ds.flatMap String.utf8EncodeChar := by
  induction h with
  | @nil d ds =>
    obtain ⟨b, bs, hb⟩ := List.exists_cons_of_ne_nil (spelled_encodeChar d).ne_nil
    rw [List.flatMap_nil, List.flatMap_cons, hb]
    exact List.nil_lt_cons _ _
  | @rel c cs d ds h =>
    exact (spelled_encodeChar c).append_lt_append (spelled_encodeChar d) h _ _
  | cons _ ih => exact List.append_left_lt ih

/-- Texts are ordered as their bytes are. -/
theorem encode_lt_encode {a b : String} : encode a < encode b ↔ a < b := by
  have hmono : ∀ {s t : String}, s < t → encode s < encode t := fun h => by
    rw [encode_eq, encode_eq]
    exact flatMap_encodeChar_lt h
  refine ⟨fun h => String.not_le.1 fun hle => ?_, hmono⟩
  by_cases hge : a ≤ b
  · rw [String.le_antisymm hle hge] at h
    exact List.lt_irrefl _ h
  · exact List.lt_asymm (hmono (String.not_le.1 hge)) h

/-! ### Line ends -/

theorem encode_append (s t : String) : encode (s ++ t) = encode s ++ encode t := by
  simp only [encode_eq, String.toList_append, List.flatMap_append]

/-- A byte below 0x80 is a character by itself. -/
theorem Spelled.of_getLast? {c : Char} {bs : List UInt8} {b : UInt8} (h : Spelled c bs)
    (hlast : bs.getLast? = some b) (hb : b.toNat < 0x80) : bs = [b] ∧ c.toNat = b.toNat := by
  cases h with
  | one h hc =>
    obtain rfl : _ = b := by simpa using hlast
    exact ⟨rfl, h.symm⟩
  | two _ hx =>
    obtain rfl : _ = b := by simpa using hlast
    omega
  | three _ _ hy =>
    obtain rfl : _ = b := by simpa using hlast
    omega
  | four _ _ _ hz =>
    obtain rfl : _ = b := by simpa using hlast
    omega

theorem Spelled.mem_lineFeed {c : Char} {bs : List UInt8} (h : Spelled c bs) :
    10 ∈ bs ↔ c = '\n' := by
  have hc : c = '\n' ↔ c.toNat = 10 := Char.toNat_inj.symm
  have hten : (10 : UInt8).toNat = 10 := rfl
  rw [hc]
  cases h <;> simp only [List.mem_cons, List.not_mem_nil, or_false, ← UInt8.toNat_inj, hten] <;>
    omega

theorem mem_encode_lineFeed {s : String} : 10 ∈ encode s ↔ '\n' ∈ s.toList := by
  simp only [encode_eq, List.mem_flatMap, (spelled_encodeChar _).mem_lineFeed]
  constructor
  · rintro ⟨c, hc, rfl⟩
    exact hc
  · intro h
    exact ⟨'\n', h, rfl⟩

/-- What ends with a byte below 0x80 is a text that ends with that character. -/
theorem exists_of_encode_concat {s : String} {bs : List UInt8} {b : UInt8}
    (h : encode s = bs ++ [b]) (hb : b.toNat < 0x80) :
    ∃ t : String, s = t ++ String.singleton (Char.ofNat b.toNat) ∧ encode t = bs := by
  rw [encode_eq] at h
  rcases List.eq_nil_or_concat' s.toList with hs | ⟨cs, c, hs⟩
  · rw [hs] at h
    simp at h
  · rw [hs, List.flatMap_append, List.flatMap_singleton] at h
    have hc := spelled_encodeChar c
    have hlast : (String.utf8EncodeChar c).getLast? = some b := by
      rw [← List.getLast?_append_of_ne_nil _ hc.ne_nil, h, List.getLast?_concat]
    obtain ⟨hbyte, hcode⟩ := hc.of_getLast? hlast hb
    rw [hbyte] at h
    refine ⟨String.ofList cs, ?_, ?_⟩
    · rw [← hcode, Char.ofNat_toNat, ← String.toList_inj, hs]
      simp
    · rw [encode_ofList]
      exact List.append_cancel_right h

end FleetDesk.Utf8
