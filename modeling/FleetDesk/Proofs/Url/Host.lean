import FleetDesk.Proofs.Domain.Ascii
import FleetDesk.Proofs.Url.Reader

/-!
# The hosts of the web

The text of a host that has been read is read as that host (`stands_of_webHost`): a name in ASCII is
its own name in ASCII, and an address is written in the one form that stands for it.
-/

namespace FleetDesk.Url

/-! ### Names -/

theorem percentDecode_eq_self {bs : List UInt8} (h : 37 ∉ bs) : percentDecode bs = bs := by
  fun_induction percentDecode bs with
  | case1 => rfl
  | case2 b x y rest hb => simp_all
  | case3 b x y rest hb => simp_all
  | case4 b x y rest hb ih =>
    rw [ih fun hmem => h (List.mem_cons_of_mem b hmem)]
  | case5 b rest hfew ih =>
    rw [ih fun hmem => h (List.mem_cons_of_mem b hmem)]

theorem eq_percent_of_mem_encodeChar {c : Char} (h : 37 ∈ String.utf8EncodeChar c) : c = '%' := by
  have hspelled := Utf8.spelled_encodeChar c
  rw [← Char.toNat_inj]
  generalize String.utf8EncodeChar c = bs at h hspelled
  have hbyte {b : UInt8} (hb : 37 = b) : b.toNat = 37 := hb ▸ rfl
  -- All bytes of a character beyond ASCII are beyond ASCII.
  cases hspelled <;> simp only [List.mem_cons, List.not_mem_nil, or_false] at h
  case one hb _ =>
    exact hb.symm.trans (hbyte h)
  all_goals
    have hnumbers := h.imp hbyte (by
      first
        | exact hbyte
        | exact Or.imp hbyte hbyte
        | exact Or.imp hbyte (Or.imp hbyte hbyte))
    omega

theorem decode_percentDecode {cs : List Char} (h : '%' ∉ cs) :
    Utf8.decode (percentDecode (Utf8.encode (String.ofList cs))) = .ok (String.ofList cs) := by
  rw [percentDecode_eq_self, Utf8.decode_eq_ok_iff]
  rw [Utf8.encode_ofList]
  intro hmem
  obtain ⟨c, hc, hbyte⟩ := List.mem_flatMap.1 hmem
  exact h (eq_percent_of_mem_encodeChar hbyte ▸ hc)

theorem cutPort_append {inside : Bool} {front : List Char}
    (h : ∀ c ∈ front, (inside = false → c ≠ ':') ∧ c ≠ '[' ∧ c ≠ ']') (rest : List Char) :
    cutPort inside (front ++ rest) =
      (front ++ (cutPort inside rest).1, (cutPort inside rest).2) := by
  induction front with
  | nil => rfl
  | cons c front ih =>
    obtain ⟨⟨hcolon, hopen, hclose⟩, hfront⟩ := List.forall_mem_cons.1 h
    have hpast : ¬ ((decide (c = ':') && !inside) = true) := by
      rw [Bool.and_eq_true, decide_eq_true_eq, Bool.not_eq_true']
      exact fun hc => hcolon hc.2 hc.1
    rw [List.cons_append, cutPort, if_neg hpast]
    simp [hopen, hclose, ih hfront]

/-- A name that `webHost` has found in ASCII. -/
theorem webHost_of_ascii? {name : List Char} (hne : name ≠ [])
    (h : Domain.ascii? name = some name) : webHost name =
      if endsInNumber name then
        match address? name with
        | some n => .ok (.v4 n)
        | none => .error .badV4
      else .ok (.name (String.ofList name)) := by
  have hopen : '[' ∉ name := fun hmem => absurd (Domain.mem_ascii? h hmem).2.2 (by decide)
  have hpercent : '%' ∉ name := fun hmem => absurd (Domain.mem_ascii? h hmem).2.2 (by decide)
  unfold webHost
  split
  · exact absurd List.mem_cons_self hopen
  · rw [decode_percentDecode hpercent]
    simp only [String.toList_ofList]
    rw [h]
    obtain ⟨c, cs, rfl⟩ := List.exists_cons_of_ne_nil hne
    rfl

theorem isHostChar_of_allowed {c : Char} (h : Domain.Punycode.isBasic c ∧ Domain.isKept c ∧
    Domain.isForbidden c = false) : isHostChar c := by
  have hall : ∀ n : Fin 0x80, Domain.isForbidden (Char.ofNat n) = false →
      isHostChar (Char.ofNat n) := by decide
  obtain ⟨hbasic, -, hallowed⟩ := h
  have hchar := hall ⟨c.toNat, of_decide_eq_true hbasic⟩
  simp only [Char.ofNat_toNat] at hchar
  exact hchar hallowed

/-- A host whose text is its own name in ASCII. -/
theorem stands_of_ascii? {h : Host} (hname : Domain.ascii? h.text.toList = some h.text.toList)
    (hne : h.text.toList ≠ []) (hreads : webHost h.text.toList = .ok h) : h.Stands where
  reads := hreads
  nonempty := hne
  clean _ hc := isHostChar_of_allowed (Domain.mem_ascii? hname hc)
  whole := by
    refine cutPort_append fun c hc => ?_
    have hallowed := (Domain.mem_ascii? hname hc).2.2
    refine ⟨fun _ => ?_, ?_, ?_⟩ <;>
      · rintro rfl
        cases hallowed

/-! ### Addresses of version 4 -/

theorem addressNumber?_toDigits (n : Nat) : addressNumber? (Nat.toDigits 10 n) = some n := by
  have hread := Text.numberIn?_toDigits (b := 10) (by decide) (by decide) n
  rcases Nat.eq_zero_or_pos n with rfl | hpos
  · rfl
  · obtain ⟨c, cs, hcs⟩ := List.exists_cons_of_ne_nil (Nat.toDigits_ne_nil (b := 10) (n := n))
    have hzero : c ≠ '0' := by
      rintro rfl
      exact Text.head?_toDigits hpos (by rw [hcs]; rfl)
    rw [hcs] at hread ⊢
    unfold addressNumber?
    split <;> simp_all

/-- The bytes of an address, first the highest. -/
def addressBytes (n : Nat) : List Nat :=
  [n / 0x1000000, n / 0x10000 % 0x100, n / 0x100 % 0x100, n % 0x100]

theorem toList_addressText (n : Nat) : (addressText n).toList =
    ['.'].intercalate ((addressBytes n).map (Nat.toDigits 10)) := by
  rw [addressText, String.toList_intercalate]
  simp [addressBytes, Nat.toString_eq_repr, Nat.toList_repr]

/-- What numbers of an address are written with. -/
def isNumeral (c : Char) : Bool :=
  isHostChar c && !(0x41 ≤ c.toNat && c.toNat ≤ 0x5A) && !Domain.isForbidden c &&
    !".:[]x".toList.contains c

theorem isNumeral_of_mem_toDigits {b n : Nat} (hb : 1 < b) (hb' : b ≤ 16) :
    ∀ c ∈ Nat.toDigits b n, isNumeral c := by
  have hall : ∀ d : Fin 16, isNumeral (Nat.digitChar d) := by decide
  intro c hc
  obtain ⟨d, rfl⟩ := Text.exists_of_mem_toDigits hb hb' hc
  exact hall d

theorem of_isNumeral {c : Char} (h : isNumeral c) : c.toNat < 0x80 ∧
    ¬ (0x41 ≤ c.toNat ∧ c.toNat ≤ 0x5A) ∧ Domain.isForbidden c = false := by
  simp only [isNumeral, isHostChar, Bool.and_eq_true, Bool.not_eq_true', ← Bool.not_eq_true,
    decide_eq_true_eq] at h
  obtain ⟨⟨⟨hhost, hcapital⟩, hallowed⟩, -⟩ := h
  exact ⟨by omega, hcapital, by simpa using hallowed⟩

theorem ne_of_isNumeral {c d : Char} (h : isNumeral c) (hd : d ∈ ['.', ':', '[', ']', 'x']) :
    c ≠ d := by
  have hall : ∀ d ∈ ['.', ':', '[', ']', 'x'], isNumeral d = false :=
    List.all_iff_forall_prop.1 (by decide)
  rintro rfl
  rw [hall c hd] at h
  cases h

theorem splitChars_addressText (n : Nat) : Text.splitChars (· = '.') (addressText n).toList =
    (addressBytes n).map (Nat.toDigits 10) := by
  rw [toList_addressText]
  refine Text.splitChars_intercalate (by decide) (by simp [addressBytes]) fun part hpart c hc => ?_
  obtain ⟨m, -, rfl⟩ := List.mem_map.1 hpart
  have hnumeral := isNumeral_of_mem_toDigits (by decide) (by decide) c hc
  exact decide_eq_false (ne_of_isNumeral hnumeral (by simp))

theorem getLast?_addressBytes (n : Nat) : (addressBytes n).getLast? = some (n % 0x100) := rfl

theorem labels_addressText (n : Nat) :
    labels (addressText n).toList = (addressBytes n).map (Nat.toDigits 10) := by
  rw [labels, splitChars_addressText]
  simp [List.getLast?_map, getLast?_addressBytes, Nat.toDigits_ne_nil]

theorem endsInNumber_addressText (n : Nat) : endsInNumber (addressText n).toList := by
  rw [endsInNumber, labels_addressText, List.getLast?_map, getLast?_addressBytes]
  simp only [Option.map_some]
  split
  · next heq => cases heq
  · next heq => exact absurd (Option.some.inj heq) Nat.toDigits_ne_nil
  · next heq =>
    rw [← Option.some.inj heq, addressNumber?_toDigits]
    simp

theorem address?_addressText {n : Nat} (h : n < 2 ^ 32) :
    address? (addressText n).toList = some n := by
  have hnumbers : ((addressBytes n).map (Nat.toDigits 10)).mapM addressNumber? =
      some (addressBytes n) := by
    rw [Domain.mapM_eq_some_iff, List.forall₂_map_left_iff, List.forall₂_same]
    exact fun m _ => addressNumber?_toDigits m
  have hfits : ¬ ((3 < (addressBytes n).dropLast.length ||
      (addressBytes n).dropLast.any (255 < ·) ||
      Nat.pow 256 (4 - (addressBytes n).dropLast.length) ≤ n % 0x100) = true) := by
    have hlast : ¬ 256 ≤ n % 0x100 := by omega
    simp [addressBytes, hlast]
    omega
  rw [address?, labels_addressText, hnumbers]
  simp only [Option.bind_eq_bind, Option.bind_some, getLast?_addressBytes, if_neg hfits,
    Option.some.injEq]
  simp [addressBytes]
  omega

theorem foldl_bytes_lt {bytes : List Nat} (h : ∀ b ∈ bytes, b ≤ 255) (n : Nat) :
    bytes.foldl (fun n b => 256 * n + b) n < (n + 1) * 256 ^ bytes.length := by
  induction bytes generalizing n with
  | nil => simp
  | cons b bytes ih =>
    obtain ⟨hb, hbytes⟩ := List.forall_mem_cons.1 h
    calc bytes.foldl (fun n b => 256 * n + b) (256 * n + b)
        < (256 * n + b + 1) * 256 ^ bytes.length := ih hbytes _
      _ ≤ (n + 1) * 256 * 256 ^ bytes.length := Nat.mul_le_mul_right _ (by omega)
      _ = (n + 1) * 256 ^ (b :: bytes).length := by
        rw [List.length_cons, Nat.pow_succ, Nat.mul_assoc, Nat.mul_comm 256]

theorem address?_lt {cs : List Char} {n : Nat} (h : address? cs = some n) : n < 2 ^ 32 := by
  rw [address?] at h
  simp only [Option.bind_eq_bind, Option.bind_eq_some_iff] at h
  obtain ⟨numbers, -, last, -, h⟩ := h
  split at h
  · cases h
  · next hfits =>
    simp only [Bool.or_eq_true, decide_eq_true_eq, List.any_eq_true, not_or, not_exists, not_and,
      Nat.not_lt, Nat.not_le] at hfits
    obtain ⟨⟨hfew, hbytes⟩, hlast⟩ := hfits
    obtain rfl := Option.some.inj h
    have hfront := foldl_bytes_lt hbytes 0
    generalize numbers.dropLast.foldl (fun n b => 256 * n + b) 0 = front at hfront ⊢
    generalize numbers.dropLast.length = count at hfew hlast hfront ⊢
    rw [Nat.zero_add, Nat.one_mul] at hfront
    calc front * 256 ^ (4 - count) + last
        < (front + 1) * 256 ^ (4 - count) := by
          rw [Nat.add_mul, Nat.one_mul]
          exact Nat.add_lt_add_left hlast _
      _ ≤ 256 ^ count * 256 ^ (4 - count) := Nat.mul_le_mul_right _ hfront
      _ = 256 ^ 4 := by rw [← Nat.pow_add, Nat.add_sub_cancel' (by omega)]
      _ = 2 ^ 32 := by decide

theorem mem_addressText {n : Nat} {c : Char} (h : c ∈ (addressText n).toList) :
    c = '.' ∨ isNumeral c := by
  rw [toList_addressText] at h
  refine (Text.mem_intercalate h).imp_right fun ⟨part, hpart, hc⟩ => ?_
  obtain ⟨m, -, rfl⟩ := List.mem_map.1 hpart
  exact isNumeral_of_mem_toDigits (by decide) (by decide) c hc

theorem ascii?_addressText (n : Nat) :
    Domain.ascii? (addressText n).toList = some (addressText n).toList := by
  have hchars {c : Char} (hc : c ∈ (addressText n).toList) : c.toNat < 0x80 ∧
      ¬ (0x41 ≤ c.toNat ∧ c.toNat ≤ 0x5A) ∧ Domain.isForbidden c = false := by
    rcases mem_addressText hc with rfl | hnumeral
    · decide
    · exact of_isNumeral hnumeral
  refine Domain.ascii?_of_ascii (fun c hc => (hchars hc).1)
    (fun c hc => (Domain.isKept_iff_of_ascii (hchars hc).1).2 (hchars hc).2.1)
    (fun c hc => (hchars hc).2.2) fun part hpart => ?_
  rw [splitChars_addressText] at hpart
  obtain ⟨m, -, rfl⟩ := List.mem_map.1 hpart
  rw [← Bool.not_eq_true, List.isPrefixOf_iff_prefix]
  intro hcoded
  have hx : 'x' ∈ Nat.toDigits 10 m := hcoded.subset (by decide)
  exact ne_of_isNumeral (isNumeral_of_mem_toDigits (by decide) (by decide) 'x' hx) (by simp) rfl

theorem stands_v4 {n : Nat} (h : n < 2 ^ 32) : (Host.v4 n).Stands := by
  have hname := ascii?_addressText n
  have hne : (addressText n).toList ≠ [] := by
    intro hnil
    have hends := endsInNumber_addressText n
    rw [hnil] at hends
    cases hends
  refine stands_of_ascii? hname hne ?_
  rw [Host.text, webHost_of_ascii? hne hname, if_pos (endsInNumber_addressText n),
    address?_addressText h]

/-! ### Addresses of version 6 -/

/-- The pieces of an address. -/
structure IsV6 (pieces : List Nat) : Prop where
  length : pieces.length = 8
  lt : ∀ n ∈ pieces, n < 0x10000

theorem piece?_lt {cs : List Char} {n : Nat} (h : piece? cs = some n) : n < 0x10000 := by
  rw [piece?] at h
  split at h
  · cases h
  · next hfew =>
    rw [Bool.or_eq_true, not_or, decide_eq_true_eq, Nat.not_lt] at hfew
    calc n < 16 ^ cs.length := Text.numberIn?_lt h
      _ ≤ 16 ^ 4 := Nat.pow_le_pow_right (by decide) hfew.2

theorem plainByte?_le {cs : List Char} {n : Nat} (h : plainByte? cs = some n) : n ≤ 255 := by
  unfold plainByte? at h
  split at h
  · cases h
  · cases h
    exact Nat.zero_le _
  · cases h
  · split at h
    · exact of_decide_eq_true (Option.filter_eq_some_iff.1 h).2
    · cases h

theorem lastPieces?_lt {cs : List Char} {ns : List Nat} (h : lastPieces? cs = some ns) :
    ∀ n ∈ ns, n < 0x10000 := by
  rw [lastPieces?] at h
  split at h
  · split at h
    · next a b c d hbytes =>
      obtain rfl := Option.some.inj h
      have hle : ∀ n ∈ [a, b, c, d], n ≤ 255 := fun n hn => by
        obtain ⟨part, -, hpart⟩ := Domain.exists_mem_left (Domain.mapM_eq_some_iff.1 hbytes) hn
        exact plainByte?_le hpart
      simp only [List.mem_cons, List.not_mem_nil, or_false, forall_eq_or_imp, forall_eq] at hle ⊢
      omega
    · cases h
  · split at h
    · cases h
    · next hfew =>
      obtain ⟨n, hn, rfl⟩ := Option.map_eq_some_iff.1 h
      have hpiece : piece? cs = some n := by rw [piece?, if_neg hfew, hn]
      simpa using piece?_lt hpiece

theorem pieces?_lt {final : Bool} {parts : List (List Char)} {ns : List Nat}
    (h : pieces? final parts = some ns) : ∀ n ∈ ns, n < 0x10000 := by
  have hall {parts : List (List Char)} {ns : List Nat} (h : parts.mapM piece? = some ns) :
      ∀ n ∈ ns, n < 0x10000 := fun n hn => by
    obtain ⟨part, -, hpart⟩ := Domain.exists_mem_left (Domain.mapM_eq_some_iff.1 h) hn
    exact piece?_lt hpart
  cases final with
  | false => exact hall h
  | true =>
    simp only [pieces?, if_true, Option.bind_eq_bind, Option.bind_eq_some_iff] at h
    obtain ⟨front, hfront, back, hback, hns⟩ := h
    obtain rfl := Option.some.inj hns
    refine List.forall_mem_append.2 ⟨hall hfront, ?_⟩
    cases hlast : parts.getLast? with
    | none =>
      rw [hlast] at hback
      cases hback
      simp
    | some last =>
      rw [hlast] at hback
      exact lastPieces?_lt hback

theorem isV6_of_v6? {cs : List Char} {pieces : List Nat} (h : v6? cs = some pieces) :
    IsV6 pieces := by
  rw [v6?] at h
  split at h
  · obtain ⟨hpieces, hlength⟩ := Option.filter_eq_some_iff.1 h
    exact ⟨of_decide_eq_true hlength, pieces?_lt hpieces⟩
  · simp only [Option.bind_eq_bind, Option.bind_eq_some_iff] at h
    obtain ⟨front, hfront, back, hback, h⟩ := h
    split at h
    · cases h
    · next hroom =>
      obtain rfl := Option.some.inj h
      refine ⟨by simp; omega, ?_⟩
      simp only [List.forall_mem_append]
      exact ⟨⟨pieces?_lt hfront, by simp⟩, pieces?_lt hback⟩

/-- The text of some pieces between colons. -/
def hexText (pieces : List Nat) : List Char := [':'].intercalate (pieces.map (Nat.toDigits 16))

theorem toList_piecesText (pieces : List Nat) : (piecesText pieces).toList = hexText pieces := by
  rw [piecesText, String.toList_intercalate, List.map_map, hexText]
  congr 1
  exact List.map_congr_left fun n _ => String.toList_ofList

theorem mem_hexText {pieces : List Nat} {c : Char} (h : c ∈ hexText pieces) :
    c = ':' ∨ isNumeral c := by
  refine (Text.mem_intercalate h).imp_right fun ⟨part, hpart, hc⟩ => ?_
  obtain ⟨m, -, rfl⟩ := List.mem_map.1 hpart
  exact isNumeral_of_mem_toDigits (by decide) (by decide) c hc

section

variable {pieces : List Nat} (h : ∀ n ∈ pieces, n < 0x10000)

theorem piece?_toDigits {n : Nat} (hn : n < 0x10000) : piece? (Nat.toDigits 16 n) = some n := by
  have hlength : (Nat.toDigits 16 n).length ≤ 4 :=
    (Nat.length_toDigits_le_iff (by decide) (by decide)).2 hn
  have hfew : ¬ (((Nat.toDigits 16 n).isEmpty || 4 < (Nat.toDigits 16 n).length) = true) := by
    simp [Nat.toDigits_ne_nil, hlength]
  rw [piece?, if_neg hfew, Text.numberIn?_toDigits (by decide) (by decide)]

theorem lastPieces?_toDigits {n : Nat} (hn : n < 0x10000) :
    lastPieces? (Nat.toDigits 16 n) = some [n] := by
  have hstop : (Nat.toDigits 16 n).contains '.' = false := by
    rw [← Bool.not_eq_true, List.contains_iff_mem]
    exact fun hmem =>
      ne_of_isNumeral (isNumeral_of_mem_toDigits (by decide) (by decide) '.' hmem) (by simp) rfl
  have hpiece := piece?_toDigits hn
  rw [piece?] at hpiece
  rw [lastPieces?, hstop]
  split at hpiece
  · cases hpiece
  · next hfew =>
    simp only [Bool.false_eq_true, if_false, if_neg hfew, hpiece, Option.map_some]

include h

theorem mapM_piece? : (pieces.map (Nat.toDigits 16)).mapM piece? = some pieces := by
  rw [Domain.mapM_eq_some_iff, List.forall₂_map_left_iff, List.forall₂_same]
  exact fun n hn => piece?_toDigits (h n hn)

theorem pieces?_map (final : Bool) :
    pieces? final (pieces.map (Nat.toDigits 16)) = some pieces := by
  cases final with
  | false => exact mapM_piece? h
  | true =>
    rcases List.eq_nil_or_concat' pieces with rfl | ⟨front, last, rfl⟩
    · rfl
    · rw [List.forall_mem_append] at h
      have hlast := lastPieces?_toDigits (h.2 last (by simp))
      simp [pieces?, mapM_piece? h.1, hlast]

theorem fields_hexText : fields (hexText pieces) = pieces.map (Nat.toDigits 16) := by
  cases pieces with
  | nil => rfl
  | cons n pieces =>
    have hne : (hexText (n :: pieces)).isEmpty = false := by
      rw [hexText, List.map_cons, Text.intercalate_cons]
      simp [Nat.toDigits_ne_nil]
    rw [fields, hne]
    refine Text.splitChars_intercalate (by decide) (by simp) fun part hpart c hc => ?_
    obtain ⟨m, -, rfl⟩ := List.mem_map.1 hpart
    have hnumeral := isNumeral_of_mem_toDigits (by decide) (by decide) c hc
    exact decide_eq_false (ne_of_isNumeral hnumeral (by simp))

end

/-! ### Two colons -/

theorem cutColons_cons {c : Char} {rest : List Char} (h : c = ':' → rest.head? ≠ some ':')
    (before : List Char) : cutColons before (c :: rest) = cutColons (c :: before) rest := by
  rw [cutColons]
  rintro rest' rfl rfl
  exact h rfl rfl

theorem cutColons_of_notMem {front : List Char} (h : ':' ∉ front) (before rest : List Char) :
    cutColons before (front ++ rest) = cutColons (front.reverse ++ before) rest := by
  induction front generalizing before with
  | nil => rfl
  | cons c front ih =>
    rw [List.mem_cons, not_or] at h
    rw [List.cons_append, cutColons_cons fun hc => absurd hc.symm h.1, ih h.2]
    simp

theorem cutColons_parts {first : List Char} {parts : List (List Char)} (hfirst : ':' ∉ first)
    (h : ∀ part ∈ parts, part ≠ [] ∧ ':' ∉ part) (before rest : List Char) :
    cutColons before (first ++ parts.flatMap (':' :: ·) ++ rest) =
      cutColons ((first ++ parts.flatMap (':' :: ·)).reverse ++ before) rest := by
  induction parts generalizing first before with
  | nil => simpa using cutColons_of_notMem hfirst before rest
  | cons part parts ih =>
    obtain ⟨⟨hne, hcolon⟩, hparts⟩ := List.forall_mem_cons.1 h
    have hhead : (part ++ parts.flatMap (':' :: ·) ++ rest).head? ≠ some ':' := by
      obtain ⟨c, cs, rfl⟩ := List.exists_cons_of_ne_nil hne
      simpa using fun heq : c = ':' => hcolon (heq ▸ List.mem_cons_self)
    rw [List.flatMap_cons, List.append_assoc, cutColons_of_notMem hfirst, List.cons_append,
      List.cons_append, cutColons_cons fun _ => hhead, ih hcolon hparts]
    simp

/-- Between numbers no two colons stand in a row. -/
theorem cutColons_hexText (pieces : List Nat) (before rest : List Char) :
    cutColons before (hexText pieces ++ rest) =
      cutColons ((hexText pieces).reverse ++ before) rest := by
  have hdigits (n : Nat) : Nat.toDigits 16 n ≠ [] ∧ ':' ∉ Nat.toDigits 16 n :=
    ⟨Nat.toDigits_ne_nil, fun hmem =>
      ne_of_isNumeral (isNumeral_of_mem_toDigits (by decide) (by decide) ':' hmem) (by simp) rfl⟩
  cases pieces with
  | nil => rfl
  | cons n pieces =>
    rw [hexText, List.map_cons, Text.intercalate_cons]
    refine cutColons_parts (hdigits n).2 (fun part hpart => ?_) before rest
    obtain ⟨m, -, rfl⟩ := List.mem_map.1 hpart
    exact hdigits m

/-! ### The run of zeros -/

theorem foldl_longest_mem (runs : List (Nat × Nat)) (first : Nat × Nat) :
    runs.foldl (fun best r => if best.2 < r.2 then r else best) first ∈ first :: runs := by
  induction runs generalizing first with
  | nil => exact List.mem_cons_self
  | cons r runs ih =>
    have hmem := ih (if first.2 < r.2 then r else first)
    rw [List.foldl_cons]
    rcases List.mem_cons.1 hmem with heq | hmem
    · rw [heq]
      split <;> simp
    · exact List.mem_cons_of_mem _ (List.mem_cons_of_mem _ hmem)

theorem zeroRun_eq_some {pieces : List Nat} {start length : Nat}
    (h : zeroRun pieces = some (start, length)) : 2 ≤ length ∧
      pieces = pieces.take start ++ List.replicate length 0 ++ pieces.drop (start + length) := by
  simp only [zeroRun] at h
  split at h
  · cases h
  · next hlong =>
    have hmem := foldl_longest_mem ((List.range pieces.length).map fun n =>
      (n, ((pieces.drop n).takeWhile (· = 0)).length)) (0, 1)
    rw [Option.some.inj h] at hlong hmem
    rw [Nat.not_lt] at hlong
    refine ⟨hlong, ?_⟩
    rcases List.mem_cons.1 hmem with heq | hmem
    · cases heq
      exact absurd hlong (by decide)
    · obtain ⟨n, -, heq⟩ := List.mem_map.1 hmem
      obtain ⟨rfl, rfl⟩ := Prod.mk.inj heq
      have hsplit := List.takeWhile_append_dropWhile (p := fun m : Nat => decide (m = 0))
        (l := pieces.drop n)
      have hzeros : ∀ m ∈ (pieces.drop n).takeWhile (· = 0), m = 0 := fun m hm => by
        simpa using List.mem_takeWhile_imp hm
      generalize (pieces.drop n).takeWhile (· = 0) = zeros at hsplit hzeros ⊢
      rw [← List.drop_drop, ← hsplit, List.drop_left, ← List.eq_replicate_length.2 hzeros,
        List.append_assoc, hsplit, List.take_append_drop]

theorem v6?_v6Text {pieces : List Nat} (h : IsV6 pieces) :
    v6? (v6Text pieces).toList = some pieces := by
  rw [v6Text]
  cases hrun : zeroRun pieces with
  | none =>
    have hcut : cutColons [] (hexText pieces) = none := by
      simpa [cutColons] using cutColons_hexText pieces [] []
    simp [toList_piecesText, v6?, hcut, fields_hexText h.lt, pieces?_map h.lt, h.length]
  | some run =>
    obtain ⟨start, length⟩ := run
    obtain ⟨hlong, heq⟩ := zeroRun_eq_some hrun
    have hfront : ∀ n ∈ pieces.take start, n < 0x10000 :=
      fun n hn => h.lt n (List.mem_of_mem_take hn)
    have hback : ∀ n ∈ pieces.drop (start + length), n < 0x10000 :=
      fun n hn => h.lt n (List.mem_of_mem_drop hn)
    have hcut : cutColons [] (hexText (pieces.take start) ++
        ':' :: ':' :: hexText (pieces.drop (start + length))) =
          some (hexText (pieces.take start), hexText (pieces.drop (start + length))) := by
      rw [cutColons_hexText, cutColons]
      simp
    have htext : (piecesText (pieces.take start) ++ "::" ++
        piecesText (pieces.drop (start + length))).toList =
          hexText (pieces.take start) ++ ':' :: ':' :: hexText (pieces.drop (start + length)) := by
      simp [toList_piecesText]
    have hlength := congrArg List.length heq
    simp only [List.length_append, List.length_replicate, h.length] at hlength
    have hroom : ¬ 7 < (pieces.take start).length + (pieces.drop (start + length)).length := by
      omega
    have hzeros : 8 - ((pieces.take start).length + (pieces.drop (start + length)).length) =
        length := by omega
    simp only [htext, v6?, hcut, fields_hexText hfront, fields_hexText hback, pieces?_map hfront,
      pieces?_map hback, Option.bind_eq_bind, Option.bind_some, if_neg hroom, hzeros, ← heq]

theorem mem_v6Text {pieces : List Nat} {c : Char} (h : c ∈ (v6Text pieces).toList) :
    c = ':' ∨ isNumeral c := by
  rw [v6Text] at h
  split at h
  · exact mem_hexText (toList_piecesText _ ▸ h)
  · simp only [String.toList_append, toList_piecesText, List.mem_append] at h
    rcases h with (h | h) | h
    · exact mem_hexText h
    · exact .inl (by simpa using h)
    · exact mem_hexText h

theorem stands_v6 {pieces : List Nat} (h : IsV6 pieces) : (Host.v6 pieces).Stands := by
  have htext : (Host.v6 pieces).text.toList = '[' :: ((v6Text pieces).toList ++ [']']) := by
    simp [Host.text]
  refine ⟨?_, ?_, ?_, fun rest => ?_⟩ <;> rw [htext]
  · simp [webHost, bracketed?, v6?_v6Text h]
  · simp
  · simp only [List.forall_mem_cons, List.forall_mem_append]
    refine ⟨by decide, fun c hc => ?_, by decide, by simp⟩
    rcases mem_v6Text hc with rfl | hnumeral
    · decide
    · simp only [isNumeral, Bool.and_eq_true] at hnumeral
      exact hnumeral.1.1.1
  · have hinside : ∀ c ∈ (v6Text pieces).toList,
        (true = false → c ≠ ':') ∧ c ≠ '[' ∧ c ≠ ']' := by
      intro c hc
      rcases mem_v6Text hc with rfl | hnumeral
      · decide
      · exact ⟨nofun, ne_of_isNumeral hnumeral (by simp), ne_of_isNumeral hnumeral (by simp)⟩
    rw [List.cons_append, List.append_assoc, List.singleton_append, cutPort]
    simp [cutPort_append hinside, cutPort]

/-- The text of a host of the web is read as that host. -/
theorem stands_of_webHost {cs : List Char} {h : Host} (hread : webHost cs = .ok h) : h.Stands := by
  unfold webHost at hread
  split at hread
  · rw [bracketed?] at hread
    split at hread
    · split at hread
      · next pieces hpieces =>
        cases hread
        exact stands_v6 (isV6_of_v6? hpieces)
      · cases hread
    · cases hread
  · split at hread
    · cases hread
    · split at hread
      · cases hread
      · cases hread
      · next name hne hname =>
        have hidem := Domain.ascii?_idem hname
        have hne : name ≠ [] := fun heq => hne heq
        split at hread
        · split at hread
          · next n hn =>
            cases hread
            exact stands_v4 (address?_lt hn)
          · cases hread
        · next hnumber =>
          cases hread
          have htext : (Host.name (String.ofList name)).text.toList = name := String.toList_ofList
          refine stands_of_ascii? (htext.symm ▸ hidem) (htext.symm ▸ hne) ?_
          rw [htext, webHost_of_ascii? hne hidem, if_neg hnumber]

end FleetDesk.Url
