import FleetDesk.Proofs.Text.Utf8
import FleetDesk.Url.Reader

/-!
# Paths as they are written

The names of a path that has been read are settled (`Settled`): all their characters stand for
themselves, and no name is a step. So reading the text of a path again, or a text that goes on with
more such names, changes none of them (`segmentsOf_flatMap`).
-/

namespace FleetDesk.Url

/-! ### Percent signs -/

/-- A character that is written as it is. -/
def isPlain (others : List Char) (c : Char) : Bool :=
  !(c.toNat < 0x20 || 0x7F ≤ c.toNat || others.contains c)

theorem percentEncode_cons (others : List Char) (c : Char) (cs : List Char) :
    percentEncode others (c :: cs) =
      (if isPlain others c then [c] else percentChar c) ++ percentEncode others cs := by
  simp only [percentEncode, List.flatMap_cons, isPlain, Bool.not_eq_true', ← Bool.not_eq_true,
    ite_not]

theorem percentEncode_eq_self {others cs : List Char} (h : ∀ c ∈ cs, isPlain others c) :
    percentEncode others cs = cs := by
  induction cs with
  | nil => rfl
  | cons c cs ih =>
    obtain ⟨hc, hcs⟩ := List.forall_mem_cons.1 h
    rw [percentEncode_cons, if_pos hc, ih hcs]
    rfl

theorem percentChar_eq (c : Char) : ∃ b bs, String.utf8EncodeChar c = b :: bs ∧ percentChar c =
    '%' :: hexDigit (b.toNat / 16) :: hexDigit (b.toNat % 16) :: bs.flatMap percentByte := by
  obtain ⟨b, bs, hb⟩ := List.exists_cons_of_ne_nil (Utf8.spelled_encodeChar c).ne_nil
  refine ⟨b, bs, hb, ?_⟩
  rw [percentChar, Utf8.encode_ofList, List.flatMap_singleton, hb]
  rfl

theorem mem_percentChar {c d : Char} (h : d ∈ percentChar c) :
    d = '%' ∨ ∃ n : Fin 16, d = hexDigit n := by
  rw [percentChar] at h
  obtain ⟨b, -, hd⟩ := List.mem_flatMap.1 h
  have hb : b.toNat < 256 := b.toNat_lt
  simp only [percentByte, List.mem_cons, List.not_mem_nil, or_false] at hd
  rcases hd with rfl | rfl | rfl
  · exact .inl rfl
  · exact .inr ⟨⟨b.toNat / 16, by omega⟩, rfl⟩
  · exact .inr ⟨⟨b.toNat % 16, by omega⟩, rfl⟩

/-! ### Names -/

/-- A name that reading leaves as it is. -/
structure Settled (name : List Char) : Prop where
  plain : ∀ c ∈ name, isPlain pathOthers c
  noSlash : ∀ c ∈ name, isSlash true c = false
  notHere : isHere name = false
  notAbove : isAbove name = false

theorem plainDots_eq_nil {cs : List Char} : plainDots cs = [] ↔ cs = [] := by
  fun_cases plainDots cs with
  | case1 | case2 | case3 => simp
  | case4 => rfl

/-- A name of dots starts with one, as it is or encoded. -/
theorem plainDots_eq_replicate_succ {cs : List Char} {n : Nat} :
    plainDots cs = List.replicate (n + 1) '.' ↔
      ∃ rest, plainDots rest = List.replicate n '.' ∧
        (cs = '.' :: rest ∨ cs = '%' :: '2' :: 'e' :: rest ∨ cs = '%' :: '2' :: 'E' :: rest) := by
  fun_cases plainDots cs with
  | case1 c rest hc =>
    obtain rfl | rfl : c = 'e' ∨ c = 'E' := by simpa using hc
    all_goals simp [List.replicate_succ]
  | case2 c rest hc =>
    rw [Bool.or_eq_true, decide_eq_true_eq, decide_eq_true_eq, not_or] at hc
    simp [List.replicate_succ, hc]
  | case3 rest => simp [List.replicate_succ]
  | case4 cs hencoded hdot =>
    constructor
    · rintro rfl
      exact absurd List.replicate_succ (hdot _)
    · rintro ⟨rest, -, rfl | rfl | rfl⟩
      · exact absurd rfl (hdot rest)
      · exact absurd rfl (hencoded 'e' rest)
      · exact absurd rfl (hencoded 'E' rest)

/-- Only a full stop is written like one. -/
theorem hexDigits_of_stop {b : UInt8} (h : hexDigit (b.toNat / 16) = '2')
    (h' : hexDigit (b.toNat % 16) = 'e' ∨ hexDigit (b.toNat % 16) = 'E') : b.toNat = 0x2E := by
  have hall : ∀ n : Fin 256, hexDigit (n / 16) = '2' →
      hexDigit (n % 16) = 'e' ∨ hexDigit (n % 16) = 'E' → n = 0x2E := by decide +kernel
  exact congrArg Fin.val (hall ⟨b.toNat, b.toNat_lt⟩ h h')

/-- A character that is written out was there, but for percent signs. -/
theorem percentEncode_eq_cons {others name rest : List Char} {c : Char} (hc : c ≠ '%')
    (h : percentEncode others name = c :: rest) :
    ∃ name', name = c :: name' ∧ percentEncode others name' = rest := by
  cases name with
  | nil => cases h
  | cons d name =>
    rw [percentEncode_cons] at h
    split at h
    · cases h
      exact ⟨name, rfl, rfl⟩
    · obtain ⟨b, bs, -, hwritten⟩ := percentChar_eq d
      rw [hwritten] at h
      cases h
      exact absurd rfl hc

theorem percentEncode_eq_stop {name rest : List Char} {e : Char} (he : e = 'e' ∨ e = 'E')
    (h : percentEncode pathOthers name = '%' :: '2' :: e :: rest) :
    ∃ name', name = '%' :: '2' :: e :: name' ∧ percentEncode pathOthers name' = rest := by
  have hne : e ≠ '%' := by rcases he with rfl | rfl <;> decide
  cases name with
  | nil => cases h
  | cons c name =>
    rw [percentEncode_cons] at h
    split at h
    · rw [List.singleton_append, List.cons.injEq] at h
      obtain ⟨rfl, hname⟩ := h
      obtain ⟨name, rfl, hbehind⟩ := percentEncode_eq_cons (by decide) hname
      obtain ⟨name, rfl, hrest⟩ := percentEncode_eq_cons hne hbehind
      exact ⟨name, rfl, hrest⟩
    · next hplain =>
      obtain ⟨b, bs, hbytes, hwritten⟩ := percentChar_eq c
      rw [hwritten] at h
      simp only [List.cons_append, List.cons.injEq, true_and] at h
      have hstop : b.toNat = 0x2E := hexDigits_of_stop h.1 (h.2.1 ▸ he)
      have hspelled := Utf8.spelled_encodeChar c
      rw [hbytes] at hspelled
      obtain rfl : c = '.' := by
        rw [← Char.toNat_inj]
        cases hspelled <;> simp_all
        all_goals omega
      exact absurd (by decide) hplain

theorem percentEncode_eq_nil {others name : List Char} (h : percentEncode others name = []) :
    name = [] := by
  cases name with
  | nil => rfl
  | cons c name =>
    obtain ⟨b, bs, -, hwritten⟩ := percentChar_eq c
    rw [percentEncode_cons, hwritten] at h
    split at h <;> cases h

/-- Encoding makes no name of dots. -/
theorem plainDots_percentEncode {name : List Char} {n : Nat}
    (h : plainDots (percentEncode pathOthers name) = List.replicate n '.') :
    plainDots name = List.replicate n '.' := by
  induction n generalizing name with
  | zero => exact plainDots_eq_nil.2 (percentEncode_eq_nil (plainDots_eq_nil.1 h))
  | succ n ih =>
    obtain ⟨rest, hrest, hname⟩ := plainDots_eq_replicate_succ.1 h
    rw [plainDots_eq_replicate_succ]
    rcases hname with hname | hname | hname
    · obtain ⟨name, rfl, rfl⟩ := percentEncode_eq_cons (by decide) hname
      exact ⟨name, ih hrest, .inl rfl⟩
    · obtain ⟨name, rfl, rfl⟩ := percentEncode_eq_stop (.inl rfl) hname
      exact ⟨name, ih hrest, .inr (.inl rfl)⟩
    · obtain ⟨name, rfl, rfl⟩ := percentEncode_eq_stop (.inr rfl) hname
      exact ⟨name, ih hrest, .inr (.inr rfl)⟩

theorem mem_percentEncode {others cs : List Char} {d : Char} (h : d ∈ percentEncode others cs) :
    isPlain others d ∧ d ∈ cs ∨ d = '%' ∨ ∃ n : Fin 16, d = hexDigit n := by
  induction cs with
  | nil => exact absurd h List.not_mem_nil
  | cons c cs ih =>
    rw [percentEncode_cons, List.mem_append] at h
    rcases h with h | h
    · split at h
      · next hc =>
        obtain rfl := List.mem_singleton.1 h
        exact .inl ⟨hc, List.mem_cons_self⟩
      · exact .inr (mem_percentChar h)
    · exact (ih h).imp_left (.imp_right (List.mem_cons_of_mem c))

theorem settled_percentEncode {name : List Char} (hslash : ∀ c ∈ name, isSlash true c = false)
    (hhere : isHere name = false) (habove : isAbove name = false) :
    Settled (percentEncode pathOthers name) where
  plain c hc := by
    have hhex : ∀ n : Fin 16, isPlain pathOthers (hexDigit n) := by decide
    rcases mem_percentEncode hc with ⟨hplain, -⟩ | rfl | ⟨n, rfl⟩
    · exact hplain
    · decide
    · exact hhex n
  noSlash c hc := by
    have hhex : ∀ n : Fin 16, isSlash true (hexDigit n) = false := by decide
    rcases mem_percentEncode hc with ⟨-, hmem⟩ | rfl | ⟨n, rfl⟩
    · exact hslash c hmem
    · decide
    · exact hhex n
  notHere := decide_eq_false fun h =>
    of_decide_eq_false hhere (plainDots_percentEncode (n := 1) h)
  notAbove := decide_eq_false fun h =>
    of_decide_eq_false habove (plainDots_percentEncode (n := 2) h)

theorem Settled.percentEncode {name : List Char} (h : Settled name) :
    percentEncode pathOthers name = name := percentEncode_eq_self h.plain

/-! ### Paths -/

theorem leave_eq_tail (names : List (List Char)) : leave false names = names.tail := by
  unfold leave
  split <;> simp

theorem enter_eq_cons (names : List (List Char)) (name : List Char) :
    enter false names name = percentEncode pathOthers name :: names := by
  simp [enter]

theorem follow_settled {names parts : List (List Char)} (hnames : ∀ name ∈ names, Settled name)
    (hparts : ∀ part ∈ parts, ∀ c ∈ part, isSlash true c = false) :
    ∀ name ∈ follow false names parts, Settled name := by
  have hempty : Settled [] := ⟨by simp, by simp, by decide, by decide⟩
  induction parts generalizing names with
  | nil => exact hnames
  | cons part parts ih =>
    obtain ⟨hpart, hrest⟩ := List.forall_mem_cons.1 hparts
    rw [follow]
    have hstepped : ∀ name ∈ (if isAbove part then leave false names
        else if isHere part then names else enter false names part), Settled name := by
      split
      · rw [leave_eq_tail]
        exact fun name hname => hnames name (List.mem_of_mem_tail hname)
      · next habove =>
        split
        · exact hnames
        · next hhere =>
          rw [enter_eq_cons]
          exact List.forall_mem_cons.2 ⟨settled_percentEncode hpart (by simpa using hhere)
            (by simpa using habove), hnames⟩
    split
    · exact List.forall_mem_cons.2 ⟨hempty, hstepped⟩
    · exact ih hstepped hrest

theorem follow_ne_nil {names parts : List (List Char)} (h : parts ≠ []) :
    follow false names parts ≠ [] := by
  induction parts generalizing names with
  | nil => exact absurd rfl h
  | cons part parts ih =>
    rw [follow]
    split
    · simp
    · next hlast =>
      cases parts with
      | cons next parts => exact ih (by simp)
      | nil =>
        rw [follow, enter_eq_cons]
        simp_all

theorem follow_of_settled {names parts : List (List Char)} (h : ∀ part ∈ parts, Settled part) :
    follow false names parts = parts.reverse ++ names := by
  induction parts generalizing names with
  | nil => rfl
  | cons part parts ih =>
    obtain ⟨hpart, hrest⟩ := List.forall_mem_cons.1 h
    rw [follow, hpart.notAbove, hpart.notHere, enter_eq_cons, hpart.percentEncode]
    simp [ih hrest]

/-! ### Paths -/

/-- The schemes that are followed by a host, in the syntax of the web. -/
theorem isWebScheme_of_usualPort? {scheme : String} (h : (usualPort? scheme).isSome) :
    isWebScheme scheme = true ∧ scheme ≠ "file" := by
  refine ⟨by simp [isWebScheme, h], ?_⟩
  rintro rfl
  exact absurd h (by decide)

/-- The text of a path with these names. -/
def pathText (names : List (List Char)) : List Char := names.flatMap ('/' :: ·)

theorem toList_text_segments (names : List (List Char)) :
    (Path.segments (names.map String.ofList)).text.toList = pathText names := by
  simp only [Path.text, String.toList_join, List.map_map, List.flatMap_map, pathText]
  refine List.flatMap_congr fun name _ => ?_
  simp

theorem segmentsOf_eq {scheme : String} (hweb : (usualPort? scheme).isSome) (cs : List Char) :
    ∃ names, names ≠ [] ∧ (∀ name ∈ names, Settled name) ∧
      segmentsOf scheme cs = .segments (names.map String.ofList) := by
  obtain ⟨hforms, hfile⟩ := isWebScheme_of_usualPort? hweb
  refine ⟨_, ?_, ?_, by simp only [segmentsOf, hforms, hfile]; rfl⟩
  · simpa using follow_ne_nil (Text.splitChars_ne_nil _ _)
  · simp only [List.mem_reverse]
    exact follow_settled (by simp) fun part hpart c hc => (Text.of_mem_splitChars hpart hc).1

/-- The names of a text that starts with a slash are read as they are. -/
theorem segmentsOf_pathText {scheme : String} (hweb : (usualPort? scheme).isSome)
    {names : List (List Char)} (hne : names ≠ []) (h : ∀ name ∈ names, Settled name) :
    segmentsOf scheme (pathText names) = .segments (names.map String.ofList) := by
  obtain ⟨hforms, hfile⟩ := isWebScheme_of_usualPort? hweb
  obtain ⟨name, names, rfl⟩ := List.exists_cons_of_ne_nil hne
  obtain ⟨hname, hnames⟩ := List.forall_mem_cons.1 h
  have hparts : Text.splitChars (isSlash true) (pathText (name :: names)).tail = name :: names :=
    Text.splitChars_append_flatMap rfl hname.noSlash fun part hpart => (hnames part hpart).noSlash
  have hstart : (pathText (name :: names)).head?.any (isSlash true) = true := rfl
  have hfollow : follow false [] (name :: names) = (name :: names).reverse := by
    simpa using follow_of_settled h
  simp only [segmentsOf, hforms, hfile, hstart, if_true, hparts, decide_false, hfollow,
    List.reverse_reverse]

end FleetDesk.Url
