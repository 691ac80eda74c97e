import FleetDesk.Proofs.Text.Digits
import FleetDesk.Proofs.Url.Path
import Mathlib.Data.Bool.AllAny

/-!
# Reading the text of a URL of the web again

A host stands (`Host.Stands`) if its text is read as that host and ends where it ends. What starts
with such a host, behind a scheme of the web, is a URL of that scheme and host, whatever follows
behind the next slash (`parse_front`).
-/

namespace FleetDesk.Url

/-! ### Text that counts -/

/-- What counts of a text that something stands in front of. -/
def countingTail (cs : List Char) : List Char :=
  ((cs.reverse.dropWhile isControlOrBlank).reverse).filter (!isBreak ·)

theorem isBreak_eq_false {c : Char} (h : isControlOrBlank c = false) : isBreak c = false := by
  rw [← Bool.not_eq_true, isBreak, Bool.or_eq_true, Bool.or_eq_true, decide_eq_true_eq,
    decide_eq_true_eq, decide_eq_true_eq]
  rintro ((rfl | rfl) | rfl) <;> cases h

theorem dropWhile_isControlOrBlank {cs : List Char} (h : ∀ c ∈ cs, isControlOrBlank c = false) :
    cs.dropWhile isControlOrBlank = cs := by
  cases cs with
  | nil => rfl
  | cons c cs => exact List.dropWhile_cons_of_neg (by simp [h c List.mem_cons_self])

section

variable {front : List Char} (hfront : ∀ c ∈ front, isControlOrBlank c = false)

include hfront

theorem countingTail_append (rest : List Char) :
    countingTail (front ++ rest) = front ++ countingTail rest := by
  have hbreak : ∀ c ∈ front, (!isBreak c) = true := fun c hc => by
    rw [isBreak_eq_false (hfront c hc)]
    rfl
  have hkeep : front.reverse.dropWhile isControlOrBlank = front.reverse :=
    dropWhile_isControlOrBlank fun c hc => hfront c (List.mem_reverse.1 hc)
  have hdrop : (front ++ rest).reverse.dropWhile isControlOrBlank =
      rest.reverse.dropWhile isControlOrBlank ++ front.reverse := by
    rw [List.reverse_append, List.dropWhile_append, hkeep]
    split
    · next h => rw [List.isEmpty_iff.1 h, List.nil_append]
    · rfl
  rw [countingTail, hdrop, List.reverse_append, List.reverse_reverse, List.filter_append,
    List.filter_eq_self.2 hbreak]
  rfl

theorem relevant_append (hne : front ≠ []) (rest : List Char) :
    relevant (String.ofList (front ++ rest)) = front ++ countingTail rest := by
  obtain ⟨c, front', rfl⟩ := List.exists_cons_of_ne_nil hne
  have hc : ¬ isControlOrBlank c := by simp [hfront c List.mem_cons_self]
  rw [← countingTail_append hfront, relevant, String.toList_ofList, List.cons_append,
    List.dropWhile_cons_of_neg hc]
  rfl

end

/-! ### Schemes -/

theorem scheme_of_usualPort? {scheme : String} (h : (usualPort? scheme).isSome) :
    scheme ∈ ["http", "https", "ws", "wss", "ftp"] := by
  obtain ⟨port, hport⟩ := Option.isSome_iff_exists.1 h
  obtain ⟨before, behind, hports, -⟩ := List.lookup_eq_some_iff.1 hport
  have hmem : (scheme, port) ∈ webPorts := hports ▸ List.mem_append_right before List.mem_cons_self
  exact List.mem_map_of_mem (f := Prod.fst) hmem

theorem scheme?_append {scheme : String} (h : (usualPort? scheme).isSome) (rest : List Char) :
    scheme? (scheme.toList ++ ':' :: rest) = some (scheme, rest) := by
  have hall : ∀ s ∈ ["http", "https", "ws", "wss", "ftp"], ':' ∉ s.toList ∧
      (s.toList.head?.any Char.isAlpha && s.toList.tail.all isSchemeChar) ∧
        String.ofList (s.toList.map Char.toLower) = s := by decide
  obtain ⟨hcolon, hchars, hlower⟩ := hall scheme (scheme_of_usualPort? h)
  rw [scheme?, Text.cutAt_append_cons hcolon]
  cases hscheme : scheme.toList with
  | nil => simp [hscheme] at hchars
  | cons c name =>
    rw [hscheme] at hchars hlower
    simp only [List.head?_cons, Option.any_some, List.tail_cons] at hchars
    simp only [if_pos hchars, hlower]

/-! ### Authorities -/

/-- A character that ends no host. -/
def isHostChar (c : Char) : Bool := 0x20 < c.toNat && c.toNat < 0x7F && !"#/?@\\".toList.contains c

/-- A host whose text is read as that host. -/
structure Host.Stands (h : Host) : Prop where
  reads : webHost h.text.toList = .ok h
  nonempty : h.text.toList ≠ []
  clean : ∀ c ∈ h.text.toList, isHostChar c
  whole (rest : List Char) : cutPort false (h.text.toList ++ rest) =
    (h.text.toList ++ (cutPort false rest).1, (cutPort false rest).2)

/-- A host that stands, and a port that is not the usual one. -/
structure Authority.Stands (scheme : String) (a : Authority) : Prop where
  host : a.host.Stands
  port : ∀ n ∈ a.port, n ≤ 65535 ∧ usualPort? scheme ≠ some n

/-- The text of an authority behind the two slashes. -/
def Authority.chars (a : Authority) : List Char :=
  a.host.text.toList ++ (a.port.map fun n => ':' :: Nat.toDigits 10 n).getD []

theorem Authority.toList_text (a : Authority) : a.text.toList = '/' :: '/' :: a.chars := by
  have hport (n : Nat) : (":" ++ toString n).toList = ':' :: Nat.toDigits 10 n := by
    simp [Nat.toString_eq_repr, Nat.toList_repr]
  cases hp : a.port with
  | none => simp [Authority.text, Authority.chars, hp]
  | some n =>
    simp only [Authority.text, Authority.chars, hp, Option.map_some, Option.getD_some,
      String.toList_append, hport]
    rfl

theorem portOf_toDigits {scheme : String} {n : Nat} (hn : n ≤ 65535)
    (husual : usualPort? scheme ≠ some n) : portOf scheme (Nat.toDigits 10 n) = .ok (some n) := by
  have hread := Text.numberIn?_toDigits (b := 10) (by decide) (by decide) n
  rw [portOf.eq_2 _ _ Nat.toDigits_ne_nil, hread]
  simp only [if_neg (Nat.not_lt.2 hn), if_neg husual]

theorem Authority.Stands.clean {scheme : String} {a : Authority} (h : a.Stands scheme) :
    ∀ c ∈ a.chars, isHostChar c := by
  have hdigit : ∀ d : Fin 16, isHostChar (Nat.digitChar d) := by decide
  intro c hc
  rcases List.mem_append.1 hc with hc | hc
  · exact h.host.clean c hc
  · cases hport : a.port with
    | none => simp [hport] at hc
    | some n =>
      rw [hport, Option.map_some, Option.getD_some] at hc
      rcases List.mem_cons.1 hc with rfl | hc
      · decide
      · obtain ⟨d, rfl⟩ := Text.exists_of_mem_toDigits (by decide) (by decide) hc
        exact hdigit d

theorem Authority.Stands.reads {scheme : String} {a : Authority} (h : a.Stands scheme)
    (hscheme : (usualPort? scheme).isSome) : authorityOf scheme a.chars = .ok a := by
  have hlogin : cutLogin a.chars = (none, a.chars) := by
    rw [cutLogin, if_neg]
    rw [List.contains_iff_mem]
    exact fun hat => absurd (h.clean '@' hat) (by decide)
  have hempty : a.host.text.toList.isEmpty = false := by simpa using h.host.nonempty
  have hcut : cutPort false a.chars = (a.host.text.toList, a.port.map (Nat.toDigits 10)) := by
    rw [Authority.chars, h.host.whole]
    cases a.port <;> simp [cutPort]
  have hport : portOf scheme ((a.port.map (Nat.toDigits 10)).getD []) = .ok a.port := by
    cases hp : a.port with
    | none => rfl
    | some n => exact portOf_toDigits (h.port n hp).1 (h.port n hp).2
  rw [authorityOf, hlogin, (isWebScheme_of_usualPort? hscheme).1]
  simp only [hcut, hempty, h.host.reads, hport]
  rfl

/-! ### URLs -/

/-- The text of a URL of the web up to its path. -/
def front (scheme : String) (a : Authority) : List Char :=
  scheme.toList ++ ':' :: '/' :: '/' :: a.chars

theorem isControlOrBlank_of_isHostChar {c : Char} (h : isHostChar c) :
    isControlOrBlank c = false := by
  simp only [isHostChar, Bool.and_eq_true, decide_eq_true_eq] at h
  exact decide_eq_false (Nat.not_le.2 h.1.1)

theorem isSlash_of_isHostChar {c : Char} (h : isHostChar c) : isSlash true c = false := by
  rw [← Bool.not_eq_true]
  intro hslash
  obtain rfl | rfl : c = '/' ∨ c = '\\' := by simpa [isSlash] using hslash
  all_goals cases h

theorem Authority.Stands.chars_ne_nil {scheme : String} {a : Authority} (h : a.Stands scheme) :
    a.chars ≠ [] := by
  simp [Authority.chars, h.host.nonempty]

theorem isControlOrBlank_of_mem_front {scheme : String} {a : Authority}
    (hscheme : (usualPort? scheme).isSome) (ha : a.Stands scheme) :
    ∀ c ∈ front scheme a, isControlOrBlank c = false := by
  have hall : ∀ s ∈ ["http", "https", "ws", "wss", "ftp"],
      s.toList.all fun c => isControlOrBlank c = false := by decide
  simp only [front, List.forall_mem_append, List.forall_mem_cons]
  exact ⟨List.all_iff_forall_prop.1 (hall scheme (scheme_of_usualPort? hscheme)), by decide,
    by decide, by decide, fun c hc => isControlOrBlank_of_isHostChar (ha.clean c hc)⟩

/-- A slash at the start is kept when the end is cut off. -/
theorem head?_cutAt {c : Char} {cs : List Char} (hc : c ≠ '/') (h : ∀ d ∈ cs.head?, d = '/') :
    ∀ d ∈ (Text.cutAt c cs).1.head?, d = '/' := by
  cases cs with
  | nil => simp [Text.cutAt]
  | cons d cs =>
    obtain rfl : d = '/' := h d rfl
    have hnot : c ∉ ['/'] := by simpa using hc
    have hcut : Text.cutAt c ('/' :: cs) = (['/'] ++ (Text.cutAt c cs).1, (Text.cutAt c cs).2) :=
      Text.cutAt_append_of_notMem hnot
    simp [hcut]

theorem head?_countingTail {cs : List Char} (h : ∀ d ∈ cs.head?, d = '/') :
    ∀ d ∈ (countingTail cs).head?, d = '/' := by
  cases cs with
  | nil => simp [countingTail]
  | cons d cs =>
    obtain rfl : d = '/' := h d rfl
    have hslash : ∀ c ∈ ['/'], isControlOrBlank c = false := by simp [isControlOrBlank]
    have htail := countingTail_append hslash cs
    rw [List.singleton_append] at htail
    simp [htail]

/-- Behind the slashes that open it, a text of the web is an authority up to the next slash. -/
theorem bodyOf_chars {scheme : String} {a : Authority} (hscheme : (usualPort? scheme).isSome)
    (ha : a.Stands scheme) {rest : List Char} (hrest : ∀ c ∈ rest.head?, c = '/') :
    bodyOf scheme ('/' :: '/' :: a.chars ++ rest) = .ok (some a, segmentsOf scheme rest) := by
  obtain ⟨hweb, hfile⟩ := isWebScheme_of_usualPort? hscheme
  have hnoSlash : ∀ c ∈ a.chars, isSlash true c = false :=
    fun c hc => isSlash_of_isHostChar (ha.clean c hc)
  have hdrop : ('/' :: '/' :: a.chars ++ rest).dropWhile (isSlash true) = a.chars ++ rest := by
    obtain ⟨c, cs, hchars⟩ := List.exists_cons_of_ne_nil ha.chars_ne_nil
    have hc : ¬ isSlash true c := by simp [hnoSlash c (hchars ▸ List.mem_cons_self)]
    rw [List.cons_append, List.cons_append, List.dropWhile_cons_of_pos rfl,
      List.dropWhile_cons_of_pos rfl, hchars, List.cons_append, List.dropWhile_cons_of_neg hc]
  have hcut : cutSlash true (a.chars ++ rest) = (a.chars, rest) := by
    have hkept : ∀ c ∈ a.chars, (!isSlash true c) = true := fun c hc => by simp [hnoSlash c hc]
    rw [cutSlash, List.takeWhile_append_of_pos hkept, List.dropWhile_append_of_pos hkept]
    cases rest with
    | nil => simp
    | cons c rest =>
      obtain rfl : c = '/' := hrest c rfl
      simp [isSlash]
  unfold bodyOf
  rw [if_neg hfile, if_pos hweb, hdrop, hcut]
  simp only [ha.reads hscheme]
  rfl

theorem parse_front {scheme : String} {a : Authority} (hscheme : (usualPort? scheme).isSome)
    (ha : a.Stands scheme) {rest : List Char} (hrest : ∀ c ∈ rest.head?, c = '/') :
    ∃ u, parse (String.ofList (front scheme a ++ rest)) = .ok u ∧ u.scheme = scheme ∧
      u.authority = some a ∧
      ((∀ c ∈ rest, isControlOrBlank c = false ∧ c ≠ '#' ∧ c ≠ '?') →
        u = { scheme, authority := some a, path := segmentsOf scheme rest }) := by
  obtain ⟨tail, htail⟩ : ∃ tail, countingTail rest = tail := ⟨_, rfl⟩
  have hrelevant : relevant (String.ofList (front scheme a ++ rest)) =
      scheme.toList ++ ':' :: ('/' :: '/' :: a.chars ++ tail) := by
    rw [relevant_append (isControlOrBlank_of_mem_front hscheme ha) (by simp [front]), htail]
    simp [front]
  have hopen (c : Char) (hc : ¬ isHostChar c) (hslash : c ≠ '/') : c ∉ '/' :: '/' :: a.chars := by
    simp only [List.mem_cons, not_or]
    exact ⟨hslash, hslash, fun hmem => hc (ha.clean c hmem)⟩
  have hhead : ∀ d ∈ (Text.cutAt '?' (Text.cutAt '#' tail).1).1.head?, d = '/' :=
    head?_cutAt (by decide) (head?_cutAt (by decide) (htail ▸ head?_countingTail hrest))
  have hparse : parse (String.ofList (front scheme a ++ rest)) = .ok
      { scheme
        authority := some a
        path := segmentsOf scheme (Text.cutAt '?' (Text.cutAt '#' tail).1).1
        query := (Text.cutAt '?' (Text.cutAt '#' tail).1).2.map fun cs =>
          String.ofList (percentEncode webQueryOthers cs)
        fragment := (Text.cutAt '#' tail).2.map fun cs =>
          String.ofList (percentEncode fragmentOthers cs) } := by
    rw [parse, hrelevant, scheme?_append hscheme]
    simp only [Text.cutAt_append_of_notMem (hopen '#' (by decide) (by decide)),
      Text.cutAt_append_of_notMem (hopen '?' (by decide) (by decide)),
      bodyOf_chars hscheme ha hhead, (isWebScheme_of_usualPort? hscheme).1]
    rfl
  refine ⟨_, hparse, rfl, rfl, fun hclean => ?_⟩
  obtain rfl : tail = rest := by
    rw [← htail, ← List.append_nil rest, countingTail_append fun c hc => (hclean c hc).1]
    rfl
  have hfragment : Text.cutAt '#' tail = (tail, none) :=
    Text.cutAt_of_notMem fun hmem => (hclean _ hmem).2.1 rfl
  have hquery : Text.cutAt '?' tail = (tail, none) :=
    Text.cutAt_of_notMem fun hmem => (hclean _ hmem).2.2 rfl
  simp only [hfragment, hquery, Option.map_none]

/-- The characters of a path of settled names: all of them count, and none ends the path. -/
theorem mem_pathText {names : List (List Char)} (h : ∀ name ∈ names, Settled name) {c : Char}
    (hc : c ∈ pathText names) : (0x20 < c.toNat ∧ c.toNat < 0x7F) ∧ c ≠ '#' ∧ c ≠ '?' := by
  obtain ⟨name, hname, hc⟩ := List.mem_flatMap.1 hc
  rcases List.mem_cons.1 hc with rfl | hc
  · decide
  · have hplain := (h name hname).plain c hc
    have hne (d : Char) (hd : isPlain pathOthers d = false) : c ≠ d := by
      rintro rfl
      rw [hd] at hplain
      cases hplain
    have hblank : c.toNat ≠ 0x20 := fun heq => hne ' ' (by decide) (Char.toNat_inj.1 heq)
    simp only [isPlain, Bool.not_eq_true', Bool.or_eq_false_iff, decide_eq_false_iff_not] at hplain
    exact ⟨by omega, hne '#' (by decide), hne '?' (by decide)⟩

/-- The text of a URL of the web that has only a path. -/
theorem toList_text_web (scheme : String) (a : Authority) (names : List (List Char)) :
    (Url.mk scheme (some a) (.segments (names.map String.ofList)) none none).text.toList =
      front scheme a ++ pathText names := by
  have hguard : (Url.mk scheme (some a) (.segments (names.map String.ofList)) none none).pathGuard
      = "" := rfl
  simp [text, hguard, front, Authority.toList_text, toList_text_segments]

theorem parse_pathText {scheme : String} {a : Authority} (hscheme : (usualPort? scheme).isSome)
    (ha : a.Stands scheme) {names : List (List Char)} (hne : names ≠ [])
    (h : ∀ name ∈ names, Settled name) :
    parse (String.ofList (front scheme a ++ pathText names)) =
      .ok { scheme, authority := some a, path := .segments (names.map String.ofList) } := by
  have hhead : ∀ c ∈ (pathText names).head?, c = '/' := by
    cases names <;> simp [pathText]
  obtain ⟨u, hu, -, -, hexact⟩ := parse_front hscheme ha hhead
  have hclean : ∀ c ∈ pathText names, isControlOrBlank c = false ∧ c ≠ '#' ∧ c ≠ '?' :=
    fun c hc => ⟨decide_eq_false (Nat.not_le.2 (mem_pathText h hc).1.1), (mem_pathText h hc).2⟩
  rw [hu, hexact hclean, segmentsOf_pathText hscheme hne h]

/-- Without a path a URL of the web has that of one empty name. -/
theorem parse_front_nil {scheme : String} {a : Authority} (hscheme : (usualPort? scheme).isSome)
    (ha : a.Stands scheme) : parse (String.ofList (front scheme a)) =
      .ok { scheme, authority := some a, path := .segments [""] } := by
  have hhead : ∀ c ∈ ([] : List Char).head?, c = '/' := by simp
  obtain ⟨u, hu, -, -, hexact⟩ := parse_front hscheme ha hhead
  rw [List.append_nil] at hu
  obtain ⟨hforms, hfile⟩ := isWebScheme_of_usualPort? hscheme
  rw [hu, hexact (by simp)]
  simp only [segmentsOf, hforms, hfile]
  rfl

/-! ### What has been read -/

theorem portOf_eq_ok {scheme : String} {cs : List Char} {port : Option Nat}
    (h : portOf scheme cs = .ok port) : ∀ n ∈ port, n ≤ 65535 ∧ usualPort? scheme ≠ some n := by
  cases cs with
  | nil =>
    cases h
    simp
  | cons c cs =>
    simp only [portOf] at h
    split at h
    · cases h
    · next n =>
      split at h
      · cases h
      · next hle =>
        cases h
        split
        · simp
        · next husual =>
          intro m hm
          cases hm
          exact ⟨Nat.not_lt.1 hle, husual⟩

theorem authorityOf_eq_ok {scheme : String} {cs : List Char} {a : Authority}
    (hscheme : (usualPort? scheme).isSome) (h : authorityOf scheme cs = .ok a) :
    (∃ hostChars, webHost hostChars = .ok a.host) ∧
      ∀ n ∈ a.port, n ≤ 65535 ∧ usualPort? scheme ≠ some n := by
  simp only [authorityOf, (isWebScheme_of_usualPort? hscheme).1, if_true] at h
  split at h
  · cases h
  · cases hhost : webHost (cutPort false (cutLogin cs).2).1 with
    | error flaw =>
      rw [hhost] at h
      cases h
    | ok host =>
      rw [hhost] at h
      cases hport : portOf scheme ((cutPort false (cutLogin cs).2).2.getD []) with
      | error flaw =>
        simp only [bind, Except.bind, hport] at h
        cases h
      | ok port =>
        simp only [bind, Except.bind, hport] at h
        cases h
        exact ⟨⟨_, hhost⟩, portOf_eq_ok hport⟩

theorem bodyOf_eq_ok {scheme : String} {cs : List Char} {authority : Option Authority} {path : Path}
    (hscheme : (usualPort? scheme).isSome) (h : bodyOf scheme cs = .ok (authority, path)) :
    ∃ a authorityChars pathChars, authority = some a ∧ path = segmentsOf scheme pathChars ∧
      authorityOf scheme authorityChars = .ok a := by
  obtain ⟨hweb, hfile⟩ := isWebScheme_of_usualPort? hscheme
  unfold bodyOf at h
  rw [if_neg hfile, if_pos hweb] at h
  cases ha : authorityOf scheme (cutSlash true (cs.dropWhile (isSlash true))).1 with
  | error flaw =>
    simp only [bind, Except.bind, ha] at h
    cases h
  | ok a =>
    simp only [bind, Except.bind, ha] at h
    cases h
    exact ⟨a, _, _, rfl, rfl, ha⟩

theorem parse_web {s : String} {u : Url} (h : parse s = .ok u)
    (hscheme : (usualPort? u.scheme).isSome) :
    ∃ a pathChars, u.authority = some a ∧ u.path = segmentsOf u.scheme pathChars ∧
      (∃ hostChars, webHost hostChars = .ok a.host) ∧
      ∀ n ∈ a.port, n ≤ 65535 ∧ usualPort? u.scheme ≠ some n := by
  rw [parse] at h
  split at h
  · cases h
  · next scheme rest _ =>
    cases hbody : bodyOf scheme (Text.cutAt '?' (Text.cutAt '#' rest).1).1 with
    | error flaw =>
      simp only [bind, Except.bind, hbody] at h
      cases h
    | ok body =>
      simp only [bind, Except.bind, hbody] at h
      cases h
      obtain ⟨a, authorityChars, pathChars, ha, hpath, hread⟩ := bodyOf_eq_ok hscheme hbody
      obtain ⟨hhost, hport⟩ := authorityOf_eq_ok hscheme hread
      exact ⟨a, pathChars, ha, hpath, hhost, hport⟩

end FleetDesk.Url
