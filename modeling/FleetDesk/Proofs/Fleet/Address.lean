import FleetDesk.Fleet.Client
import FleetDesk.Proofs.Url.Host
import Mathlib.Data.List.DropRight

/-!
# Which addresses can be used

A URL of HTTP is an address that requests go below (`Client.Reaches`): the base of a client is the
text of its scheme, host and port and of the names of its path, and what stands behind the next
slash does not change how those are read. A URL of another scheme is not refused
(`Client.host_and_port_accepted`). If it has no origin, its base starts with `null`, and whatever
follows that is no URL of HTTP, so requests fail one by one (`Client.create_by_scheme`).
-/

namespace FleetDesk.Fleet

/-! ### Slashes -/

theorem dropSlashesAtEnd_append {a : String} (h : a.toList.getLast? ≠ some '/') (b : String) :
    dropSlashesAtEnd (a ++ b) = a ++ dropSlashesAtEnd b := by
  have hkept : a.toList.reverse.dropWhile isSlash = a.toList.reverse := by
    cases hrev : a.toList.reverse with
    | nil => rfl
    | cons c cs =>
      have hlast : a.toList.getLast? = some c := by
        rw [List.getLast?_eq_head?_reverse, hrev]
        rfl
      refine List.dropWhile_cons_of_neg fun hc => h ?_
      rw [hlast, of_decide_eq_true hc]
  have hdrop : (b.toList.reverse ++ a.toList.reverse).dropWhile isSlash =
      b.toList.reverse.dropWhile isSlash ++ a.toList.reverse := by
    rw [List.dropWhile_append, hkept]
    split
    · next hnil => rw [List.isEmpty_iff.1 hnil, List.nil_append]
    · rfl
  rw [dropSlashesAtEnd, dropSlashesAtEnd, ← String.toList_inj]
  simp [hdrop]

theorem dropSlashesAtEnd_append_slash (s : String) :
    dropSlashesAtEnd (s ++ "/") = dropSlashesAtEnd s := by
  have hslash : isSlash '/' := rfl
  simp [dropSlashesAtEnd, hslash]

theorem dropSlashesAtEnd_idem (s : String) :
    dropSlashesAtEnd (dropSlashesAtEnd s) = dropSlashesAtEnd s := by
  simp [dropSlashesAtEnd, List.dropWhile_idempotent]

/-- Without slashes at its end, the text of a path is one of names again. -/
theorem exists_pathText {names : List (List Char)} (h : ∀ name ∈ names, Url.Settled name) :
    ∃ kept, (∀ name ∈ kept, Url.Settled name) ∧
      dropSlashesAtEnd (String.ofList (Url.pathText names)) =
        String.ofList (Url.pathText kept) := by
  induction names using List.reverseRecOn with
  | nil => exact ⟨[], by simp, rfl⟩
  | append_singleton names name ih =>
    obtain ⟨hnames, hname⟩ := List.forall_mem_append.1 h
    rcases List.eq_nil_or_concat' name with rfl | ⟨front, c, rfl⟩
    · obtain ⟨kept, hkept, heq⟩ := ih hnames
      refine ⟨kept, hkept, ?_⟩
      have htext : String.ofList (Url.pathText (names ++ [[]])) =
          String.ofList (Url.pathText names) ++ "/" := by
        simp [Url.pathText]
      rw [htext, dropSlashesAtEnd_append_slash, heq]
    · refine ⟨names ++ [front ++ [c]], h, ?_⟩
      have hslash := (hname (front ++ [c]) List.mem_cons_self).noSlash c (by simp)
      have hlast : (String.ofList (Url.pathText (names ++ [front ++ [c]]))).toList.getLast? ≠
          some '/' := by
        rw [String.toList_ofList, Url.pathText, List.flatMap_append, List.flatMap_singleton,
          ← List.cons_append, ← List.append_assoc, List.getLast?_concat, ne_eq, Option.some.injEq]
        rintro rfl
        cases hslash
      simpa [dropSlashesAtEnd] using dropSlashesAtEnd_append hlast ""

/-! ### Bases -/

section

variable {scheme : String} {a : Url.Authority} {names : List (List Char)}

/-- The text of an address: scheme, host and port, and the names of a path. -/
def baseText (scheme : String) (a : Url.Authority) (names : List (List Char)) : String :=
  String.ofList (Url.front scheme a) ++ String.ofList (Url.pathText names)

theorem ofList_front (scheme : String) (a : Url.Authority) :
    String.ofList (Url.front scheme a) = scheme ++ ":" ++ a.text := by
  rw [← String.toList_inj]
  simp [Url.front, Url.Authority.toList_text]

theorem origin_web {u : Url} (hscheme : (Url.usualPort? u.scheme).isSome)
    (ha : u.authority = some a) : u.origin = String.ofList (Url.front u.scheme a) := by
  have hblob : u.scheme ≠ "blob" := by
    intro heq
    rw [heq] at hscheme
    exact absurd hscheme (by decide)
  rw [Url.origin, Url.originWithin, if_neg hblob, Url.webOrigin?, if_pos hscheme, ha, ofList_front]
  rfl

variable (hscheme : (Url.usualPort? scheme).isSome) (ha : a.Stands scheme)

include hscheme ha

omit hscheme in
theorem getLast?_front : (Url.front scheme a).getLast? ≠ some '/' := by
  obtain ⟨chars, c, hchars⟩ := (List.eq_nil_or_concat' a.chars).resolve_left ha.chars_ne_nil
  have hclean := Url.isSlash_of_isHostChar (ha.clean c (by simp [hchars]))
  have hfront : Url.front scheme a = scheme.toList ++ ':' :: '/' :: '/' :: chars ++ [c] := by
    simp [Url.front, hchars]
  rw [hfront, List.getLast?_concat, ne_eq, Option.some.injEq]
  rintro rfl
  cases hclean

/-- The base of a URL of the web whose path has these names. -/
theorem baseOf_segments {u : Url} (hu : u.scheme = scheme) (hauthority : u.authority = some a)
    (hpath : u.path = .segments (names.map String.ofList)) : baseOf u =
      String.ofList (Url.front scheme a) ++
        dropSlashesAtEnd (String.ofList (Url.pathText names)) := by
  have htext : u.path.text = String.ofList (Url.pathText names) := by
    rw [hpath, ← Url.toList_text_segments, String.ofList_toList]
  have hsearch : u.withoutSearch.path.text = u.path.text := by
    rw [Url.withoutSearch, hpath]
  have hlast : (String.ofList (Url.front scheme a)).toList.getLast? ≠ some '/' := by
    rw [String.toList_ofList]
    exact getLast?_front ha
  rw [baseOf, origin_web (hu ▸ hscheme) hauthority, hu, hsearch, htext,
    dropSlashesAtEnd_append hlast]

/-- A text that starts with a base is a URL of the same scheme, host and port. -/
theorem parse_below (path : String) :
    ∃ t, Url.parse (below (baseText scheme a names) path) = .ok t ∧ t.scheme = scheme ∧
      t.authority = some a := by
  obtain ⟨rest, hrest⟩ : ∃ rest, rest =
      Url.pathText names ++ '/' :: path.toList.dropWhile isSlash := ⟨_, rfl⟩
  have hhead : ∀ c ∈ rest.head?, c = '/' := by
    rw [hrest]
    cases names <;> simp [Url.pathText]
  have htext : below (baseText scheme a names) path =
      String.ofList (Url.front scheme a ++ rest) := by
    rw [← String.toList_inj, hrest]
    simp [below, baseText, dropSlashesAtStart]
  obtain ⟨t, ht, hts, hta, -⟩ := Url.parse_front hscheme ha hhead
  exact ⟨t, htext ▸ ht, hts, hta⟩

theorem not_isBlank_of_mem_baseText (hnames : ∀ name ∈ names, Url.Settled name) :
    ∀ c ∈ (baseText scheme a names).toList, ¬ Text.isBlank c := by
  have hseen {c : Char} (hc : 0x20 < c.toNat ∧ c.toNat < 0x7F) : ¬ Text.isBlank c := by
    intro hblank
    have hranges := Text.toNat_of_isBlank hblank
    omega
  have hall : ∀ s ∈ ["http", "https", "ws", "wss", "ftp"],
      s.toList.all fun c => 0x20 < c.toNat ∧ c.toNat < 0x7F := by decide
  have hfront : ∀ c ∈ Url.front scheme a, 0x20 < c.toNat ∧ c.toNat < 0x7F := by
    simp only [Url.front, List.forall_mem_append, List.forall_mem_cons]
    refine ⟨List.all_iff_forall_prop.1 (hall scheme (Url.scheme_of_usualPort? hscheme)), by decide,
      by decide, by decide, fun c hc => ?_⟩
    have hclean := ha.clean c hc
    simp only [Url.isHostChar, Bool.and_eq_true, decide_eq_true_eq] at hclean
    exact hclean.1
  simp only [baseText, String.toList_append, String.toList_ofList, List.forall_mem_append]
  exact ⟨fun c hc => hseen (hfront c hc), fun c hc => hseen (Url.mem_pathText hnames hc).1⟩

/-- A base without slashes at its end is the base of itself. -/
theorem address_baseText (hnames : ∀ name ∈ names, Url.Settled name)
    (hlast : dropSlashesAtEnd (String.ofList (Url.pathText names)) =
      String.ofList (Url.pathText names)) :
    address (baseText scheme a names) = .ok (baseText scheme a names) := by
  have htrim := Text.trim_eq_self (not_isBlank_of_mem_baseText hscheme ha hnames)
  obtain ⟨u, hu, hbase⟩ : ∃ u, Url.parse (baseText scheme a names) = .ok u ∧
      baseOf u = baseText scheme a names := by
    cases names with
    | nil =>
      have hnil : baseText scheme a [] = String.ofList (Url.front scheme a) := String.append_empty
      have hpath : [""] = [[]].map String.ofList := rfl
      rw [hnil]
      refine ⟨_, Url.parse_front_nil hscheme ha, ?_⟩
      rw [hpath, baseOf_segments hscheme ha rfl rfl rfl]
      exact String.append_empty
    | cons name names =>
      refine ⟨_, String.ofList_append ▸ Url.parse_pathText hscheme ha (by simp) hnames, ?_⟩
      rw [baseOf_segments hscheme ha rfl rfl rfl, hlast, baseText]
  have hne : baseText scheme a names ≠ "" := by
    rintro hempty
    rw [hempty] at hu
    cases hu
  rw [address, htrim]
  simp only [if_neg hne, hu, hbase]

end

theorem baseOf_web {s : String} {u : Url} (hu : Url.parse s = .ok u)
    (hscheme : (Url.usualPort? u.scheme).isSome) :
    ∃ a names, u.authority = some a ∧ a.Stands u.scheme ∧ (∀ name ∈ names, Url.Settled name) ∧
      dropSlashesAtEnd u.path.text = String.ofList (Url.pathText names) ∧
      baseOf u = baseText u.scheme a names := by
  obtain ⟨a, pathChars, ha, hpath, ⟨hostChars, hhost⟩, hport⟩ := Url.parse_web hu hscheme
  have hstands : a.Stands u.scheme := ⟨Url.stands_of_webHost hhost, hport⟩
  obtain ⟨names, -, hsettled, hnames⟩ := Url.segmentsOf_eq hscheme pathChars
  obtain ⟨kept, hkept, hdrop⟩ := exists_pathText hsettled
  have hsegments := hpath.trans hnames
  have hbase := baseOf_segments hscheme hstands rfl ha hsegments
  have htext : u.path.text = String.ofList (Url.pathText names) := by
    rw [hsegments, ← Url.toList_text_segments, String.ofList_toList]
  rw [hdrop] at hbase
  exact ⟨a, kept, ha, hstands, hkept, htext ▸ hdrop, hbase⟩

/-! ### Clients -/

/-- Requests go below a URL. -/
structure Client.Reaches (u : Url) (c : Client) : Prop where
  url (r : Request) : ∃ a, u.authority = some a ∧ c.url r = u.scheme ++ ":" ++ a.text ++
    dropSlashesAtEnd u.path.text ++ "/" ++ dropSlashesAtStart r.path
  /-- A request depends on nothing but what answers it there. -/
  dials (r : Request) : ∃ t, target (c.url r) = .ok t ∧ t.scheme = u.scheme ∧
    t.authority = u.authority ∧ ∀ transport transport' : Http.Transport,
      transport (c.message t r) = transport' (c.message t r) →
        c.request transport r = c.request transport' r
  /-- A path without steps, and without characters that are to be encoded, is dialled as it is. -/
  exact (r : Request) (names : List (List Char)) : (∀ name ∈ names, Url.Settled name) →
    "/" ++ dropSlashesAtStart r.path = String.ofList (Url.pathText names) →
      ∀ t, target (c.url r) = .ok t → t.text = c.url r
  again : address c.base = .ok c.base

/-- Requests fail before anything is sent. -/
def Client.SendsNothing (c : Client) : Prop :=
  ∀ r, ∃ flaw, (flaw = .badAccessKey ∨ ∃ why, flaw = .notSent why) ∧
    ∀ transport, c.request transport r = .error flaw

theorem target_eq {text : String} {t : Url} (ht : Url.parse text = .ok t) (hhost : t.hasHost) :
    target text = if t.scheme = "http" ∨ t.scheme = "https" then .ok t
      else .error ("builder error for url (" ++ t.text ++ "): URL scheme is not allowed") := by
  simp [target, ht, hhost]

theorem hasHost_of_stands {scheme : String} {a : Url.Authority} {t : Url} (ha : a.Stands scheme)
    (ht : t.authority = some a) : t.hasHost := by
  have hname : a.host ≠ .name "" := fun heq => ha.host.nonempty (by rw [heq]; rfl)
  simp [Url.hasHost, ht, hname]

theorem Client.sendsNothing_of_target {c : Client} (h : ∀ r, ∃ why, target (c.url r) = .error why) :
    c.SendsNothing := by
  intro r
  obtain ⟨why, hwhy⟩ := h r
  by_cases hkey : c.accessKey.toList.all isHeaderChar
  · refine ⟨.notSent why, .inr ⟨why, rfl⟩, fun transport => ?_⟩
    simp [request, hkey, hwhy, Except.mapError, bind, Except.bind]
  · refine ⟨.badAccessKey, .inl rfl, fun transport => ?_⟩
    simp [request, hkey]

theorem Client.request_congr {c : Client} {r : Request} {t : Url} (ht : target (c.url r) = .ok t)
    {transport transport' : Http.Transport}
    (h : transport (c.message t r) = transport' (c.message t r)) :
    c.request transport r = c.request transport' r := by
  rw [request, request, ht]
  simp only [Except.mapError, bind, Except.bind, h]

theorem parse_scheme {s : String} {u : Url} (h : Url.parse s = .ok u) :
    ∃ rest, Url.scheme? (Url.relevant s) = some (u.scheme, rest) := by
  rw [Url.parse] at h
  split at h
  · cases h
  · next scheme rest hscheme =>
    cases hbody : Url.bodyOf scheme (Text.cutAt '?' (Text.cutAt '#' rest).1).1 with
    | error flaw =>
      simp only [bind, Except.bind, hbody] at h
      cases h
    | ok body =>
      simp only [bind, Except.bind, hbody] at h
      cases h
      exact ⟨rest, hscheme⟩

/-- A scheme goes as far as the first colon. -/
theorem scheme?_append_eq_some {front cs rest : List Char} {scheme : String} (hcolon : ':' ∉ front)
    (h : Url.scheme? (front ++ cs) = some (scheme, rest)) :
    ∃ name, scheme.toList = (front ++ name).map Char.toLower := by
  rw [Url.scheme?, Text.cutAt_append_of_notMem hcolon] at h
  split at h
  · next c name after hcut =>
    obtain ⟨hname, -⟩ := Prod.mk.inj hcut
    split at h
    · obtain ⟨rfl, -⟩ := Prod.mk.inj (Option.some.inj h)
      exact ⟨_, by rw [hname, String.toList_ofList]⟩
    · cases h
  · cases h

/-- Nothing behind `null` makes it a URL of HTTP. -/
theorem target_null (rest : String) : ∃ why, target ("null" ++ rest) = .error why := by
  cases hparse : Url.parse ("null" ++ rest) with
  | error flaw => exact ⟨_, by rw [target, hparse]⟩
  | ok t =>
    obtain ⟨after, hscheme⟩ := parse_scheme hparse
    have hnull : ∀ c ∈ "null".toList, Url.isControlOrBlank c = false :=
      List.all_iff_forall_prop.1 (by decide)
    have hrelevant := Url.relevant_append hnull (by decide) rest.toList
    rw [String.ofList_append, String.ofList_toList, String.ofList_toList] at hrelevant
    rw [hrelevant] at hscheme
    obtain ⟨name, hname⟩ := scheme?_append_eq_some (by decide) hscheme
    have hother : t.scheme ≠ "http" ∧ t.scheme ≠ "https" := by
      constructor <;>
        · intro heq
          rw [heq] at hname
          simp at hname
    refine ⟨"builder error for url (" ++ t.text ++ "): URL scheme is not allowed", ?_⟩
    simp [target, hparse, hother]

theorem origin_other {u : Url} (hscheme : Url.usualPort? u.scheme = none)
    (hblob : u.scheme = "blob" → u.origin = "null") : u.origin = "null" := by
  by_cases h : u.scheme = "blob"
  · exact hblob h
  · rw [Url.origin, Url.originWithin, if_neg h, Url.webOrigin?, hscheme]
    rfl

theorem Client.create_eq_ok {raw accessKey : String} {u : Url}
    (hu : Url.parse (Text.trim raw) = .ok u) :
    create raw accessKey = .ok ⟨baseOf u, accessKey⟩ := by
  have hne : Text.trim raw ≠ "" := by
    intro hempty
    rw [hempty] at hu
    cases hu
  simp [create, address, hne, hu, Except.map]

theorem Client.create_eq_error {raw accessKey : String} {flaw : Url.Flaw}
    (hflaw : Url.parse (Text.trim raw) = .error flaw) :
    ∃ why, create raw accessKey = .error why ∧ why.toFault.kind = .invalidParams := by
  by_cases hne : Text.trim raw = ""
  · exact ⟨.missing, by simp [create, address, hne, Except.map], rfl⟩
  · exact ⟨.notUrl (Text.trim raw), by simp [create, address, hne, hflaw, Except.map], rfl⟩

theorem below_eq (scheme : String) (a : Url.Authority) (names : List (List Char)) (path : String) :
    below (baseText scheme a names) path = scheme ++ ":" ++ a.text ++
      String.ofList (Url.pathText names) ++ "/" ++ dropSlashesAtStart path := by
  rw [below, baseText, ofList_front]

theorem Client.reaches_of_parse {s accessKey : String} {u : Url} (hu : Url.parse s = .ok u)
    (hscheme : u.scheme = "http" ∨ u.scheme = "https") :
    Client.Reaches u ⟨baseOf u, accessKey⟩ := by
  have hweb : (Url.usualPort? u.scheme).isSome := by
    rcases hscheme with h | h <;> rw [h] <;> decide
  obtain ⟨a, names, ha, hstands, hnames, hpath, hbase⟩ := baseOf_web hu hweb
  have hurl (r : Request) : Client.url ⟨baseOf u, accessKey⟩ r =
      below (baseText u.scheme a names) r.path := by rw [Client.url, hbase]
  have htarget (r : Request) {t : Url}
      (ht : Url.parse (below (baseText u.scheme a names) r.path) = .ok t)
      (hts : t.scheme = u.scheme) (hta : t.authority = some a) :
      target (Client.url ⟨baseOf u, accessKey⟩ r) = .ok t := by
    rw [hurl, target_eq ht (hasHost_of_stands hstands hta), hts, if_pos hscheme]
  refine ⟨fun r => ⟨a, ha, ?_⟩, fun r => ?_, fun r others hothers hplain t ht => ?_, ?_⟩
  · rw [hurl, below_eq, hpath]
  · obtain ⟨t, ht, hts, hta⟩ := parse_below hweb hstands r.path
    have hdial := htarget r ht hts hta
    exact ⟨t, hdial, hts, hta.trans ha.symm, fun _ _ => Client.request_congr hdial⟩
  · have hne : names ++ others ≠ [] := by
      rintro hnil
      rw [(List.append_eq_nil_iff.1 hnil).2] at hplain
      exact absurd (congrArg String.toList hplain) (by simp [Url.pathText])
    have htext : below (baseText u.scheme a names) r.path =
        String.ofList (Url.front u.scheme a ++ Url.pathText (names ++ others)) := by
      have hbelow : below (baseText u.scheme a names) r.path =
          baseText u.scheme a names ++ ("/" ++ dropSlashesAtStart r.path) := String.append_assoc
      rw [hbelow, hplain, ← String.toList_inj]
      simp [baseText, Url.pathText]
    have hread := Url.parse_pathText hweb hstands hne
      (List.forall_mem_append.2 ⟨hnames, hothers⟩)
    rw [← htext] at hread
    rw [htarget r hread rfl rfl] at ht
    obtain rfl := Except.ok.inj ht
    rw [hurl, htext, ← Url.toList_text_web, String.ofList_toList]
  · have hlast : dropSlashesAtEnd (String.ofList (Url.pathText names)) =
        String.ofList (Url.pathText names) := by
      rw [← hpath, dropSlashesAtEnd_idem]
    simp only [hbase]
    exact address_baseText hweb hstands hnames hlast

/-- A URL of the web that is none of HTTP is no URL to be dialled. -/
theorem target_web {s : String} {u : Url} (hu : Url.parse s = .ok u)
    (hweb : (Url.usualPort? u.scheme).isSome) (hother : ¬ (u.scheme = "http" ∨ u.scheme = "https"))
    (path : String) : ∃ why, target (below (baseOf u) path) = .error why := by
  obtain ⟨a, names, -, hstands, -, -, hbase⟩ := baseOf_web hu hweb
  obtain ⟨t, ht, hts, hta⟩ := parse_below hweb hstands path
  rw [hbase, target_eq ht (hasHost_of_stands hstands hta), hts, if_neg hother]
  exact ⟨_, rfl⟩

theorem target_no_origin {u : Url} (h : u.origin = "null") (path : String) :
    ∃ why, target (below (baseOf u) path) = .error why := by
  have hbase : baseOf u = "null" ++ dropSlashesAtEnd u.withoutSearch.path.text := by
    rw [baseOf, h, dropSlashesAtEnd_append (by decide)]
  rw [below, hbase, String.append_assoc, String.append_assoc]
  exact target_null _

/-- A text that is no URL is refused. A URL of HTTP is one that requests go below. No other URL is
refused, but no request to it is sent, unless it is a `blob` around a URL that has an origin. -/
theorem Client.create_by_scheme (raw accessKey : String) :
    (∀ flaw, Url.parse (Text.trim raw) = .error flaw →
      ∃ why, create raw accessKey = .error why ∧ why.toFault.kind = .invalidParams) ∧
    ∀ u, Url.parse (Text.trim raw) = .ok u →
      ∃ c, create raw accessKey = .ok c ∧ c.accessKey = accessKey ∧
        (u.scheme = "http" ∨ u.scheme = "https" → c.Reaches u) ∧
        (¬ (u.scheme = "http" ∨ u.scheme = "https") → (u.scheme = "blob" → u.origin = "null") →
          c.SendsNothing) := by
  refine ⟨fun flaw => create_eq_error, fun u hu =>
    ⟨_, create_eq_ok hu, rfl, reaches_of_parse hu, fun hother hblob => ?_⟩⟩
  refine sendsNothing_of_target fun r => ?_
  by_cases hweb : (Url.usualPort? u.scheme).isSome
  · exact target_web hu hweb hother r.path
  · exact target_no_origin (origin_other (Option.not_isSome_iff_eq_none.1 hweb) hblob) r.path

/-- A client for a port of the desk's own machine. -/
theorem Client.create_by_scheme_loopback : ∃ u c,
    Url.parse (Text.trim " http://127.0.0.1:8080/v1 ") = .ok u ∧ u.scheme = "http" ∧
      create " http://127.0.0.1:8080/v1 " "k" = .ok c ∧ c.Reaches u := by
  have hstands : Url.Authority.Stands "http" ⟨.v4 0x7F000001, some 8080⟩ :=
    ⟨Url.stands_v4 (by decide), fun p hp => by cases hp; decide⟩
  have hsettled : ∀ name ∈ [['v', '1']], Url.Settled name :=
    List.forall_mem_singleton.2 ⟨by simp; decide, by simp; decide, by decide, by decide⟩
  have hparse := Url.parse_pathText (by decide) hstands (by simp) hsettled
  have htext : Text.trim " http://127.0.0.1:8080/v1 " = String.ofList
      (Url.front "http" ⟨.v4 0x7F000001, some 8080⟩ ++ Url.pathText [['v', '1']]) := by decide
  rw [← htext] at hparse
  obtain ⟨c, hc, -, hreaches, -⟩ :=
    (create_by_scheme " http://127.0.0.1:8080/v1 " "k").2 _ hparse
  exact ⟨_, c, hparse, rfl, hc, hreaches (.inl rfl)⟩

/-- A host and a port make a URL of the scheme that the host is taken for. -/
theorem Client.host_and_port_accepted :
    Url.parse "localhost:8080" =
        .ok { scheme := "localhost", authority := none, path := .flat "8080" } ∧
      create "localhost:8080" "k" = .ok ⟨"null8080", "k"⟩ ∧
      ∀ transport, request ⟨"null8080", "k"⟩ transport (.get "/app/nodes") =
        .error (.notSent "builder error: relative URL without a base") :=
  ⟨rfl, rfl, fun _ => rfl⟩

end FleetDesk.Fleet
