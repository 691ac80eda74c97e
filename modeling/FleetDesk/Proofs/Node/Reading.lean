import FleetDesk.Node.Record
import FleetDesk.Proofs.Decimal.Port
import FleetDesk.Proofs.Json.Fields

/-!
# What nodes are read from

`Tunnel.Describes` and `Node.Describes` say in plain terms which object stands for which tunnel or
node, and `Tunnel.Typed` and `Node.Typed` which objects stand for one at all. What is read are these
objects, and short arrays that have the values of the fields at their places (`Tunnel.read_eq_ok`,
`Node.read_eq_ok`).
-/

namespace FleetDesk

open Decode

/-! ### Ports -/

namespace Tunnel

/-- A port as a whole number, or as a text with blanks around it or without. -/
inductive GivesPort : Option Json → Nat → Prop
  | number {p : Nat} (h : p ≤ maxPort) : GivesPort (some (Json.nat p)) p
  | text {s : String} {p : Nat} (h : WritesPort (Text.trim s) p) : GivesPort (some (.string s)) p

theorem unsigned?_filter_eq_some {n : Number} {p : Nat} :
    n.unsigned?.filter (· ≤ maxPort) = some p ↔ n = .int p ∧ p ≤ maxPort := by
  have hmax : (maxPort : Int) ≤ Number.maxUnsigned := by decide
  rw [Option.filter_eq_some_iff, decide_eq_true_iff]
  refine and_congr_left fun hp => ?_
  cases n with
  | real x => simp [Number.unsigned?]
  | int i =>
    simp only [Number.unsigned?, Option.ite_none_right_eq_some, Bool.and_eq_true,
      decide_eq_true_iff, Option.some.injEq, Number.int.injEq]
    omega

theorem portOf_eq_some {v : Json} {p : Nat} : portOf v = some p ↔ GivesPort (some v) p := by
  cases v with
  | number n =>
    rw [portOf, unsigned?_filter_eq_some]
    constructor
    · rintro ⟨rfl, hp⟩
      exact .number hp
    · rintro ⟨hp⟩
      exact ⟨rfl, hp⟩
  | string s =>
    rw [portOf, port?_eq_some]
    refine ⟨.text, fun h => ?_⟩
    cases h with
    | text h => exact h
  | _ => exact iff_of_false nofun nofun

theorem bind_portOf_eq_some {x : Option Json} {p : Nat} :
    x.bind portOf = some p ↔ GivesPort x p := by
  cases x with
  | none => exact iff_of_false nofun nofun
  | some v => exact portOf_eq_some

end Tunnel

/-! ### Texts -/

/-- Nothing, null, or a text. -/
def OptionalText (x : Option Json) : Prop := Optional (fun v => ∃ s, v = .string s) x

/-- A text; nothing and null give the empty one. -/
def GivesText (x : Option Json) (s : String) : Prop := Gives "" (fun v s => v = .string s) x s

theorem optionalText_iff {x : Option Json} : OptionalText x ↔ ∃ s, GivesText x s :=
  exists_gives.symm

theorem given_text {x : Option Json} {s : String} :
    given "" Tunnel.text x = .ok s ↔ GivesText x s := by
  have hnull : ∀ s, Decode.text .null ≠ .ok s := fun s h => by cases h
  refine (given_orDefault_eq_ok hnull).trans ?_
  simp only [text_eq_ok, GivesText]

/-! ### Tunnels -/

namespace Tunnel

/-- The members of an object that stands for the tunnel. -/
structure Describes (v : Json) (t : Tunnel) : Prop where
  domain : GivesText (v.get? "domain") t.domain
  protocol : GivesText (v.get? "protocol") t.protocol
  serverUrl : GivesText (v.get? "server_url") t.serverUrl
  port : ∀ p, t.port = some p ↔ GivesPort (v.get? "port") p

/-- The members of an object that stands for some tunnel. -/
def Typed (v : Json) : Prop :=
  ∀ key ∈ ["domain", "protocol", "server_url"], OptionalText (v.get? key)

theorem exists_describes {v : Json} : (∃ t, Describes v t) ↔ Typed v := by
  simp only [Typed, List.forall_mem_cons, optionalText_iff]
  constructor
  · rintro ⟨t, h⟩
    exact ⟨⟨_, h.domain⟩, ⟨_, h.protocol⟩, ⟨_, h.serverUrl⟩, by simp⟩
  · rintro ⟨⟨domain, hdomain⟩, ⟨protocol, hprotocol⟩, ⟨serverUrl, hserverUrl⟩, -⟩
    exact ⟨⟨domain, protocol, (v.get? "port").bind portOf, serverUrl⟩, hdomain, hprotocol,
      hserverUrl, fun p => bind_portOf_eq_some⟩

theorem given_port {x : Option Json} {p? : Option Nat} :
    given none (lenient portOf) x = .ok p? ↔ ∀ p, p? = some p ↔ GivesPort x p := by
  simp only [given_lenient_eq_ok, bind_portOf_eq_some]

theorem read_object_eq_ok {ms : List (String × Json)} {t : Tunnel} :
    read (.object ms) = .ok t ↔ Describes (.object ms) t := by
  have hread : read (.object ms) = (do
      let domain ← given "" text (Json.member? "domain" ms)
      let port ← given none (lenient portOf) (Json.member? "port" ms)
      let protocol ← given "" text (Json.member? "protocol" ms)
      let serverUrl ← given "" text (Json.member? "server_url" ms)
      .ok { domain, protocol, port, serverUrl }) := by
    have hslots : ∀ slot ∈ shape.slots, slot.required = false := by simp [shape]
    refine (Shape.read_object_eq hslots {} ms).trans ?_
    refine .trans (Shape.foldlM_fillNamed_cons text (fun domain => { domain }) (fun _ => rfl) rfl)
      (bind_congr fun domain => ?_)
    refine .trans (Shape.foldlM_fillNamed_cons (lenient portOf) (fun port => { domain, port })
      (fun _ => rfl) rfl) (bind_congr fun port => ?_)
    refine .trans (Shape.foldlM_fillNamed_cons text (fun protocol => { domain, port, protocol })
      (fun _ => rfl) rfl) (bind_congr fun protocol => ?_)
    exact .trans (Shape.foldlM_fillNamed_cons text
      (fun serverUrl => { domain, port, protocol, serverUrl }) (fun _ => rfl) rfl) rfl
  simp only [hread, bind_eq_ok_iff, Except.ok.injEq, given_text, given_port]
  constructor
  · rintro ⟨domain, hdomain, port, hport, protocol, hprotocol, serverUrl, hserverUrl, rfl⟩
    exact ⟨hdomain, hprotocol, hserverUrl, hport⟩
  · rintro ⟨hdomain, hprotocol, hserverUrl, hport⟩
    exact ⟨_, hdomain, _, hport, _, hprotocol, _, hserverUrl, rfl⟩

theorem read_array_eq_ok {items : List Json} {t : Tunnel} :
    read (.array items) = .ok t ↔ items.length ≤ 4 ∧ Describes (shape.named (.array items)) t := by
  have hread : (List.range 4).foldlM (shape.fillPlaced items) {} = (do
      let domain ← given "" text items[0]?
      let protocol ← given "" text items[1]?
      let port ← given none (lenient portOf) items[2]?
      let serverUrl ← given "" text items[3]?
      .ok { domain, protocol, port, serverUrl }) := by
    refine .trans (Shape.foldlM_fillPlaced_cons text (fun domain => { domain }) rfl rfl
      (fun _ => rfl) rfl) (bind_congr fun domain => ?_)
    refine .trans (Shape.foldlM_fillPlaced_cons text (fun protocol => { domain, protocol }) rfl rfl
      (fun _ => rfl) rfl) (bind_congr fun protocol => ?_)
    refine .trans (Shape.foldlM_fillPlaced_cons (lenient portOf)
      (fun port => { domain, protocol, port }) rfl rfl (fun _ => rfl) rfl) (bind_congr fun port => ?_)
    exact .trans (Shape.foldlM_fillPlaced_cons text
      (fun serverUrl => { domain, protocol, port, serverUrl }) rfl rfl (fun _ => rfl) rfl) rfl
  have hlength : shape.slots.length = 4 := rfl
  have hget : ∀ (place : Nat) {name}, shape.names[place]? = some name →
      (shape.named (.array items)).get? name = items[place]? :=
    fun place _ h => Shape.get?_named (by decide) place h items
  rw [read, Shape.read_array_eq_ok, hlength, hread]
  simp only [bind_eq_ok_iff, Except.ok.injEq, given_text, given_port, ← hget 0 rfl, ← hget 1 rfl,
    ← hget 2 rfl, ← hget 3 rfl]
  refine and_congr_right fun _ => ⟨?_, ?_⟩
  · rintro ⟨domain, hdomain, protocol, hprotocol, port, hport, serverUrl, hserverUrl, rfl⟩
    exact ⟨hdomain, hprotocol, hserverUrl, hport⟩
  · rintro ⟨hdomain, hprotocol, hserverUrl, hport⟩
    exact ⟨_, hdomain, _, hprotocol, _, hport, _, hserverUrl, rfl⟩

/-- An object that describes the tunnel, or an array that has the members of one at their places. -/
def Stands (v : Json) (t : Tunnel) : Prop := shape.Takes v ∧ Describes (shape.named v) t

theorem read_eq_ok {v : Json} {t : Tunnel} : read v = .ok t ↔ Stands v t := by
  cases v with
  | object ms => exact read_object_eq_ok.trans (and_iff_right trivial).symm
  | array items => exact read_array_eq_ok
  | _ => exact iff_of_false nofun nofun

/-- An object, or an array that is not too long, whose texts are texts. -/
def Readable (v : Json) : Prop := shape.Takes v ∧ Typed (shape.named v)

theorem exists_read {v : Json} : (∃ t, read v = .ok t) ↔ Readable v := by
  simp only [read_eq_ok, Stands, exists_and_left, exists_describes, Readable]

theorem stands_iff_of_isObject {v : Json} (h : v.isObject) {t : Tunnel} :
    Stands v t ↔ Describes v t := by
  cases v with
  | object ms => exact and_iff_right trivial
  | _ => cases h

end Tunnel

/-! ### Nodes -/

namespace Node

/-- An array, item by item. -/
def Lists {α : Type} (item : Json → α → Prop) (v : Json) (xs : List α) : Prop :=
  ∃ items, v = .array items ∧ List.Forall₂ item items xs

/-- The members of an object that stands for the node; `tunnel` says what stands for a tunnel. -/
structure Describes (tunnel : Json → Tunnel → Prop) (v : Json) (n : Node) : Prop where
  name : GivesText (v.get? "name") n.name
  ipv4 : GivesText (v.get? "ipv4") n.ipv4
  ipv6 : GivesText (v.get? "ipv6") n.ipv6
  country : GivesText (v.get? "country") n.country
  region : GivesText (v.get? "region") n.region
  tunnels : Gives [] (Lists tunnel) (v.get? "tunnels") n.tunnels
  metadata : ∀ ms, n.metadata = some ms ↔ v.get? "meta" = some (.object ms)

/-- The members of an object that stands for some node. -/
structure Typed (tunnel : Json → Prop) (v : Json) : Prop where
  texts : ∀ key ∈ ["name", "ipv4", "ipv6", "country", "region"], OptionalText (v.get? key)
  tunnels : Optional (fun ts => ∃ items, ts = .array items ∧ ∀ t ∈ items, tunnel t)
    (v.get? "tunnels")

theorem exists_lists {tunnel : Json → Tunnel → Prop} {v : Json} : (∃ ts, Lists tunnel v ts) ↔
    ∃ items, v = .array items ∧ ∀ item ∈ items, ∃ t, tunnel item t := by
  simp only [Lists, ← exists_forall₂, ← exists_and_left]
  exact exists_comm

theorem bind_metadataOf_eq_some {x : Option Json} {ms : List (String × Json)} :
    x.bind metadataOf = some ms ↔ x = some (.object ms) := by
  rcases x with _ | _ | _ | _ | _ | _ | ms' <;> simp [metadataOf]

theorem exists_describes {tunnel : Json → Tunnel → Prop} {v : Json} :
    (∃ n, Describes tunnel v n) ↔ Typed (fun item => ∃ t, tunnel item t) v := by
  constructor
  · rintro ⟨n, h⟩
    refine ⟨?_, ?_⟩
    · simp only [List.forall_mem_cons, optionalText_iff]
      exact ⟨⟨_, h.name⟩, ⟨_, h.ipv4⟩, ⟨_, h.ipv6⟩, ⟨_, h.country⟩, ⟨_, h.region⟩, by simp⟩
    · simpa only [exists_lists] using exists_gives.1 ⟨_, h.tunnels⟩
  · rintro ⟨htexts, htunnels⟩
    simp only [List.forall_mem_cons, optionalText_iff] at htexts
    obtain ⟨⟨name, hname⟩, ⟨ipv4, hipv4⟩, ⟨ipv6, hipv6⟩, ⟨country, hcountry⟩,
      ⟨region, hregion⟩, -⟩ := htexts
    simp only [← exists_lists] at htunnels
    obtain ⟨tunnels, htunnels⟩ := exists_gives.2 htunnels
    exact ⟨⟨name, ipv4, ipv6, country, region, tunnels, (v.get? "meta").bind metadataOf⟩, hname,
      hipv4, hipv6, hcountry, hregion, htunnels, fun ms => bind_metadataOf_eq_some⟩

theorem readTunnels_eq_ok {v : Json} {ts : List Tunnel} :
    Decode.list Tunnel.read v = .ok ts ↔ Lists Tunnel.Stands v ts := by
  cases v with
  | array items => simp [Decode.list, Lists, mapM_eq_ok, Tunnel.read_eq_ok]
  | _ => exact iff_of_false nofun nofun

theorem given_tunnels {x : Option Json} {ts : List Tunnel} :
    given [] (orDefault [] (Decode.list Tunnel.read)) x = .ok ts ↔
      Gives [] (Lists Tunnel.Stands) x ts := by
  have hnull : ∀ ts, Decode.list Tunnel.read .null ≠ .ok ts := fun ts h => by cases h
  refine (given_orDefault_eq_ok hnull).trans ?_
  simp only [readTunnels_eq_ok]

theorem given_metadata {x : Option Json} {metadata : Option (List (String × Json))} :
    given none (lenient metadataOf) x = .ok metadata ↔
      ∀ ms, metadata = some ms ↔ x = some (.object ms) := by
  simp only [given_lenient_eq_ok, bind_metadataOf_eq_some]

theorem read_object_eq_ok {ms : List (String × Json)} {n : Node} :
    read (.object ms) = .ok n ↔ Describes Tunnel.Stands (.object ms) n := by
  have hread : read (.object ms) = (do
      let country ← given "" Tunnel.text (Json.member? "country" ms)
      let ipv4 ← given "" Tunnel.text (Json.member? "ipv4" ms)
      let ipv6 ← given "" Tunnel.text (Json.member? "ipv6" ms)
      let metadata ← given none (lenient metadataOf) (Json.member? "meta" ms)
      let name ← given "" Tunnel.text (Json.member? "name" ms)
      let region ← given "" Tunnel.text (Json.member? "region" ms)
      let tunnels ← given [] (orDefault [] (Decode.list Tunnel.read)) (Json.member? "tunnels" ms)
      .ok { name, ipv4, ipv6, country, region, tunnels, metadata }) := by
    have hslots : ∀ slot ∈ shape.slots, slot.required = false := by simp [shape]
    refine (Shape.read_object_eq hslots {} ms).trans ?_
    refine .trans (Shape.foldlM_fillNamed_cons Tunnel.text (fun country => { country })
      (fun _ => rfl) rfl) (bind_congr fun country => ?_)
    refine .trans (Shape.foldlM_fillNamed_cons Tunnel.text (fun ipv4 => { country, ipv4 })
      (fun _ => rfl) rfl) (bind_congr fun ipv4 => ?_)
    refine .trans (Shape.foldlM_fillNamed_cons Tunnel.text (fun ipv6 => { country, ipv4, ipv6 })
      (fun _ => rfl) rfl) (bind_congr fun ipv6 => ?_)
    refine .trans (Shape.foldlM_fillNamed_cons (lenient metadataOf)
      (fun metadata => { country, ipv4, ipv6, metadata })
      (fun _ => rfl) rfl) (bind_congr fun metadata => ?_)
    refine .trans (Shape.foldlM_fillNamed_cons Tunnel.text
      (fun name => { country, ipv4, ipv6, metadata, name })
      (fun _ => rfl) rfl) (bind_congr fun name => ?_)
    refine .trans (Shape.foldlM_fillNamed_cons Tunnel.text
      (fun region => { country, ipv4, ipv6, metadata, name, region })
      (fun _ => rfl) rfl) (bind_congr fun region => ?_)
    exact .trans (Shape.foldlM_fillNamed_cons (orDefault [] (Decode.list Tunnel.read))
      (fun tunnels => { country, ipv4, ipv6, metadata, name, region, tunnels })
      (fun _ => rfl) rfl) rfl
  simp only [hread, bind_eq_ok_iff, Except.ok.injEq, given_text, given_metadata, given_tunnels]
  constructor
  · rintro ⟨country, hcountry, ipv4, hipv4, ipv6, hipv6, metadata, hmetadata, name, hname, region,
      hregion, tunnels, htunnels, rfl⟩
    exact ⟨hname, hipv4, hipv6, hcountry, hregion, htunnels, hmetadata⟩
  · rintro ⟨hname, hipv4, hipv6, hcountry, hregion, htunnels, hmetadata⟩
    exact ⟨_, hcountry, _, hipv4, _, hipv6, _, hmetadata, _, hname, _, hregion, _, htunnels, rfl⟩

theorem read_array_eq_ok {items : List Json} {n : Node} : read (.array items) = .ok n ↔
    items.length ≤ 7 ∧ Describes Tunnel.Stands (shape.named (.array items)) n := by
  have hread : (List.range 7).foldlM (shape.fillPlaced items) {} = (do
      let name ← given "" Tunnel.text items[0]?
      let ipv4 ← given "" Tunnel.text items[1]?
      let ipv6 ← given "" Tunnel.text items[2]?
      let country ← given "" Tunnel.text items[3]?
      let region ← given "" Tunnel.text items[4]?
      let tunnels ← given [] (orDefault [] (Decode.list Tunnel.read)) items[5]?
      let metadata ← given none (lenient metadataOf) items[6]?
      .ok { name, ipv4, ipv6, country, region, tunnels, metadata }) := by
    refine .trans (Shape.foldlM_fillPlaced_cons Tunnel.text (fun name => { name })
      rfl rfl (fun _ => rfl) rfl) (bind_congr fun name => ?_)
    refine .trans (Shape.foldlM_fillPlaced_cons Tunnel.text (fun ipv4 => { name, ipv4 })
      rfl rfl (fun _ => rfl) rfl) (bind_congr fun ipv4 => ?_)
    refine .trans (Shape.foldlM_fillPlaced_cons Tunnel.text (fun ipv6 => { name, ipv4, ipv6 })
      rfl rfl (fun _ => rfl) rfl) (bind_congr fun ipv6 => ?_)
    refine .trans (Shape.foldlM_fillPlaced_cons Tunnel.text
      (fun country => { name, ipv4, ipv6, country })
      rfl rfl (fun _ => rfl) rfl) (bind_congr fun country => ?_)
    refine .trans (Shape.foldlM_fillPlaced_cons Tunnel.text
      (fun region => { name, ipv4, ipv6, country, region })
      rfl rfl (fun _ => rfl) rfl) (bind_congr fun region => ?_)
    refine .trans (Shape.foldlM_fillPlaced_cons (orDefault [] (Decode.list Tunnel.read))
      (fun tunnels => { name, ipv4, ipv6, country, region, tunnels })
      rfl rfl (fun _ => rfl) rfl) (bind_congr fun tunnels => ?_)
    exact .trans (Shape.foldlM_fillPlaced_cons (lenient metadataOf)
      (fun metadata => { name, ipv4, ipv6, country, region, tunnels, metadata })
      rfl rfl (fun _ => rfl) rfl) rfl
  have hlength : shape.slots.length = 7 := rfl
  have hget : ∀ (place : Nat) {name}, shape.names[place]? = some name →
      (shape.named (.array items)).get? name = items[place]? :=
    fun place _ h => Shape.get?_named (by decide) place h items
  rw [read, Shape.read_array_eq_ok, hlength, hread]
  simp only [bind_eq_ok_iff, Except.ok.injEq, given_text, given_metadata, given_tunnels,
    ← hget 0 rfl, ← hget 1 rfl, ← hget 2 rfl, ← hget 3 rfl, ← hget 4 rfl, ← hget 5 rfl,
    ← hget 6 rfl]
  refine and_congr_right fun _ => ⟨?_, ?_⟩
  · rintro ⟨name, hname, ipv4, hipv4, ipv6, hipv6, country, hcountry, region, hregion, tunnels,
      htunnels, metadata, hmetadata, rfl⟩
    exact ⟨hname, hipv4, hipv6, hcountry, hregion, htunnels, hmetadata⟩
  · rintro ⟨hname, hipv4, hipv6, hcountry, hregion, htunnels, hmetadata⟩
    exact ⟨_, hname, _, hipv4, _, hipv6, _, hcountry, _, hregion, _, htunnels, _, hmetadata, rfl⟩

/-- An object that describes the node, or an array that has the members of one at their places. -/
def Stands (v : Json) (n : Node) : Prop :=
  shape.Takes v ∧ Describes Tunnel.Stands (shape.named v) n

theorem read_eq_ok {v : Json} {n : Node} : read v = .ok n ↔ Stands v n := by
  cases v with
  | object ms => exact read_object_eq_ok.trans (and_iff_right trivial).symm
  | array items => exact read_array_eq_ok
  | _ => exact iff_of_false nofun nofun

theorem stands_iff_of_isObject {v : Json} (h : v.isObject) {n : Node} :
    Stands v n ↔ Describes Tunnel.Stands v n := by
  cases v with
  | object ms => exact and_iff_right trivial
  | _ => cases h

/-- An object, or an array that is not too long, whose texts are texts and whose tunnels can be
read. -/
def Readable (v : Json) : Prop := shape.Takes v ∧ Typed Tunnel.Readable (shape.named v)

theorem exists_read {v : Json} : (∃ n, read v = .ok n) ↔ Readable v := by
  have htunnel : ∀ item, (∃ t, Tunnel.Stands item t) ↔ Tunnel.Readable item := fun item => by
    simp only [← Tunnel.read_eq_ok, Tunnel.exists_read]
  simp only [read_eq_ok, Stands, exists_and_left, exists_describes, htunnel, Readable]

/-! ### Objects throughout -/

/-- An object, with nothing but objects among its tunnels. -/
structure Keyed (v : Json) : Prop where
  object : v.isObject
  tunnels : ∀ items, v.get? "tunnels" = some (.array items) → ∀ item ∈ items, item.isObject

theorem Describes.imp {tunnel tunnel' : Json → Tunnel → Prop} {v : Json} {n : Node}
    (h : Describes tunnel v n) (himp : ∀ items, v.get? "tunnels" = some (.array items) →
      ∀ item ∈ items, ∀ t, tunnel item t → tunnel' item t) : Describes tunnel' v n := by
  refine { h with tunnels := h.tunnels.imp ?_ }
  rintro _ hitems ⟨items, rfl, hlist⟩
  refine ⟨items, rfl, ?_⟩
  rw [List.forall₂_iff_zip] at hlist ⊢
  exact ⟨hlist.1, fun hzip => himp items hitems _ (List.of_mem_zip hzip).1 _ (hlist.2 hzip)⟩

theorem Keyed.stands_iff {v : Json} (h : Keyed v) {n : Node} :
    Stands v n ↔ Describes Tunnel.Describes v n := by
  have htunnel : ∀ items, v.get? "tunnels" = some (.array items) → ∀ item ∈ items, ∀ t,
      Tunnel.Stands item t ↔ Tunnel.Describes item t := fun items hitems item hitem t =>
    Tunnel.stands_iff_of_isObject (h.tunnels items hitems item hitem)
  rw [stands_iff_of_isObject h.object]
  constructor
  · exact fun hd => hd.imp fun items hitems item hitem t => (htunnel items hitems item hitem t).1
  · exact fun hd => hd.imp fun items hitems item hitem t => (htunnel items hitems item hitem t).2

theorem Keyed.readable_iff {v : Json} (h : Keyed v) : Readable v ↔ Typed Tunnel.Typed v := by
  simp only [← exists_read, read_eq_ok, h.stands_iff, exists_describes, Tunnel.exists_describes]

end Node

end FleetDesk
