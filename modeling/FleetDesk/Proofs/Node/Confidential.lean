import FleetDesk.Proofs.Effects
import FleetDesk.Proofs.Json.Members
import FleetDesk.Proofs.Node.Reading
import FleetDesk.Tool.List

/-!
# What a listing of nodes tells

`Node.strip` and `Node.stripAnswer` take everything from a node and from an answer of the backend
that callers are not meant to see. Answers that are equal after that, and both have a numeric code or
both have none, lead to one outcome: the same list or the same fault, and the same events
(`Listing.perform_congr`). What is listed has the members that callers see and no other
(`Node.Shows`).
-/

namespace FleetDesk

/-! ### Tunnels -/

namespace Tunnel

/-- The keys of a tunnel that is sent whose values are shown. -/
def sentKeys : List String := ["domain", "protocol", "port", "server_url"]

def strip : Json → Json := Json.only sentKeys

theorem read_strip (v : Json) : read (strip v) = read v := by
  cases v with
  | object ms =>
    refine Decode.Shape.read_object_congr _ fun slot hslot => ?_
    have hname : slot.name ∈ sentKeys := by
      simp only [shape, List.mem_cons, List.not_mem_nil, or_false] at hslot
      rcases hslot with rfl | rfl | rfl | rfl <;> simp [sentKeys]
    rw [Decode.Shape.Agree, Json.member?_filter_mem, if_pos hname]
  | _ => rfl

/-- The keys of a tunnel that is shown. -/
def shownKeys : List String := ["domain", "port", "protocol", "serverUrl"]

theorem keys_ofMembers (t : Tunnel) : (Json.ofMembers t.members).keys = shownKeys := by
  simp [-String.lt_iff_ltb, Json.ofMembers, Json.sortMembers, members, Json.insertMember, Json.keys,
    shownKeys]

end Tunnel

/-! ### Nodes -/

namespace Node

def sentKeys : List String := ["name", "ipv4", "ipv6", "country", "region", "tunnels", "meta"]

def stripTunnels : Json → Json := Json.each Tunnel.strip

/-- A node may also be sent as an array; its tunnels are the sixth item then. -/
def strip : Json → Json
  | .array items => .array (items.modify 5 stripTunnels)
  | v => (v.only sentKeys).amend "tunnels" stripTunnels

theorem list_strip (v : Json) :
    Decode.list Tunnel.read (stripTunnels v) = Decode.list Tunnel.read v := by
  cases v with
  | array items =>
    have hread : Tunnel.read ∘ Tunnel.strip = Tunnel.read := funext Tunnel.read_strip
    simp [stripTunnels, Json.each, Decode.list, List.mapM_map, hread]
  | _ => rfl

theorem readTunnels_strip (v : Json) :
    Decode.orDefault [] (Decode.list Tunnel.read) (stripTunnels v) =
      Decode.orDefault [] (Decode.list Tunnel.read) v := by
  cases v with
  | array items => exact list_strip (.array items)
  | _ => rfl

/-- Only the tunnels are read otherwise than they stand, and they read alike without what is taken
from them. -/
theorem slot_cases {slot : Decode.Slot Node} (h : slot ∈ shape.slots) :
    slot.name ∈ sentKeys ∧
      ((slot.name = "tunnels" ∧ slot.place = 5 ∧ slot.fill ∘ stripTunnels = slot.fill) ∨
        (slot.name ≠ "tunnels" ∧ slot.place ≠ 5)) := by
  simp only [shape, List.mem_cons, List.not_mem_nil, or_false] at h
  rcases h with rfl | rfl | rfl | rfl | rfl | rfl | rfl
  case inr.inr.inr.inr.inr.inr =>
    refine ⟨by simp [sentKeys], .inl ⟨rfl, rfl, ?_⟩⟩
    funext v n
    simp only [Function.comp_apply, readTunnels_strip]
  all_goals exact ⟨by simp [sentKeys], .inr ⟨by simp, by simp⟩⟩

theorem agree_map {slot : Decode.Slot Node} (h : slot.fill ∘ stripTunnels = slot.fill)
    (x : Option Json) : Decode.Shape.Agree slot (x.map stripTunnels) x := by
  rw [Decode.Shape.Agree, Option.map_map, h]

theorem read_strip (v : Json) : read (strip v) = read v := by
  cases v with
  | object ms =>
    refine Decode.Shape.read_object_congr _ fun slot hslot => ?_
    obtain ⟨hname, ⟨ht, -, hfill⟩ | ⟨ht, -⟩⟩ := slot_cases hslot
    · rw [Json.member?_map_amend, Json.member?_filter_mem, if_pos ht, if_pos hname]
      exact agree_map hfill _
    · rw [Json.member?_map_amend, Json.member?_filter_mem, if_neg ht, if_pos hname]
      rfl
  | array items =>
    refine Decode.Shape.read_array_congr _ (List.length_modify ..) fun slot hslot => ?_
    rw [List.getElem?_modify]
    obtain ⟨-, ⟨-, hp, hfill⟩ | ⟨-, hp⟩⟩ := slot_cases hslot
    · simp only [hp, if_true]
      exact agree_map hfill _
    · simp only [if_neg (Ne.symm hp)]
      exact congrArg _ (id_map _)
  | _ => rfl

theorem keeps_strip (filter : Filter) (v : Json) : filter.keeps (strip v) = filter.keeps v := by
  have hget : ∀ key ∈ sentKeys, key ≠ "tunnels" → (strip v).get? key = v.get? key := by
    intro key hkey ht
    cases v with
    | object ms => simp only [strip, Json.get?_amend, Json.get?_only, if_neg ht, if_pos hkey]
    | _ => rfl
  have hcountry := hget "country" (by simp [sentKeys]) (by simp)
  have hname := hget "name" (by simp [sentKeys]) (by simp)
  simp only [Filter.keeps, Filter.fieldMatches, hcountry, hname]

/-! ### Answers -/

/-- The code of an answer is a number. -/
def hasCode (answer : Json) : Bool := ((answer.get? "code").bind Json.number?).isSome

def dataNodes? (answer : Json) : Option (List Json) :=
  ((answer.get? "data").bind fun data => data.get? "nodes").bind Json.array?

theorem sentNodes?_eq (answer : Json) :
    sentNodes? answer = if hasCode answer then dataNodes? answer else none := by
  unfold sentNodes? hasCode
  cases (answer.get? "code").bind Json.number? <;> rfl

/-- An answer without what a listing must not tell: the code is taken from it too. -/
def stripAnswer (answer : Json) : Json :=
  (answer.only ["data"]).amend "data" fun data =>
    (data.only ["nodes"]).amend "nodes" (Json.each strip)

theorem dataNodes?_stripAnswer (answer : Json) :
    dataNodes? (stripAnswer answer) = (dataNodes? answer).map (List.map strip) := by
  simp only [dataNodes?, stripAnswer, Json.get?_amend, Json.get?_only, List.mem_singleton, if_true]
  cases answer.get? "data" with
  | none => rfl
  | some data =>
    simp only [Option.map_some, Option.bind_some, Json.get?_amend, Json.get?_only,
      List.mem_singleton, if_true]
    cases data.get? "nodes" with
    | none => rfl
    | some nodes => exact Json.array?_each strip nodes

theorem mapM_read_strip (filter : Filter) (sent : List Json) :
    ((sent.map strip).filter filter.keeps).mapM read = (sent.filter filter.keeps).mapM read := by
  have hkeeps : filter.keeps ∘ strip = filter.keeps := funext (keeps_strip filter)
  have hread : read ∘ strip = read := funext read_strip
  rw [List.filter_map, List.mapM_map, hkeeps, hread]

theorem list_congr {p q : Json} (hcode : hasCode p = hasCode q)
    (hstrip : stripAnswer p = stripAnswer q) (filter : Filter) : list p filter = list q filter := by
  have hnodes : (dataNodes? p).map (List.map strip) = (dataNodes? q).map (List.map strip) := by
    rw [← dataNodes?_stripAnswer, ← dataNodes?_stripAnswer, hstrip]
  rw [list, list, sentNodes?_eq, sentNodes?_eq, hcode]
  cases hasCode q with
  | false => rfl
  | true =>
    simp only [if_true]
    cases hp : dataNodes? p <;> cases hq : dataNodes? q <;>
      simp only [hp, hq, Option.map_none, Option.map_some, reduceCtorEq, Option.some.injEq]
        at hnodes ⊢
    rw [← mapM_read_strip, hnodes, mapM_read_strip]

/-! ### What is shown of a node -/

def hasMetadata (raw : Json) : Bool := (raw.get? "meta").any Json.isObject

/-- The keys of a node that is shown. -/
def shownKeys (metadata : Bool) : List String :=
  if metadata then ["country", "ipv4", "ipv6", "meta", "name", "region", "tunnels"]
  else ["country", "ipv4", "ipv6", "name", "region", "tunnels"]

/-- The item has the members that callers see of a node as it was sent, and no other. -/
structure Shows (raw item : Json) : Prop where
  keys : item.keys = shownKeys (hasMetadata raw)
  tunnels : ∃ ts, item.get? "tunnels" = some (.array ts) ∧ ∀ t ∈ ts, t.keys = Tunnel.shownKeys

theorem Describes.isSome_metadata {tunnel : Json → Tunnel → Prop} {v : Json} {n : Node}
    (h : Describes tunnel v n) : n.metadata.isSome = hasMetadata v := by
  rw [Bool.eq_iff_iff, Option.isSome_iff_exists]
  simp only [h.metadata, hasMetadata]
  rcases v.get? "meta" with _ | _ | _ | _ | _ | _ | _ <;> simp [Json.isObject]

theorem keys_toJson (n : Node) : n.toJson.keys = shownKeys n.metadata.isSome := by
  cases hm : n.metadata <;>
    simp [-String.lt_iff_ltb, toJson, Json.ofMembers, Json.sortMembers, members, hm,
      Json.insertMember, Json.keys, shownKeys]

theorem get?_tunnels_toJson (n : Node) : n.toJson.get? "tunnels" =
    some (.array (n.tunnels.map fun t => Json.ofMembers t.members)) := by
  rw [toJson, Json.get?_ofMembers, members]
  cases n.metadata <;> simp

theorem shows_toJson {raw : Json} {n : Node} (h : read raw = .ok n) (ho : raw.isObject) :
    Shows raw n.toJson := by
  have hdescribes := (stands_iff_of_isObject ho).1 (read_eq_ok.1 h)
  refine ⟨?_, _, get?_tunnels_toJson n, ?_⟩
  · rw [keys_toJson, hdescribes.isSome_metadata]
  · intro t ht
    obtain ⟨tunnel, -, rfl⟩ := List.mem_map.1 ht
    exact tunnel.keys_ofMembers

end Node

/-! ### Listings -/

namespace Listing

open Node (hasCode stripAnswer sentNodes?)

variable {w v : World} {p q : Json}

theorem perform_congr (hp : w.fleet (.get path) = .ok p) (hq : v.fleet (.get path) = .ok q)
    (hcode : hasCode p = hasCode q) (hstrip : stripAnswer p = stripAnswer q)
    (filter : Node.Filter) : perform w filter = perform v filter := by
  simp only [perform, hp, hq, Node.list_congr hcode hstrip filter]

theorem result_shows (hp : w.fleet (.get path) = .ok p) {args value : Json}
    (h : (handle w args).result = .ok value) :
    ∃ filter sent items, parse args = .ok filter ∧ sentNodes? p = some sent ∧
      value = .array items ∧
      List.Forall₂ (fun raw item => raw.isObject → Node.Shows raw item)
        (sent.filter filter.keeps) items := by
  cases hf : parse args with
  | error c => simp [handle, hf] at h
  | ok filter =>
    simp only [handle, hf, perform, hp, Node.list] at h
    cases hs : sentNodes? p with
    | none => simp [hs, Except.map] at h
    | some sent =>
      cases hn : (sent.filter filter.keeps).mapM Node.read with
      | error m => simp [hs, hn, Except.mapError, Except.map] at h
      | ok nodes =>
        simp only [hs, hn, Except.mapError, Except.map, Except.ok.injEq] at h
        refine ⟨filter, sent, _, rfl, rfl, h.symm, List.forall₂_map_right_iff.2 ?_⟩
        exact (Decode.mapM_eq_ok.1 hn).imp fun _ _ hread => Node.shows_toJson hread

/-- Of an answer nothing is told, by the list or by the fault, the record or the notes, but what
`stripAnswer` leaves of it; and what is listed has only the members that callers see. -/
theorem hidden_parts_not_told (hp : w.fleet (.get path) = .ok p) (hq : v.fleet (.get path) = .ok q)
    (hcode : hasCode p = hasCode q) (hstrip : stripAnswer p = stripAnswer q) :
    (∀ filter, perform w filter = perform v filter) ∧ (∀ args, handle w args = handle v args) ∧
      ∀ args value, (handle w args).result = .ok value →
        ∃ filter sent items, parse args = .ok filter ∧ sentNodes? p = some sent ∧
          value = .array items ∧
          List.Forall₂ (fun raw item => raw.isObject → Node.Shows raw item)
            (sent.filter filter.keeps) items := by
  have hperform := perform_congr hp hq hcode hstrip
  refine ⟨hperform, fun args => ?_, fun args value => result_shows hp⟩
  simp only [handle, hperform]

/-! ### Two answers that tell the same -/

/-- The backend gives this answer to every request. -/
def answeredWith (answer : Json) : World :=
  { World.unreachable with fleet := fun _ => .ok answer }

/-- An answer with one node; `inner` is what callers must not see of it. -/
def oneNode (code : Int) (inner : Json) : Json :=
  .object
    [("batch", inner), ("code", Json.int code),
      ("data", .object
        [("count", inner),
          ("nodes", .array
            [.object
              [("country", .string "jp"), ("id", inner), ("meta", .object [("tier", .string "a")]),
                ("status", inner),
                ("tunnels", .array [.object [("domain", .string "jp.example"), ("id", inner)]])]])])]

/-- Ids, states and script results of any shape are not told. -/
theorem ids_and_results_not_told :
    let p := oneNode 0 (.string "failed: no route to 10.0.0.7")
    let q := oneNode 3 (.array [.null, .bool true])
    hasCode p = hasCode q ∧ stripAnswer p = stripAnswer q ∧
      ∀ args, handle (answeredWith p) args = handle (answeredWith q) args := by
  intro p q
  have hcode : hasCode p = hasCode q := rfl
  have hstrip : stripAnswer p = stripAnswer q := by
    simp [p, q, oneNode, stripAnswer, Json.only, Json.amend, Json.each, Node.strip, Node.sentKeys,
      Node.stripTunnels, Tunnel.strip, Tunnel.sentKeys]
  exact ⟨hcode, hstrip, (hidden_parts_not_told rfl rfl hcode hstrip).2.1⟩

end Listing

end FleetDesk
