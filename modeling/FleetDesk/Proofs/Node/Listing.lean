import FleetDesk.Node.Listing
import FleetDesk.Proofs.Node.Reading
import Mathlib.Tactic.MkIffOfInductiveProp

/-!
# What is listed from an answer

An answer that sends nodes (`Sends`) is listed if each node the filter selects can be read, and then
each stands for the listed node in its place (`list_eq_ok`). Everything else breaks the contract
with the backend (`violates_iff`). For nodes that are objects throughout, `list_described` says so
in terms of their members alone; what else is let through, and what is not, is in `list_rejects`.
-/

namespace FleetDesk.Node

/-- The answer has a numeric code, and the nodes stand in its data. -/
structure Sends (answer : Json) (sent : List Json) : Prop where
  code : ∃ n, answer.get? "code" = some (.number n)
  nodes : ∃ data, answer.get? "data" = some (.object data) ∧
    Json.member? "nodes" data = some (.array sent)

theorem sentNodes?_eq_some {answer : Json} {sent : List Json} :
    sentNodes? answer = some sent ↔ Sends answer sent := by
  have hnodes : ((answer.get? "data").bind fun data => data.get? "nodes").bind Json.array? =
      some sent ↔ ∃ data, answer.get? "data" = some (.object data) ∧
        Json.member? "nodes" data = some (.array sent) := by
    rw [Json.bind_array?_eq_some, Option.bind_eq_some_iff]
    constructor
    · rintro ⟨_, hdata, hget⟩
      obtain ⟨data, rfl, hmember⟩ := Json.get?_eq_some.1 hget
      exact ⟨data, hdata, hmember⟩
    · rintro ⟨data, hdata, hmember⟩
      exact ⟨.object data, hdata, hmember⟩
  unfold sentNodes?
  split
  · next h =>
    refine iff_of_false nofun fun ⟨⟨n, hn⟩, _⟩ => ?_
    exact absurd (h.symm.trans (Json.bind_number?_eq_some.2 hn)) nofun
  · next n h =>
    rw [hnodes]
    exact ⟨fun hdata => ⟨⟨n, Json.bind_number?_eq_some.1 h⟩, hdata⟩, Sends.nodes⟩

/-! ### What a filter selects -/

/-- Where the filter wants a text, the node as it was sent has that text. -/
@[mk_iff]
structure Filter.Selects (filter : Filter) (v : Json) : Prop where
  country : ∀ text, filter.country = some text → v.get? "country" = some (.string text)
  name : ∀ text, filter.name = some text → v.get? "name" = some (.string text)

theorem Filter.fieldMatches_iff {key : String} {wanted : Option String} {v : Json} :
    fieldMatches key wanted v ↔ ∀ text, wanted = some text → v.get? key = some (.string text) := by
  cases wanted with
  | none => exact iff_of_true rfl nofun
  | some text =>
    rw [fieldMatches, decide_eq_true_iff, Json.bind_string?_eq_some]
    simp

theorem Filter.keeps_iff {filter : Filter} {v : Json} : filter.keeps v ↔ filter.Selects v := by
  rw [keeps, Bool.and_eq_true, fieldMatches_iff, fieldMatches_iff, selects_iff]

instance Filter.decidableSelects (filter : Filter) : DecidablePred filter.Selects :=
  fun _ => decidable_of_iff _ keeps_iff

/-- The nodes of an answer that the filter selects, in the order they were sent in. -/
def Filter.select (filter : Filter) (sent : List Json) : List Json :=
  sent.filter fun v => filter.Selects v

theorem Filter.mem_select {filter : Filter} {sent : List Json} {v : Json} :
    v ∈ filter.select sent ↔ v ∈ sent ∧ filter.Selects v := by
  simp [select]

/-! ### What is listed -/

variable {answer : Json} {sent : List Json} {filter : Filter}

theorem list_eq_mapM (hs : Sends answer sent) (filter : Filter) :
    list answer filter = ((filter.select sent).mapM read).mapError ListingError.node := by
  have hkeeps : (fun v => decide (filter.Selects v)) = filter.keeps := by
    funext v
    simp only [← Filter.keeps_iff, Bool.decide_eq_true]
  rw [list, sentNodes?_eq_some.2 hs, Filter.select, hkeeps]

theorem list_eq_shape (h : ∀ sent, ¬ Sends answer sent) (filter : Filter) :
    list answer filter = .error .shape := by
  have hnone : sentNodes? answer = none :=
    Option.eq_none_iff_forall_ne_some.2 fun sent hsent => h sent (sentNodes?_eq_some.1 hsent)
  rw [list, hnone]

theorem list_eq_ok (hs : Sends answer sent) {nodes : List Node} :
    list answer filter = .ok nodes ↔ List.Forall₂ Stands (filter.select sent) nodes := by
  have hread : (filter.select sent).mapM read = .ok nodes ↔
      List.Forall₂ Stands (filter.select sent) nodes := by
    rw [Decode.mapM_eq_ok]
    simp only [read_eq_ok]
  rw [← hread, list_eq_mapM hs]
  cases (filter.select sent).mapM read <;> simp [Except.mapError]

theorem exists_list (hs : Sends answer sent) : (∃ nodes, list answer filter = .ok nodes) ↔
    ∀ v ∈ sent, filter.Selects v → Readable v := by
  simp only [list_eq_ok hs, Decode.exists_forall₂, Filter.mem_select, ← read_eq_ok, exists_read,
    and_imp]

/-- There is no list, and callers are told that the backend broke its contract. -/
def Violates (answer : Json) (filter : Filter) : Prop :=
  ∃ e, list answer filter = .error e ∧ e.toFault.kind = .contractViolation

theorem violates_iff : Violates answer filter ↔ ¬ ∃ nodes, list answer filter = .ok nodes := by
  unfold Violates
  cases list answer filter with
  | error e => exact iff_of_true ⟨e, rfl, rfl⟩ nofun
  | ok nodes => exact iff_of_false nofun (not_not_intro ⟨nodes, rfl⟩)

/-- The answer that sends these nodes and nothing else. -/
def answerOf (sent : List Json) : Json :=
  .object [("code", Json.nat 0), ("data", .object [("nodes", .array sent)])]

theorem sends_answerOf (sent : List Json) : Sends (answerOf sent) sent :=
  ⟨⟨.int 0, rfl⟩, _, rfl, rfl⟩

/-! ### Nodes that are objects -/

/-- Where the selected nodes are objects throughout, the texts and the tunnels decide whether there
is a list; it has one node for each, in order. Ports and metadata never do harm. Without a list, and
without an answer that sends nodes, the contract is broken. -/
theorem list_described (answer : Json) (filter : Filter) :
    (∀ sent, Sends answer sent → (∀ v ∈ sent, filter.Selects v → Keyed v) →
      ((∃ nodes, list answer filter = .ok nodes) ↔
        ∀ v ∈ sent, filter.Selects v → Typed Tunnel.Typed v) ∧
      ∀ nodes, list answer filter = .ok nodes ↔
        List.Forall₂ (Describes Tunnel.Describes) (filter.select sent) nodes) ∧
    ((∀ sent, ¬ Sends answer sent) → Violates answer filter) ∧
    ((∀ nodes, list answer filter ≠ .ok nodes) → Violates answer filter) := by
  refine ⟨fun sent hs hkeyed => ⟨?_, fun nodes => ?_⟩, fun hnone => ?_, fun hnot => ?_⟩
  · rw [exists_list hs]
    exact forall₃_congr fun v hv hselects => (hkeyed v hv hselects).readable_iff
  · rw [list_eq_ok hs, List.forall₂_iff_zip, List.forall₂_iff_zip]
    refine and_congr_right fun _ => forall₃_congr fun v n hzip => ?_
    have hv := Filter.mem_select.1 (List.of_mem_zip hzip).1
    exact (hkeyed v hv.1 hv.2).stands_iff
  · exact ⟨.shape, list_eq_shape hnone filter, rfl⟩
  · exact violates_iff.2 fun ⟨nodes, h⟩ => hnot nodes h

/-- A port is read from text with blanks around it; one that is too large is left out. What is not
selected may be anything. -/
theorem ports_described :
    let node := Json.object [("country", .string "jp"), ("name", .null), ("tunnels", .array
      [.object [("port", .string " +443 ")], .object [("port", Json.nat 70000)]])]
    list (answerOf [node, .string "node"]) { country := some "jp" } =
        .ok [{ country := "jp", tunnels := [{ port := some 443 }, {}] }] ∧
      List.Forall₂ (Describes Tunnel.Describes) [node]
        [{ country := "jp", tunnels := [{ port := some 443 }, {}] }] := by
  intro node
  have hkeyed : ∀ v ∈ [node, .string "node"],
      Filter.Selects { country := some "jp" } v → Keyed v := by
    simp only [List.forall_mem_cons]
    refine ⟨fun _ => ⟨rfl, fun items hitems => ?_⟩, fun hselects => ?_, by simp⟩
    · obtain rfl := Json.array.inj (Option.some.inj hitems)
      simp [Json.isObject]
    · exact absurd (hselects.country "jp" rfl) nofun
  have hlist : list (answerOf [node, .string "node"]) { country := some "jp" } =
      .ok [{ country := "jp", tunnels := [{ port := some 443 }, {}] }] := by rfl
  exact ⟨hlist, (((list_described _ _).1 _ (sends_answerOf _) hkeyed).2 _).1 hlist⟩

/-! ### Nodes that are not -/

/-- Neither an object nor an array that is short enough for one, or with such an item among the
tunnels. -/
def Foreign (v : Json) : Prop :=
  ¬ shape.Takes v ∨ ∃ items, (shape.named v).get? "tunnels" = some (.array items) ∧
    ∃ item ∈ items, ¬ Tunnel.shape.Takes item

theorem Foreign.not_readable {v : Json} (h : Foreign v) : ¬ Readable v := by
  rintro ⟨htakes, -, htunnels⟩
  rcases h with h | ⟨items, hitems, item, hitem, h⟩
  · exact h htakes
  · rcases htunnels _ hitems with hnull | ⟨items', heq, hreadable⟩
    · cases hnull
    · obtain rfl : items = items' := Json.array.inj heq
      exact h (hreadable item hitem).1

/-- What is foreign breaks the contract. But arrays are let through where objects are meant, as nodes
and as tunnels: their items stand for the fields in their places, and fields without an item have
their defaults. -/
theorem list_rejects (hs : Sends answer sent) (filter : Filter) :
    (∀ v ∈ sent, filter.Selects v → Foreign v → Violates answer filter) ∧
    ∀ nodes, list answer filter = .ok nodes ↔
      List.Forall₂ Stands (filter.select sent) nodes := by
  refine ⟨fun v hv hselects hforeign => ?_, fun nodes => list_eq_ok hs⟩
  rw [violates_iff, exists_list hs]
  exact fun hreadable => hforeign.not_readable (hreadable v hv hselects)

theorem text_rejected : Violates (answerOf [.object [], .string "node"]) {} :=
  (list_rejects (sends_answerOf _) {}).1 (.string "node") (by simp) ⟨nofun, nofun⟩ (.inl id)

/-- Arrays without items are listed as a node and as a tunnel without texts. -/
theorem empty_arrays_listed :
    (Sends (answerOf [.array []]) [.array []] ∧ Filter.Selects {} (.array []) ∧
      (Json.array []).isObject = false ∧ list (answerOf [.array []]) {} = .ok [{}]) ∧
    let node := Json.object [("tunnels", .array [.array []])]
    Sends (answerOf [node]) [node] ∧ Filter.Selects {} node ∧
      list (answerOf [node]) {} = .ok [{ tunnels := [{}] }] :=
  ⟨⟨sends_answerOf _, ⟨nofun, nofun⟩, rfl, rfl⟩, sends_answerOf _, ⟨nofun, nofun⟩, rfl⟩

end FleetDesk.Node
