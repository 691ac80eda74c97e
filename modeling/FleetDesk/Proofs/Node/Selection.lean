import FleetDesk.Proofs.Node.Listing

/-!
# Selecting before reading

A filter is applied to nodes as they were sent. Nodes it leaves out can come, go and change
(`Edited`) without a trace in what is listed, and for objects it does not matter whether they are
selected before they are read or after (`list_eq_filter`).
-/

namespace FleetDesk

/-- An empty text may also come from a field that is missing or null. -/
theorem GivesText.eq_some_iff {x : Option Json} {s text : String} (h : GivesText x s)
    (htext : text ≠ "") : x = some (.string text) ↔ s = text := by
  cases h with
  | absent => exact iff_of_false nofun htext.symm
  | null => exact iff_of_false nofun htext.symm
  | value h =>
    subst h
    simp

theorem GivesText.wanted_iff {x : Option Json} {s : String} (h : GivesText x s)
    {wanted : Option String} (hwanted : wanted ≠ some "") :
    (∀ text, wanted = some text → x = some (.string text)) ↔ wanted.all (s = ·) := by
  cases wanted with
  | none => exact iff_of_true nofun rfl
  | some text =>
    have htext : text ≠ "" := fun h => hwanted (h ▸ rfl)
    simp [h.eq_some_iff htext]

namespace Node

variable {answer : Json} {sent sent' : List Json} {filter : Filter}

/-! ### Nodes that are left out -/

/-- One node that the filter leaves out comes in, goes away, or gives place to another such node. -/
inductive Edit (filter : Filter) : List Json → List Json → Prop
  | insert {before after : List Json} {v : Json} (h : ¬ filter.Selects v) :
      Edit filter (before ++ after) (before ++ v :: after)
  | delete {before after : List Json} {v : Json} (h : ¬ filter.Selects v) :
      Edit filter (before ++ v :: after) (before ++ after)
  | replace {before after : List Json} {v v' : Json} (h : ¬ filter.Selects v)
      (h' : ¬ filter.Selects v') : Edit filter (before ++ v :: after) (before ++ v' :: after)

/-- Any number of edits. -/
def Edited (filter : Filter) : List Json → List Json → Prop := Relation.ReflTransGen (Edit filter)

theorem Edit.select_eq (h : Edit filter sent sent') : filter.select sent' = filter.select sent := by
  have hout : ∀ {before after v}, ¬ filter.Selects v →
      filter.select (before ++ v :: after) = filter.select (before ++ after) := fun hv => by
    simp [Filter.select, hv]
  cases h with
  | insert h => exact hout h
  | delete h => exact (hout h).symm
  | replace h h' => rw [hout h, hout h']

theorem Edited.select_eq (h : Edited filter sent sent') :
    filter.select sent' = filter.select sent := by
  induction h with
  | refl => rfl
  | tail _ hedit ih => exact hedit.select_eq.trans ih

theorem list_eq_of_edited {answer' : Json} (hs : Sends answer sent) (hs' : Sends answer' sent')
    (h : Edited filter sent sent') : list answer' filter = list answer filter := by
  rw [list_eq_mapM hs, list_eq_mapM hs', h.select_eq]

/-! ### Selecting what was read -/

namespace Filter

/-- A filter that wants no empty text. -/
structure Proper (filter : Filter) : Prop where
  country : filter.country ≠ some ""
  name : filter.name ≠ some ""

/-- The node as it is listed has the texts that the filter wants. -/
def admits (filter : Filter) (n : Node) : Bool :=
  filter.country.all (n.country = ·) && filter.name.all (n.name = ·)

def byCountry (filter : Filter) : Filter := { filter with name := none }

def byName (filter : Filter) : Filter := { filter with country := none }

theorem Proper.byCountry {filter : Filter} (h : filter.Proper) : filter.byCountry.Proper :=
  ⟨h.country, nofun⟩

theorem Proper.byName {filter : Filter} (h : filter.Proper) : filter.byName.Proper :=
  ⟨nofun, h.name⟩

theorem filter_byName_byCountry (filter : Filter) (nodes : List Node) :
    (nodes.filter filter.byCountry.admits).filter filter.byName.admits =
      nodes.filter filter.admits := by
  rw [List.filter_filter]
  refine List.filter_congr fun n _ => ?_
  simp [admits, Filter.byCountry, Filter.byName, Bool.and_comm]

end Filter

theorem Describes.selects_iff {tunnel : Json → Tunnel → Prop} {v : Json} {n : Node}
    (h : Describes tunnel v n) (hproper : filter.Proper) : filter.Selects v ↔ filter.admits n := by
  rw [Filter.admits, Bool.and_eq_true, ← GivesText.wanted_iff h.country hproper.country,
    ← GivesText.wanted_iff h.name hproper.name, Filter.selects_iff]

theorem select_all (sent : List Json) : Filter.select {} sent = sent :=
  List.filter_eq_self.2 fun _ _ => decide_eq_true ⟨nofun, nofun⟩

theorem list_eq_filter (hs : Sends answer sent) (hobjects : ∀ v ∈ sent, v.isObject)
    (hproper : filter.Proper) {nodes : List Node} (hlist : list answer {} = .ok nodes) :
    list answer filter = .ok (nodes.filter filter.admits) := by
  rw [list_eq_ok hs] at hlist ⊢
  rw [select_all] at hlist
  have hstands : List.Forall₂ (fun v n => v.isObject ∧ Stands v n) sent nodes := by
    rw [List.forall₂_iff_zip] at hlist ⊢
    exact ⟨hlist.1, fun hzip => ⟨hobjects _ (List.of_mem_zip hzip).1, hlist.2 hzip⟩⟩
  refine (List.rel_filter ?_ hstands).imp fun v n h => h.2
  intro v n ⟨hobject, h⟩
  simpa using ((stands_iff_of_isObject hobject).1 h).selects_iff hproper

/-- What is listed, or how it fails, depends on the nodes the filter selects and no others. For
objects it is what the whole list has of the wanted texts, whichever of the two comes first. -/
theorem list_selected (answer : Json) (filter : Filter) :
    (∀ answer' sent sent', Sends answer sent → Sends answer' sent' → Edited filter sent sent' →
      list answer' filter = list answer filter) ∧
    ∀ sent nodes, Sends answer sent → (∀ v ∈ sent, v.isObject) → list answer {} = .ok nodes →
      filter.Proper →
        list answer filter = .ok (nodes.filter filter.admits) ∧
        list answer filter =
          (list answer filter.byCountry).map (List.filter filter.byName.admits) ∧
        list answer filter =
          (list answer filter.byName).map (List.filter filter.byCountry.admits) := by
  refine ⟨fun answer' sent sent' => list_eq_of_edited, ?_⟩
  intro sent nodes hs hobjects hlist hproper
  have hall := list_eq_filter hs hobjects hproper hlist
  refine ⟨hall, ?_, ?_⟩
  · rw [hall, list_eq_filter hs hobjects hproper.byCountry hlist, Except.map,
      Filter.filter_byName_byCountry]
  · rw [hall, list_eq_filter hs hobjects hproper.byName hlist, Except.map, List.filter_comm,
      Filter.filter_byName_byCountry]

theorem named_nodes_selected :
    let named := fun name => Json.object [("name", .string name)]
    list (answerOf [.string "node", named "a", named "b"]) { name := some "b" } =
        list (answerOf [named "a", named "b"]) { name := some "b" } ∧
      list (answerOf [named "a", named "b"]) { name := some "b" } = .ok [{ name := "b" }] := by
  intro named
  have hedit : Edit { name := some "b" } ([] ++ [named "a", named "b"])
      ([] ++ [.string "node", named "a", named "b"]) := .insert (by decide)
  have hlist : list (answerOf [named "a", named "b"]) {} =
      .ok [{ name := "a" }, { name := "b" }] := by rfl
  refine ⟨(list_selected _ _).1 _ _ _ (sends_answerOf _) (sends_answerOf _)
    (.single hedit), ?_⟩
  exact ((list_selected _ _).2 _ _ (sends_answerOf _) (by simp [named, Json.isObject]) hlist
    ⟨by simp, by simp⟩).1

end Node

end FleetDesk
