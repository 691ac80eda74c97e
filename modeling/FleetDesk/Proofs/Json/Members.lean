import FleetDesk.Json.Value
import Mathlib.Data.String.Basic

/-!
# The members of an object

Objects that are put together with `ofMembers` have their members in the order of the keys, and the
last of those with one key is the one that is found.
-/

namespace FleetDesk.Json

/-! ### Look-up -/

theorem member?_foldl_insertMember (key : String) (ms acc : List (String × Json)) :
    member? key (ms.foldl (fun acc (k, v) => insertMember k v acc) acc) =
      ms.foldl (fun found m => if key = m.1 then some m.2 else found) (member? key acc) := by
  induction ms generalizing acc with
  | nil => rfl
  | cons m ms ih => rw [List.foldl_cons, ih, List.foldl_cons, member?_insertMember]

/-- The last member with the key is found. -/
theorem get?_ofMembers (key : String) (ms : List (String × Json)) :
    (ofMembers ms).get? key =
      ms.foldl (fun found m => if key = m.1 then some m.2 else found) none :=
  member?_foldl_insertMember key ms []

/-- The keys of an object in order. -/
def keys : Json → List String
  | .object ms => ms.map Prod.fst
  | _ => []

/-! ### Parts of an object -/

/-- The members with these keys. -/
def only (keys : List String) : Json → Json
  | .object ms => .object (ms.filter fun m => m.1 ∈ keys)
  | v => v

/-- The value of one member changed. -/
def amend (key : String) (f : Json → Json) : Json → Json
  | .object ms => .object (ms.map fun m => if m.1 = key then (m.1, f m.2) else m)
  | v => v

/-- Every item changed. -/
def each (f : Json → Json) : Json → Json
  | .array items => .array (items.map f)
  | v => v

theorem member?_filter_mem (key : String) (keys : List String) (ms : List (String × Json)) :
    member? key (ms.filter fun m => m.1 ∈ keys) = if key ∈ keys then member? key ms else none := by
  induction ms with
  | nil => simp [member?]
  | cons m ms ih =>
    obtain ⟨k, v⟩ := m
    grind [member?]

theorem member?_map_amend (key k : String) (f : Json → Json) (ms : List (String × Json)) :
    member? k (ms.map fun m => if m.1 = key then (m.1, f m.2) else m) =
      if k = key then (member? k ms).map f else member? k ms := by
  induction ms with
  | nil => simp [member?]
  | cons m ms ih =>
    obtain ⟨k', v⟩ := m
    grind [member?]

theorem get?_only (key : String) (keys : List String) (v : Json) :
    (v.only keys).get? key = if key ∈ keys then v.get? key else none := by
  cases v with
  | object ms => exact member?_filter_mem key keys ms
  | _ => simp [only, get?]

theorem get?_amend (key k : String) (f : Json → Json) (v : Json) :
    (v.amend key f).get? k = if k = key then (v.get? k).map f else v.get? k := by
  cases v with
  | object ms => exact member?_map_amend key k f ms
  | _ => simp [amend, get?]

theorem array?_each (f : Json → Json) (v : Json) :
    (v.each f).array? = v.array?.map (List.map f) := by
  cases v <;> rfl

/-! ### Order -/

theorem get?_eq_some {key : String} {v x : Json} :
    v.get? key = some x ↔ ∃ ms, v = .object ms ∧ member? key ms = some x := by
  cases v <;> simp [get?]

theorem bind_string?_eq_some {x : Option Json} {s : String} :
    x.bind string? = some s ↔ x = some (.string s) := by
  rcases x with _ | _ | _ | _ | _ | _ | _ <;> simp [string?]

theorem bind_array?_eq_some {x : Option Json} {items : List Json} :
    x.bind array? = some items ↔ x = some (.array items) := by
  rcases x with _ | _ | _ | _ | _ | _ | _ <;> simp [array?]

theorem bind_number?_eq_some {x : Option Json} {n : Number} :
    x.bind number? = some n ↔ x = some (.number n) := by
  rcases x with _ | _ | _ | _ | _ | _ | _ <;> simp [number?]

theorem insertMember_of_forall_lt {key : String} {v : Json} {ms : List (String × Json)}
    (h : ∀ m ∈ ms, m.1 < key) : insertMember key v ms = ms ++ [(key, v)] := by
  induction ms with
  | nil => rfl
  | cons m ms ih =>
    obtain ⟨k, w⟩ := m
    have hk : k < key := h (k, w) List.mem_cons_self
    rw [insertMember, if_neg (lt_asymm hk), if_neg hk.ne,
      ih fun m hm => h m (List.mem_cons_of_mem _ hm), List.cons_append]

def Sorted (ms : List (String × Json)) : Prop := ms.Pairwise fun a b => a.1 < b.1

theorem eq_or_mem_of_mem_insertMember {key : String} {v : Json} {ms : List (String × Json)}
    {m : String × Json} (h : m ∈ insertMember key v ms) : m = (key, v) ∨ m ∈ ms := by
  induction ms with
  | nil => exact .inl (List.mem_singleton.1 h)
  | cons n ms ih =>
    obtain ⟨k, w⟩ := n
    grind [insertMember]

theorem mem_of_mem_foldl_insertMember {ms acc : List (String × Json)} {m : String × Json}
    (h : m ∈ ms.foldl (fun acc (k, v) => insertMember k v acc) acc) : m ∈ acc ∨ m ∈ ms := by
  induction ms generalizing acc with
  | nil => exact .inl h
  | cons n ms ih =>
    rcases ih h with hm | hm
    · rcases eq_or_mem_of_mem_insertMember hm with rfl | hm
      · exact .inr List.mem_cons_self
      · exact .inl hm
    · exact .inr (List.mem_cons_of_mem _ hm)

theorem mem_of_mem_sortMembers {ms : List (String × Json)} {m : String × Json}
    (h : m ∈ sortMembers ms) : m ∈ ms :=
  (mem_of_mem_foldl_insertMember h).resolve_left List.not_mem_nil

theorem Sorted.insertMember {ms : List (String × Json)} (h : Sorted ms) (key : String) (v : Json) :
    Sorted (insertMember key v ms) := by
  induction ms with
  | nil => exact List.pairwise_singleton _ _
  | cons n ms ih =>
    obtain ⟨k, w⟩ := n
    obtain ⟨hk, hms⟩ := List.pairwise_cons.1 h
    rw [Json.insertMember]
    split
    · next hlt =>
      refine List.pairwise_cons.2 ⟨fun m hm => ?_, h⟩
      rcases List.mem_cons.1 hm with rfl | hm
      · exact hlt
      · exact hlt.trans (hk m hm)
    · next hlt =>
      split
      · next he =>
        subst he
        exact List.pairwise_cons.2 ⟨hk, hms⟩
      · next hne =>
        refine List.pairwise_cons.2 ⟨fun m hm => ?_, ih hms⟩
        rcases eq_or_mem_of_mem_insertMember hm with rfl | hm
        · exact lt_of_le_of_ne (not_lt.1 hlt) hne
        · exact hk m hm

theorem sorted_foldl_insertMember (ms : List (String × Json)) {acc : List (String × Json)}
    (h : Sorted acc) : Sorted (ms.foldl (fun acc (k, v) => Json.insertMember k v acc) acc) := by
  induction ms generalizing acc with
  | nil => exact h
  | cons m ms ih => exact ih (h.insertMember m.1 m.2)

theorem sorted_sortMembers (ms : List (String × Json)) : Sorted (sortMembers ms) :=
  sorted_foldl_insertMember ms List.Pairwise.nil

theorem foldl_insertMember_of_sorted {ms : List (String × Json)} (acc : List (String × Json))
    (h : Sorted (acc ++ ms)) :
    ms.foldl (fun acc (k, v) => insertMember k v acc) acc = acc ++ ms := by
  induction ms generalizing acc with
  | nil => simp
  | cons m ms ih =>
    have hacc : ∀ n ∈ acc, n.1 < m.1 := fun n hn =>
      (List.pairwise_append.1 h).2.2 n hn m List.mem_cons_self
    have hinsert : insertMember m.1 m.2 acc = acc ++ [m] := insertMember_of_forall_lt hacc
    rw [List.foldl_cons]
    simp only [hinsert]
    rw [ih _ (by simpa using h), List.append_assoc, List.singleton_append]

theorem Sorted.sortMembers {ms : List (String × Json)} (h : Sorted ms) : sortMembers ms = ms :=
  foldl_insertMember_of_sorted [] h

end FleetDesk.Json
