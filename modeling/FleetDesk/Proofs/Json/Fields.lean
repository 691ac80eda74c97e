import FleetDesk.Proofs.Json.Decode
import FleetDesk.Proofs.Json.Members

/-!
# Fields that may be left out

A field that is missing or null gives a default (`Gives`). A record of such fields is read one field
after the other, each into its own part of the record (`Shape.foldlM_fillNamed_cons`,
`Shape.foldlM_fillPlaced_cons`). An array that gives a record by the places of its fields stands for
the object that names them (`Shape.named`).
-/

namespace FleetDesk

/-! ### Named items -/

/-- The items by the names at their places. -/
theorem Json.member?_zip {names : List String} (hnames : names.Nodup) {name : String} {place : Nat}
    (h : names[place]? = some name) (items : List Json) :
    member? name (names.zip items) = items[place]? := by
  induction names generalizing place items with
  | nil => cases h
  | cons first names ih =>
    obtain ⟨hfirst, hnames⟩ := List.nodup_cons.1 hnames
    cases items with
    | nil => rfl
    | cons item items =>
      cases place with
      | zero =>
        obtain rfl : first = name := Option.some.inj h
        simp [member?]
      | succ place =>
        have hname : first ≠ name := fun he => hfirst (he ▸ List.mem_of_getElem? h)
        simp only [List.zip_cons_cons, member?, if_neg hname]
        exact ih hnames h items

namespace Decode

variable {α β γ : Type}

/-! ### What a field gives -/

/-- Nothing and null give the default; other values give what they stand for. -/
inductive Gives (default : α) (stands : Json → α → Prop) : Option Json → α → Prop
  | absent : Gives default stands none default
  | null : Gives default stands (some .null) default
  | value {v : Json} {a : α} (h : stands v a) : Gives default stands (some v) a

/-- Nothing, null, or a value of this kind. -/
def Optional (kind : Json → Prop) (x : Option Json) : Prop := ∀ v ∈ x, v = .null ∨ kind v

theorem exists_gives {default : α} {stands : Json → α → Prop} {x : Option Json} :
    (∃ a, Gives default stands x a) ↔ Optional (fun v => ∃ a, stands v a) x := by
  constructor
  · rintro ⟨a, h⟩ v hv
    cases h with
    | absent => cases hv
    | null => exact .inl (Option.mem_some.1 hv).symm
    | value h =>
      obtain rfl := Option.mem_some.1 hv
      exact .inr ⟨a, h⟩
  · intro h
    cases x with
    | none => exact ⟨default, .absent⟩
    | some v =>
      rcases h v rfl with rfl | ⟨a, ha⟩
      · exact ⟨default, .null⟩
      · exact ⟨a, .value ha⟩

theorem Gives.imp {default : α} {stands stands' : Json → α → Prop} {x : Option Json} {a : α}
    (h : Gives default stands x a) (himp : ∀ v ∈ x, stands v a → stands' v a) :
    Gives default stands' x a := by
  cases h with
  | absent => exact .absent
  | null => exact .null
  | value h => exact .value (himp _ rfl h)

/-- Reads the value of a field that may be missing. -/
def given (default : α) (read : Json → Except Misfit α) : Option Json → Except Misfit α
  | none => .ok default
  | some v => read v

theorem given_orDefault_eq_ok {default : α} {read : Json → Except Misfit α}
    (hnull : ∀ a, read .null ≠ .ok a) {x : Option Json} {a : α} :
    given default (orDefault default read) x = .ok a ↔
      Gives default (fun v a => read v = .ok a) x a := by
  constructor
  · intro h
    rcases x with _ | _ | _
    case none =>
      cases h
      exact .absent
    case some.null =>
      cases h
      exact .null
    all_goals exact .value h
  · intro h
    cases h with
    | absent | null => rfl
    | @value v a h =>
      cases v with
      | null => exact absurd h (hnull a)
      | _ => exact h

/-- A reader that never fails, of what may be none. -/
def lenient (f : Json → Option α) (v : Json) : Except Misfit (Option α) := .ok (f v)

theorem given_lenient_eq_ok {f : Json → Option α} {x : Option Json} {a? : Option α} :
    given none (lenient f) x = .ok a? ↔ ∀ a, a? = some a ↔ x.bind f = some a := by
  have hgiven : given none (lenient f) x = .ok (x.bind f) := by cases x <;> rfl
  rw [hgiven, Except.ok.injEq, eq_comm, Option.ext_iff]

namespace Shape

/-! ### Fields one after the other -/

variable {shape : Shape α}

/-- A field that is left out puts the default where it stands already. -/
theorem foldlM_fillNamed_cons (read : Json → Except Misfit β) (put : β → α) {slot : Slot α}
    {slots : List (Slot α)} {default : β} {r : α} {v : Json}
    (hslot : ∀ x, slot.fill x r = do .ok (put (← read x))) (hr : put default = r) :
    (slot :: slots).foldlM (fillNamed v) r =
      given default read (v.get? slot.name) >>= fun b => slots.foldlM (fillNamed v) (put b) := by
  rw [List.foldlM_cons, fillNamed]
  cases v.get? slot.name with
  | none => exact congrArg (slots.foldlM (fillNamed v)) hr.symm
  | some x =>
    simp only [hslot, given]
    cases read x <;> rfl

theorem foldlM_fillPlaced_cons (read : Json → Except Misfit β) (put : β → α) {slot : Slot α}
    {place : Nat} {places : List Nat} {default : β} {r : α} {items : List Json}
    (hfind : shape.slots.find? (·.place = place) = some slot) (hrequired : slot.required = false)
    (hslot : ∀ x, slot.fill x r = do .ok (put (← read x))) (hr : put default = r) :
    (place :: places).foldlM (shape.fillPlaced items) r =
      given default read items[place]? >>= fun b =>
        places.foldlM (shape.fillPlaced items) (put b) := by
  rw [List.foldlM_cons, fillPlaced, hfind]
  cases items[place]? with
  | none =>
    simp only [hrequired, Bool.false_eq_true, if_false]
    exact congrArg (places.foldlM (shape.fillPlaced items)) hr.symm
  | some x =>
    simp only [hslot, given]
    cases read x <;> rfl

theorem read_object_eq (h : ∀ slot ∈ shape.slots, slot.required = false) (start : α)
    (ms : List (String × Json)) :
    shape.read start (.object ms) = shape.slots.foldlM (fillNamed (.object ms)) start := by
  have hnone : shape.slots.find? (fun s => s.required && (Json.member? s.name ms).isNone) = none :=
    List.find?_eq_none.2 fun slot hslot => by simp [h slot hslot]
  rw [read, hnone]
  exact bind_pure _

theorem read_array_eq_ok {start r : α} {items : List Json} :
    shape.read start (.array items) = .ok r ↔ items.length ≤ shape.slots.length ∧
      (List.range shape.slots.length).foldlM (shape.fillPlaced items) start = .ok r := by
  rw [read, bind_eq_ok_iff]
  by_cases hlong : shape.slots.length < items.length
  · simp [hlong]
  · simp [hlong, Nat.not_lt.1 hlong]

/-! ### Names for places -/

/-- The names of the fields in the order of their places. -/
def names (shape : Shape α) : List String :=
  (List.range shape.slots.length).filterMap fun place =>
    (shape.slots.find? (·.place = place)).map Slot.name

/-- The object that names the items of an array by their places; other values stay as they are. -/
def named (shape : Shape α) : Json → Json
  | .array items => .object (shape.names.zip items)
  | v => v

theorem get?_named (hnames : shape.names.Nodup) {name : String} (place : Nat)
    (h : shape.names[place]? = some name) (items : List Json) :
    (shape.named (.array items)).get? name = items[place]? := Json.member?_zip hnames h items

end Shape

end Decode

end FleetDesk
