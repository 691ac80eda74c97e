import FleetDesk.Json.Decode
import Mathlib.Data.List.Forall2

/-!
# What reading a record preserves

A list is read if all its items are (`mapM_eq_ok`, `exists_forall₂`). Values that agree in every
field read alike, in what they give and in how they fail (`Shape.read_object_congr`,
`Shape.read_array_congr`). `Shape.part?` is what a value gives for a field, by its name or by its
place.
-/

namespace FleetDesk.Decode

variable {α : Type}

theorem bind_eq_ok {ε β : Type} {x : Except ε α} {f : α → Except ε β} {b : β}
    (h : x >>= f = .ok b) : ∃ a, x = .ok a ∧ f a = .ok b := by
  cases x with
  | error m => cases h
  | ok a => exact ⟨a, rfl, h⟩

theorem bind_eq_ok_iff {ε β : Type} {x : Except ε α} {f : α → Except ε β} {b : β} :
    x >>= f = .ok b ↔ ∃ a, x = .ok a ∧ f a = .ok b :=
  ⟨bind_eq_ok, fun ⟨_, hx, hf⟩ => hx ▸ hf⟩

theorem eq_ok_of_toOption {ε : Type} {x : Except ε α} {a : α} (h : x.toOption = some a) :
    x = .ok a := by
  cases x with
  | error e => cases h
  | ok b => exact congrArg Except.ok (Option.some.inj h)

theorem text_eq_ok {v : Json} {s : String} : text v = .ok s ↔ v = .string s := by
  cases v <;> simp [text]

theorem mapM_eq_ok {β : Type} {f : β → Except Misfit α} {xs : List β} {ys : List α} :
    xs.mapM f = .ok ys ↔ List.Forall₂ (fun x y => f x = .ok y) xs ys := by
  constructor
  · intro h
    induction xs generalizing ys with
    | nil => cases h; exact .nil
    | cons x xs ih =>
      rw [List.mapM_cons] at h
      obtain ⟨y, hx, h⟩ := bind_eq_ok h
      obtain ⟨ys', hxs, h⟩ := bind_eq_ok h
      cases h
      exact .cons hx (ih hxs)
  · intro h
    induction h with
    | nil => rfl
    | cons hx _ ih => simp only [List.mapM_cons, hx, ih, bind, Except.bind, pure, Except.pure]

theorem exists_forall₂ {β : Type} {related : β → α → Prop} {xs : List β} :
    (∃ ys, List.Forall₂ related xs ys) ↔ ∀ x ∈ xs, ∃ y, related x y := by
  induction xs with
  | nil => exact ⟨fun _ x hx => absurd hx List.not_mem_nil, fun _ => ⟨[], .nil⟩⟩
  | cons x xs ih =>
    rw [List.forall_mem_cons, ← ih]
    constructor
    · rintro ⟨_, h⟩
      cases h with
      | cons hx hxs => exact ⟨⟨_, hx⟩, _, hxs⟩
    · rintro ⟨⟨y, hx⟩, ys, hxs⟩
      exact ⟨y :: ys, .cons hx hxs⟩

namespace Shape

variable {shape : Shape α}

/-! ### Parts of a record -/

/-- Records are read from objects, and from arrays that are not too long. -/
def Takes (shape : Shape α) : Json → Prop
  | .object _ => True
  | .array items => items.length ≤ shape.slots.length
  | _ => False

/-- The member with the name of a field, or the item in its place. -/
def part? (shape : Shape α) (name : String) (place : Nat) : Json → Option Json
  | .object ms => Json.member? name ms
  | .array items => if items.length ≤ shape.slots.length then items[place]? else none
  | _ => none

/-! ### Values that agree -/

theorem foldlM_congr {β : Type} {f g : α → β → Except Misfit α} {xs : List β}
    (h : ∀ x ∈ xs, ∀ r, f r x = g r x) (start : α) : xs.foldlM f start = xs.foldlM g start := by
  induction xs generalizing start with
  | nil => rfl
  | cons x xs ih =>
    have htail := fun r => ih (fun y hy => h y (List.mem_cons_of_mem _ hy)) r
    rw [List.foldlM_cons, List.foldlM_cons, h x List.mem_cons_self]
    simp only [htail]

/-- Two values, or none, that the slot does not tell apart. -/
def Agree (slot : Slot α) (x y : Option Json) : Prop := x.map slot.fill = y.map slot.fill

theorem Agree.isNone_eq {slot : Slot α} {x y : Option Json} (h : Agree slot x y) :
    x.isNone = y.isNone := by
  have := congrArg Option.isNone h
  simpa using this

theorem fillNamed_congr {slot : Slot α} {v u : Json}
    (h : Agree slot (v.get? slot.name) (u.get? slot.name)) (r : α) :
    fillNamed v r slot = fillNamed u r slot := by
  unfold fillNamed
  unfold Agree at h
  split <;> split <;> simp_all

theorem read_object_congr {ms ns : List (String × Json)} (start : α)
    (h : ∀ slot ∈ shape.slots,
      Agree slot (Json.member? slot.name ms) (Json.member? slot.name ns)) :
    shape.read start (.object ms) = shape.read start (.object ns) := by
  have hfill := foldlM_congr (f := fillNamed (.object ms)) (g := fillNamed (.object ns))
    (fun slot hslot r => fillNamed_congr (h slot hslot) r) start
  have hmissing : shape.slots.find? (fun s => s.required && (Json.member? s.name ms).isNone) =
      shape.slots.find? (fun s => s.required && (Json.member? s.name ns).isNone) := by
    rw [← List.head?_filter, ← List.head?_filter]
    refine congrArg List.head? (List.filter_congr fun slot hslot => ?_)
    rw [(h slot hslot).isNone_eq]
  rw [read, read, hfill, hmissing]

theorem read_array_congr {xs ys : List Json} (start : α) (hlength : xs.length = ys.length)
    (h : ∀ slot ∈ shape.slots, Agree slot xs[slot.place]? ys[slot.place]?) :
    shape.read start (.array xs) = shape.read start (.array ys) := by
  have hfill : (List.range shape.slots.length).foldlM (shape.fillPlaced xs) start =
      (List.range shape.slots.length).foldlM (shape.fillPlaced ys) start := by
    refine foldlM_congr (fun place _ r => ?_) start
    unfold fillPlaced
    split
    · rfl
    · next slot hslot =>
      have hplace : slot.place = place := by simpa using List.find?_some hslot
      have hagree := h slot (List.mem_of_find?_eq_some hslot)
      rw [hplace] at hagree
      unfold Agree at hagree
      split <;> split <;> simp_all
  rw [read, read, hfill, hlength]

end Shape

end FleetDesk.Decode
