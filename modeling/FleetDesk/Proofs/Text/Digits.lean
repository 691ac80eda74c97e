import FleetDesk.Text.Digits
import Mathlib.Algebra.Group.Nat.Defs

/-!
# Numbers that are written and read

The digits of a number in a base up to sixteen are read as that number. What is read from so many
digits is no larger than they can write (`numberIn?_lt`).
-/

namespace FleetDesk.Text

theorem digitIn?_digitChar {b d : Nat} (hb : b ≤ 16) (h : d < b) :
    digitIn? b (Nat.digitChar d) = some d := by
  have hall : ∀ e : Fin 16, hexDigit? (Nat.digitChar e) = some e.val := by decide
  have hvalue : hexDigit? (Nat.digitChar d) = some d := hall ⟨d, by omega⟩
  rw [digitIn?, hvalue, Option.filter_some, if_pos (decide_eq_true h)]

theorem numberIn?_concat {b d n : Nat} {cs : List Char} (hb : b ≤ 16) (hd : d < b)
    (h : numberIn? b cs = some n) : numberIn? b (cs ++ [Nat.digitChar d]) = some (b * n + d) := by
  rw [numberIn?] at h ⊢
  rw [List.foldlM_append, h]
  simp [digitIn?_digitChar hb hd]

theorem numberIn?_toDigits {b : Nat} (hb : 1 < b) (hb' : b ≤ 16) (n : Nat) :
    numberIn? b (Nat.toDigits b n) = some n := by
  have hempty : numberIn? b [] = some 0 := rfl
  induction n using Nat.strongRecOn with
  | ind n ih =>
    rw [Nat.toDigits_eq_if hb]
    split
    · next hlt => simpa using numberIn?_concat hb' hlt hempty
    · next hge =>
      have hmod : n % b < b := Nat.mod_lt n (by omega)
      rw [numberIn?_concat hb' hmod (ih (n / b) (Nat.div_lt_self (by omega) hb)),
        Nat.div_add_mod]

/-- A digit of a number in a base up to sixteen. -/
theorem exists_of_mem_toDigits {b n : Nat} {c : Char} (hb : 1 < b) (hb' : b ≤ 16)
    (h : c ∈ Nat.toDigits b n) : ∃ d : Fin 16, c = Nat.digitChar d := by
  induction n using Nat.strongRecOn with
  | ind n ih =>
    rw [Nat.toDigits_eq_if hb] at h
    split at h
    · next hlt => exact ⟨⟨n, by omega⟩, List.mem_singleton.1 h⟩
    · next hge =>
      have hmod : n % b < b := Nat.mod_lt n (by omega)
      rcases List.mem_append.1 h with h | h
      · exact ih (n / b) (Nat.div_lt_self (by omega) hb) h
      · exact ⟨⟨n % b, by omega⟩, List.mem_singleton.1 h⟩

/-- Only zero is written with a zero in front. -/
theorem head?_toDigits {n : Nat} (h : 0 < n) : (Nat.toDigits 10 n).head? ≠ some '0' := by
  induction n using Nat.strongRecOn with
  | ind n ih =>
    rw [Nat.toDigits_eq_if (by decide)]
    split
    · next hlt =>
      have hall : ∀ d : Fin 10, 0 < d.val → Nat.digitChar d ≠ '0' := by decide
      simpa using hall ⟨n, hlt⟩ h
    · next hge =>
      have hfront := ih (n / 10) (by omega) (by omega)
      obtain ⟨c, cs, hcs⟩ :=
        List.exists_cons_of_ne_nil (Nat.toDigits_ne_nil (b := 10) (n := n / 10))
      rw [hcs] at hfront ⊢
      exact hfront

theorem digitIn?_lt {b d : Nat} {c : Char} (h : digitIn? b c = some d) : d < b := by
  rw [digitIn?, Option.filter_eq_some_iff] at h
  exact of_decide_eq_true h.2

theorem numberIn?_lt {b n : Nat} {cs : List Char} (h : numberIn? b cs = some n) :
    n < b ^ cs.length := by
  have hfrom : ∀ (ds : List Char) (m k : Nat),
      ds.foldlM (fun n c => (digitIn? b c).map (b * n + ·)) m = some k →
        k < (m + 1) * b ^ ds.length := by
    intro ds
    induction ds with
    | nil =>
      intro m k hk
      cases hk
      simp
    | cons c ds ih =>
      intro m k hk
      rw [List.foldlM_cons, Option.bind_eq_bind, Option.bind_eq_some_iff] at hk
      obtain ⟨next, hnext, hk⟩ := hk
      obtain ⟨d, hd, rfl⟩ := Option.map_eq_some_iff.1 hnext
      have hstep : b * m + d + 1 ≤ (m + 1) * b := by
        have hlt := digitIn?_lt hd
        rw [Nat.add_mul, Nat.one_mul, Nat.mul_comm m b]
        omega
      calc k < (b * m + d + 1) * b ^ ds.length := ih _ _ hk
        _ ≤ (m + 1) * b * b ^ ds.length := Nat.mul_le_mul_right _ hstep
        _ = (m + 1) * b ^ (c :: ds).length := by
          rw [List.length_cons, Nat.pow_succ, Nat.mul_assoc, Nat.mul_comm b]
  simpa using hfrom cs 0 n h

end FleetDesk.Text
