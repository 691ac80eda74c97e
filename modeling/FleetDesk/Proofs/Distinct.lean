/-!
# Lists in which nothing is repeated

A list that is in order but for repetitions is in order once `eraseDups` has kept each item once.
-/

namespace FleetDesk

/-- What stands before or beside each later item stands before it, once each is kept once. -/
theorem pairwise_eraseDups {α : Type} [BEq α] [LawfulBEq α] {r : α → α → Prop} {xs : List α}
    (h : xs.Pairwise fun a b => a = b ∨ r a b) : xs.eraseDups.Pairwise r := by
  match xs, h with
  | [], _ => simp
  | x :: xs, h =>
    obtain ⟨hhead, htail⟩ := List.pairwise_cons.1 h
    rw [List.eraseDups_cons, List.pairwise_cons]
    refine ⟨fun y hy => ?_, pairwise_eraseDups (htail.filter _)⟩
    rw [List.mem_eraseDups, List.mem_filter] at hy
    obtain ⟨hmem, hne⟩ := hy
    exact (hhead y hmem).resolve_left fun heq => by simp [heq] at hne
termination_by xs.length
decreasing_by exact Nat.lt_succ_of_le (List.length_filter_le _ _)

theorem pairwise_lt_of_sorted (ns : List Nat) : ns.mergeSort.eraseDups.Pairwise (· < ·) := by
  refine pairwise_eraseDups ((List.pairwise_mergeSort ?_ ?_ ns).imp fun hle => ?_)
  · exact fun a b c hab hbc => by simp_all; omega
  · exact fun a b => by simp; omega
  · simp only [decide_eq_true_eq] at hle
    omega

end FleetDesk
