/-!
# Cutting a text to a number of characters

A limit counts characters, not bytes; `Cut.shortened` says whether anything was dropped.
-/

namespace FleetDesk.Text

structure Cut where
  kept : String
  shortened : Bool
  deriving DecidableEq, Repr

def cut (s : String) (limit : Nat) : Cut :=
  let (kept, dropped) := s.toList.splitAt limit
  ⟨String.ofList kept, !dropped.isEmpty⟩

theorem cut_kept (s : String) (limit : Nat) :
    (cut s limit).kept = String.ofList (s.toList.take limit) := by
  simp [cut, List.splitAt_eq]

theorem cut_shortened (s : String) (limit : Nat) :
    (cut s limit).shortened = decide (limit < s.toList.length) := by
  simp only [cut, List.splitAt_eq]
  by_cases h : limit < s.toList.length
  · have : s.toList.drop limit ≠ [] := by rw [Ne, List.drop_eq_nil_iff]; omega
    simp only [h, decide_true, Bool.not_eq_true']
    exact List.isEmpty_eq_false_iff.2 this
  · simp only [h, decide_false, Bool.not_eq_false']
    exact List.isEmpty_iff.2 (List.drop_eq_nil_iff.2 (by omega))

end FleetDesk.Text
