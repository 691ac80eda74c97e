import FleetDesk.Text.Suggestion
import FleetDesk.Proofs.Distinct
import FleetDesk.Proofs.Text.EditDistance
import FleetDesk.Proofs.Text.Utf8
import Mathlib.Order.Bounds.Basic

/-!
# What is suggested for a mistyped name

The names close to what was typed have one order: by their score, and by their bytes where scores
are equal. `Ranking` says of a list that it holds them so, each once, and it says so of one list
only (`Ranking.eq`). What `suggest` picks is the front part of that list (`suggest_ranks`): the order
in which candidates are given, and how often, makes no difference to it.
-/

namespace FleetDesk.Text

/-! ### Scores -/

/-- A key in another counts as one edit; keys that stand apart count as the edits between them. -/
inductive Scores (needle hay : List Char) : Nat → Prop
  | inside (h : needle <:+: hay ∨ hay <:+: needle) : Scores needle hay 1
  | apart {n : Nat} (h : ¬ (needle <:+: hay ∨ hay <:+: needle))
    (hn : IsLeast {n | Edits n needle hay} n) : Scores needle hay n

theorem closeness_of_inside {needle hay : List Char} (h : needle <:+: hay ∨ hay <:+: needle) :
    closeness needle hay = 1 := by
  rw [closeness, if_pos]
  simpa only [Bool.or_eq_true, occursIn_iff] using h

theorem closeness_of_apart {needle hay : List Char}
    (h : ¬ (needle <:+: hay ∨ hay <:+: needle)) :
    closeness needle hay = editDistance needle hay := by
  rw [closeness, if_neg]
  simpa only [Bool.or_eq_true, occursIn_iff] using h

theorem scores_iff {needle hay : List Char} {n : Nat} :
    Scores needle hay n ↔ closeness needle hay = n := by
  have hleast := isLeast_editDistance needle hay
  constructor
  · rintro (h | ⟨h, hn⟩)
    · exact closeness_of_inside h
    · rw [closeness_of_apart h]
      exact hleast.unique hn
  · rintro rfl
    by_cases h : needle <:+: hay ∨ hay <:+: needle
    · rw [closeness_of_inside h]
      exact .inside h
    · rw [closeness_of_apart h]
      exact .apart h hleast

/-- A name with a key, and few enough edits away. -/
def Close (needle : List Char) (name : String) : Prop :=
  nameKey name ≠ [] ∧ ∃ n, Scores needle (nameKey name) n ∧ n ≤ max (needle.length / 3) 2

/-- By score, then by bytes. -/
def Nearer (needle : List Char) (a b : String) : Prop :=
  ∃ m n, Scores needle (nameKey a) m ∧ Scores needle (nameKey b) n ∧
    (m < n ∨ m = n ∧ Utf8.encode a < Utf8.encode b)

theorem close_iff {needle : List Char} {name : String} : Close needle name ↔
    nameKey name ≠ [] ∧ closeness needle (nameKey name) ≤ tolerance needle := by
  simp only [Close, scores_iff, exists_eq_left', tolerance]

theorem nearer_iff {needle : List Char} {a b : String} : Nearer needle a b ↔
    closeness needle (nameKey a) < closeness needle (nameKey b) ∨
      closeness needle (nameKey a) = closeness needle (nameKey b) ∧ a < b := by
  simp only [Nearer, scores_iff, exists_eq_left', exists_and_left, Utf8.encode_lt_encode]

theorem Nearer.irrefl (needle : List Char) (a : String) : ¬ Nearer needle a a := by
  rw [nearer_iff]
  rintro (h | ⟨-, h⟩)
  · exact Nat.lt_irrefl _ h
  · exact String.lt_irrefl a h

theorem Nearer.asymm {needle : List Char} {a b : String} (h : Nearer needle a b) :
    ¬ Nearer needle b a := by
  rw [nearer_iff] at h ⊢
  rintro (h' | ⟨heq, h'⟩)
  · omega
  · rcases h with h | ⟨-, h⟩
    · omega
    · exact String.lt_asymm h h'

/-! ### The one order -/

/-- The close ones among the candidates, each once, in the order of nearness. -/
structure Ranking (needle : List Char) (candidates names : List String) : Prop where
  sorted : names.Pairwise (Nearer needle)
  mem_iff (name : String) : name ∈ names ↔ name ∈ candidates ∧ Close needle name

namespace Ranking

variable {needle : List Char} {candidates names names' : List String}

theorem nodup (h : Ranking needle candidates names) : names.Nodup :=
  h.sorted.imp (S := (· ≠ ·)) fun hnear heq => Nearer.irrefl needle _ (heq ▸ hnear)

theorem eq (h : Ranking needle candidates names) (h' : Ranking needle candidates names') :
    names = names' := by
  have hmem : ∀ name, name ∈ names ↔ name ∈ names' := fun name => by rw [h.mem_iff, h'.mem_iff]
  have hperm := (List.perm_ext_iff_of_nodup h.nodup h'.nodup).2 hmem
  exact hperm.eq_of_pairwise (fun _ _ _ _ hab hba => absurd hba hab.asymm) h.sorted h'.sorted

theorem congr (h : Ranking needle candidates names) {candidates' : List String}
    (hmem : ∀ name, name ∈ candidates' ↔ name ∈ candidates) :
    Ranking needle candidates' names :=
  ⟨h.sorted, fun name => by rw [h.mem_iff, hmem]⟩

end Ranking

/-! ### Sorting -/

theorem scored?_eq_some {needle : List Char} {name : String} {s : Scored} :
    scored? needle name = some s ↔
      Close needle name ∧ s = ⟨closeness needle (nameKey name), name⟩ := by
  rw [close_iff, scored?]
  simp only [Option.ite_none_left_eq_some, Bool.or_eq_true, List.isEmpty_iff, decide_eq_true_eq,
    not_or, Nat.not_lt, Option.some.injEq, ne_eq]
  exact and_congr_right fun _ => eq_comm

/-- Sorting keeps the order that is given, where it does not put one name before another. -/
theorem before_iff {a b : Scored} :
    Scored.before a b ↔ a.score < b.score ∨ a.score = b.score ∧ ¬ b.name < a.name := by
  simp [Scored.before]

theorem before_trans (a b c : Scored) (h : Scored.before a b) (h' : Scored.before b c) :
    Scored.before a c := by
  rw [before_iff] at h h' ⊢
  rcases h with h | ⟨heq, h⟩ <;> rcases h' with h' | ⟨heq', h'⟩
  · omega
  · omega
  · omega
  · exact .inr ⟨heq.trans heq', String.not_lt.2
      (String.le_trans (String.not_lt.1 h) (String.not_lt.1 h'))⟩

theorem before_total (a b : Scored) : Scored.before a b || Scored.before b a := by
  rw [Bool.or_eq_true, before_iff, before_iff]
  rcases Nat.lt_trichotomy a.score b.score with h | h | h
  · exact .inl (.inl h)
  · rcases String.le_total a.name b.name with hle | hle
    · exact .inl (.inr ⟨h, String.not_lt.2 hle⟩)
    · exact .inr (.inr ⟨h.symm, String.not_lt.2 hle⟩)
  · exact .inr (.inl h)

theorem mem_rank {needle : List Char} {candidates : List String} {name : String} :
    name ∈ rank needle candidates ↔ name ∈ candidates ∧ Close needle name := by
  simp only [rank, List.mem_map, List.mem_mergeSort, List.mem_filterMap, scored?_eq_some]
  constructor
  · rintro ⟨s, ⟨name', hmem, hclose, rfl⟩, rfl⟩
    exact ⟨hmem, hclose⟩
  · rintro ⟨hmem, hclose⟩
    exact ⟨_, ⟨name, hmem, hclose, rfl⟩, rfl⟩

/-- Where a name that is repeated stands beside itself, the others follow one another. -/
theorem pairwise_rank (needle : List Char) (candidates : List String) :
    (rank needle candidates).Pairwise fun a b => a = b ∨ Nearer needle a b := by
  have hscore : ∀ s ∈ (candidates.filterMap (scored? needle)).mergeSort Scored.before,
      s.score = closeness needle (nameKey s.name) := by
    intro s hs
    rw [List.mem_mergeSort, List.mem_filterMap] at hs
    obtain ⟨name, -, hs⟩ := hs
    rw [(scored?_eq_some.1 hs).2]
  have hsorted := List.pairwise_mergeSort before_trans before_total
    (candidates.filterMap (scored? needle))
  rw [rank, List.pairwise_map]
  refine hsorted.imp_of_mem fun {a b} ha hb hab => ?_
  rw [nearer_iff, ← hscore a ha, ← hscore b hb]
  rcases before_iff.1 hab with hlt | ⟨heq, hle⟩
  · exact .inr (.inl hlt)
  · by_cases hname : a.name = b.name
    · exact .inl hname
    · exact .inr (.inr ⟨heq, Std.lt_of_le_of_ne (String.not_lt.1 hle) hname⟩)

theorem ranking_rank (needle : List Char) (candidates : List String) :
    Ranking needle candidates (rank needle candidates).eraseDups := by
  refine ⟨?_, fun name => by rw [List.mem_eraseDups, mem_rank]⟩
  exact pairwise_eraseDups (pairwise_rank needle candidates)

/-! ### Picking -/

/-- The loop takes what `out` does not hold yet, and leaves off with enough. -/
theorem pick_eq {enough : Nat} {out : List String} (h : out.length < enough)
    (names : List String) :
    pick enough out names =
      out ++ (names.removeAll out).eraseDups.take (enough - out.length) := by
  induction names generalizing out with
  | nil => simp [pick]
  | cons name names ih =>
    have hmore : ¬ enough ≤ out.length := by omega
    by_cases hmem : name ∈ out
    · have hdrop : (name :: names).removeAll out = names.removeAll out := by
        simp [List.removeAll, hmem]
      simp only [pick, if_pos hmem, if_neg hmore]
      rw [ih h, hdrop]
    · have hkeep : (name :: names).removeAll out = name :: names.removeAll out := by
        simp [List.removeAll, hmem]
      have hrest : (names.removeAll out).filter (fun b => !b == name) =
          names.removeAll (out ++ [name]) := by
        rw [List.removeAll, List.filter_filter]
        refine List.filter_congr fun other _ => ?_
        simp [Bool.beq_eq_decide_eq, Bool.and_comm]
      obtain ⟨k, hk⟩ := Nat.exists_eq_add_of_lt h
      have hcount : enough - out.length = k + 1 := by omega
      simp only [pick, if_neg hmem, List.length_append, List.length_singleton]
      rw [hkeep, List.eraseDups_cons, hrest, hcount, List.take_succ_cons]
      split
      · have hlast : k = 0 := by omega
        rw [hlast, List.take_zero]
      · have hlen : enough - (out ++ [name]).length = k := by
          rw [List.length_append, List.length_singleton]; omega
        rw [ih (by rw [List.length_append, List.length_singleton]; omega), hlen,
          List.append_assoc, List.singleton_append]

theorem suggest_of_key {input : String} (h : nameKey input ≠ []) (candidates : List String)
    (limit : Nat) : suggest input candidates limit =
      (rank (nameKey input) candidates).eraseDups.take (max limit 1) := by
  have hlimit : ([] : List String).length < max limit 1 := by simp
  rw [suggest, if_neg (by simpa using h), pick_eq hlimit]
  simp [List.removeAll]

/-- Of the close names, in their one order, as many as allowed are suggested; so which candidates
there are is all that counts. -/
theorem suggest_ranks (input : String) (candidates : List String) :
    (nameKey input = [] → ∀ limit, suggest input candidates limit = []) ∧
    (nameKey input ≠ [] → ∃ ranked,
      (∀ names, Ranking (nameKey input) candidates names ↔ names = ranked) ∧
      ∀ limit, suggest input candidates limit = ranked.take (max limit 1)) ∧
    ∀ limit,
      (suggest input candidates limit).Nodup ∧ suggest input candidates limit ⊆ candidates ∧
      (∀ candidates' : List String, (∀ name, name ∈ candidates' ↔ name ∈ candidates) →
        suggest input candidates' limit = suggest input candidates limit) ∧
      ∀ smaller ≤ limit, suggest input candidates smaller <+: suggest input candidates limit := by
  have hnone : nameKey input = [] → ∀ candidates limit, suggest input candidates limit = [] :=
    fun h candidates limit => by simp [suggest, h]
  have hranking := ranking_rank (nameKey input)
  refine ⟨fun h => hnone h candidates, fun h => ⟨_, fun names => ?_, suggest_of_key h candidates⟩,
    fun limit => ?_⟩
  · exact ⟨fun hnames => hnames.eq (hranking candidates), fun heq => heq ▸ hranking candidates⟩
  · by_cases h : nameKey input = []
    · simp [hnone h]
    · simp only [suggest_of_key h]
      refine ⟨(hranking candidates).nodup.sublist (List.take_sublist _ _), fun name hname => ?_,
        fun candidates' hmem => ?_, fun smaller hle => ?_⟩
      · exact (((hranking candidates).mem_iff name).1 (List.mem_of_mem_take hname)).1
      · rw [(hranking candidates').eq ((hranking candidates).congr hmem)]
      · exact List.take_prefix_take_left (by omega)

/-- The tools of the desk, in two orders and one of them twice. -/
theorem suggest_ranks_tools :
    nameKey "ping_nod" ≠ [] ∧ nameKey "?!" = [] ∧
    suggest "?!" ["ping_node"] 3 = [] ∧
    suggest "ping_nod" ["ping_node", "delete_node", "ping_node", "exec_on_node"] 3 =
      suggest "ping_nod" ["exec_on_node", "ping_node", "delete_node"] 3 := by
  have hkey : nameKey "?!" = [] := by decide
  refine ⟨by decide, hkey, (suggest_ranks "?!" ["ping_node"]).1 hkey 3, ?_⟩
  refine ((suggest_ranks "ping_nod" ["exec_on_node", "ping_node", "delete_node"]).2.2 3).2.2.1
    _ fun name => ?_
  simp only [List.mem_cons, List.not_mem_nil, or_false]
  tauto

end FleetDesk.Text
