import Mathlib.Algebra.Ring.Nat
import Mathlib.Data.List.Induction
import Mathlib.Data.String.Basic
import GasSponsor.Metrics

/-!
# Counting by labels

The entries of a counter stand in the strict order of their labels, so that each label has at most
one of them and the first that is found is the only one. Counting adds one to its own label and
changes no other. What is left after a list of labels has been counted is how often each of them is
in the list.
-/

namespace GasSponsor.Metrics

/-- What is shown for a label. A label without a line stands at zero. -/
def counter (label : String) (entries : List (String × Nat)) : Nat :=
  (entries.lookup label).getD 0

def Sorted (entries : List (String × Nat)) : Prop := entries.Pairwise (·.1 < ·.1)

def tally (labels : List String) : List (String × Nat) :=
  labels.foldl (fun entries label => count label entries) []

theorem counter_nil (label : String) : counter label [] = 0 := rfl

theorem counter_cons (label l : String) (n : Nat) (rest : List (String × Nat)) :
    counter label ((l, n) :: rest) = if label = l then n else counter label rest := by
  unfold counter
  rw [List.lookup_cons]
  by_cases h : label = l
  · rw [if_pos h, beq_iff_eq.2 h]
    rfl
  · rw [if_neg h, beq_eq_false_iff_ne.2 h]

theorem counter_eq_zero {label : String} {entries : List (String × Nat)}
    (h : ∀ e ∈ entries, label ≠ e.1) : counter label entries = 0 := by
  induction entries with
  | nil => rfl
  | cons e rest ih =>
      obtain ⟨hne, hrest⟩ := List.forall_mem_cons.1 h
      rw [counter_cons, if_neg hne, ih hrest]

theorem mem_count {label : String} {entries : List (String × Nat)} {e : String × Nat}
    (h : e ∈ count label entries) : e.1 = label ∨ ∃ d ∈ entries, e.1 = d.1 := by
  induction entries with
  | nil => exact .inl (congrArg Prod.fst (List.mem_singleton.1 h))
  | cons d rest ih =>
      obtain ⟨l, n⟩ := d
      rw [count] at h
      split at h
      · rcases List.mem_cons.1 h with rfl | hrest
        · exact .inr ⟨_, List.mem_cons_self, rfl⟩
        · exact .inr ⟨e, List.mem_cons_of_mem _ hrest, rfl⟩
      · split at h
        · rcases List.mem_cons.1 h with rfl | hold
          · exact .inl rfl
          · exact .inr ⟨e, hold, rfl⟩
        · rcases List.mem_cons.1 h with rfl | hrest
          · exact .inr ⟨_, List.mem_cons_self, rfl⟩
          · rcases ih hrest with heq | ⟨d, hd, heq⟩
            · exact .inl heq
            · exact .inr ⟨d, List.mem_cons_of_mem _ hd, heq⟩

theorem Sorted.count {entries : List (String × Nat)} (h : Sorted entries) (label : String) :
    Sorted (count label entries) := by
  induction entries with
  | nil => exact List.pairwise_singleton _ _
  | cons d rest ih =>
      obtain ⟨l, n⟩ := d
      obtain ⟨hfirst, hrest⟩ := List.pairwise_cons.1 h
      rw [Metrics.count]
      split
      · exact List.pairwise_cons.2 ⟨hfirst, hrest⟩
      · next hne =>
          split
          · next hlt =>
              refine List.pairwise_cons.2 ⟨List.forall_mem_cons.2 ⟨hlt, fun e he => ?_⟩, h⟩
              exact lt_trans hlt (hfirst e he)
          · next hge =>
              have hlt : l < label := lt_of_le_of_ne (not_lt.1 hge) (Ne.symm hne)
              refine List.pairwise_cons.2 ⟨fun e he => ?_, ih hrest⟩
              rcases mem_count he with heq | ⟨d, hd, heq⟩
              · exact heq ▸ hlt
              · exact heq ▸ hfirst d hd

/-- Counting adds one to its own label and changes no other. -/
theorem counter_count {entries : List (String × Nat)} (h : Sorted entries) (label other : String) :
    counter other (count label entries) = counter other entries + if label = other then 1 else 0 := by
  induction entries with
  | nil =>
      rw [count, counter_cons, counter_nil, Nat.zero_add]
      simp only [eq_comm]
  | cons d rest ih =>
      obtain ⟨l, n⟩ := d
      obtain ⟨hfirst, hrest⟩ := List.pairwise_cons.1 h
      rw [count]
      split
      · next heq =>
          rw [counter_cons, counter_cons, ← heq]
          by_cases hother : other = label
          · rw [if_pos hother, if_pos hother, if_pos hother.symm]
          · rw [if_neg hother, if_neg hother, if_neg (Ne.symm hother), Nat.add_zero]
      · next hne =>
          split
          · next hlt =>
              -- a label before the first has no entry yet
              have habsent : counter label ((l, n) :: rest) = 0 := by
                refine counter_eq_zero (List.forall_mem_cons.2 ⟨hne, fun e he => ?_⟩)
                exact ne_of_lt (lt_trans hlt (hfirst e he))
              rw [counter_cons]
              by_cases hother : other = label
              · rw [if_pos hother, if_pos hother.symm, hother, habsent]
              · rw [if_neg hother, if_neg (Ne.symm hother), Nat.add_zero]
          · rw [counter_cons, counter_cons, ih hrest]
            by_cases hother : other = l
            · have hlabel : label ≠ other := fun heq => hne (heq.trans hother)
              rw [if_pos hother, if_pos hother, if_neg hlabel, Nat.add_zero]
            · rw [if_neg hother, if_neg hother]

theorem sum_count (label : String) (entries : List (String × Nat)) :
    ((count label entries).map Prod.snd).sum = (entries.map Prod.snd).sum + 1 := by
  induction entries with
  | nil => rfl
  | cons d rest ih =>
      obtain ⟨l, n⟩ := d
      rw [count]
      split
      · simp only [List.map_cons, List.sum_cons]
        omega
      · split
        · simp only [List.map_cons, List.sum_cons]
          omega
        · simp only [List.map_cons, List.sum_cons, ih]
          omega

theorem tally_snoc (labels : List String) (label : String) :
    tally (labels ++ [label]) = count label (tally labels) :=
  List.foldl_append

theorem sorted_tally (labels : List String) : Sorted (tally labels) := by
  induction labels using List.reverseRecOn with
  | nil => exact List.Pairwise.nil
  | append_singleton labels label ih =>
      rw [tally_snoc]
      exact ih.count label

/-- Each label is shown with how often it was counted. -/
theorem counter_tally (label : String) (labels : List String) :
    counter label (tally labels) = labels.count label := by
  induction labels using List.reverseRecOn with
  | nil => rfl
  | append_singleton labels l ih =>
      rw [tally_snoc, counter_count (sorted_tally labels), ih, List.count_append,
        List.count_singleton]
      simp only [beq_iff_eq]

theorem sum_tally (labels : List String) : ((tally labels).map Prod.snd).sum = labels.length := by
  induction labels using List.reverseRecOn with
  | nil => rfl
  | append_singleton labels label ih =>
      rw [tally_snoc, sum_count, ih, List.length_append, List.length_singleton]

end GasSponsor.Metrics
