import GasSponsor.Proofs.Transcript

/-!
# How many steps a program takes

A program is within a number of steps if no run of it, whatever the answers, makes more calls and
records than that. What is left of a program after a part of its run is within the same number.
-/

namespace GasSponsor.Program

variable {α β : Type}

inductive Within : Nat → Program α → Prop
  | done (n : Nat) (a : α) : Within n (done a)
  | record {n : Nat} {p : Program α} (e : Metrics.Event) (h : Within n p) :
      Within (n + 1) (record e p)
  | call {n : Nat} {c : Call} {next : Reply c → Program α} (h : ∀ r, Within n (next r)) :
      Within (n + 1) (call c next)

theorem Within.mono {n k : Nat} {p : Program α} (h : p.Within n) (hle : n ≤ k) : p.Within k := by
  induction h generalizing k with
  | done n a => exact .done k a
  | record e h ih =>
      cases k with
      | zero => exact absurd hle (Nat.not_succ_le_zero _)
      | succ k => exact .record e (ih (Nat.le_of_succ_le_succ hle))
  | call h ih =>
      cases k with
      | zero => exact absurd hle (Nat.not_succ_le_zero _)
      | succ k => exact .call fun r => ih r (Nat.le_of_succ_le_succ hle)

theorem Within.bind {n k : Nat} {p : Program α} {f : α → Program β} (h : p.Within n)
    (hf : ∀ a, (f a).Within k) : (p >>= f).Within (n + k) := by
  change (Program.bind p f).Within (n + k)
  induction h with
  | done n a => exact (hf a).mono (Nat.le_add_left k n)
  | record e h ih =>
      rw [Nat.add_right_comm]
      exact .record e ih
  | call h ih =>
      rw [Nat.add_right_comm]
      exact .call ih

theorem within_pure (n : Nat) (a : α) : (pure a : Program α).Within n := .done n a

theorem Within.ask_bind {n : Nat} {c : Call} {f : Reply c → Program β}
    (h : ∀ r, (f r).Within n) : (ask c >>= f).Within (n + 1) :=
  .call h

theorem Within.note_bind {n : Nat} {e : Metrics.Event} {f : Unit → Program β}
    (h : (f ()).Within n) : (note e >>= f).Within (n + 1) :=
  .record e h

theorem Within.follows {n : Nat} {p q : Program α} {xs : List Exchange} (h : p.Within n)
    (hfollows : Follows p xs q) : q.Within n := by
  induction hfollows with
  | nothing p => exact h
  | recorded _ ih =>
      cases h with
      | record e h => exact ih (h.mono (Nat.le_succ _))
  | answered r _ ih =>
      cases h with
      | call h => exact ih ((h r).mono (Nat.le_succ _))

end GasSponsor.Program
