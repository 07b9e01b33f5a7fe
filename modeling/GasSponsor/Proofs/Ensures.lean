import GasSponsor.Proofs.Transcript

/-!
# What every run of a program ensures

A program ensures a property from given metrics if every run of it, whatever the answers, ends with
calls, metrics and a result that have it. The property is carried down the tree of the program, so
that one step of a run leaves what is still to be ensured of the rest.
-/

namespace GasSponsor.Program

variable {α β : Type}

/-- What is known of a run when it has ended: its calls with their answers, the metrics that it
leaves, and its result. -/
abbrev Post (α : Type) := List Exchange → Metrics → α → Prop

def Ensures : Program α → Metrics → Post α → Prop
  | done a, m, post => post [] m a
  | record e next, m, post => next.Ensures (m.record e) post
  | call c next, m, post => ∀ r, (next r).Ensures m fun xs => post (⟨c, some r⟩ :: xs)

theorem Ensures.mono {p : Program α} {m : Metrics} {post post' : Post α} (h : p.Ensures m post)
    (hpost : ∀ xs m a, post xs m a → post' xs m a) : p.Ensures m post' := by
  induction p generalizing m post post' with
  | done a => exact hpost [] m a h
  | record e next ih => exact ih h hpost
  | call c next ih => exact fun r => ih r (h r) fun xs => hpost (⟨c, some r⟩ :: xs)

/-- A sequence ensures what its second part ensures after every run of its first. -/
theorem ensures_bind {p : Program α} {f : α → Program β} {m : Metrics} {post : Post β} :
    (p >>= f).Ensures m post ↔
      p.Ensures m fun xs m a => (f a).Ensures m fun ys => post (xs ++ ys) := by
  change (bind p f).Ensures m post ↔ _
  induction p generalizing m post with
  | done a => exact Iff.rfl
  | record e next ih => exact ih
  | call c next ih => exact forall_congr' fun r => ih r

theorem ensures_pure {a : α} {m : Metrics} {post : Post α} :
    (pure a : Program α).Ensures m post ↔ post [] m a :=
  Iff.rfl

theorem ensures_ask_bind {c : Call} {f : Reply c → Program β} {m : Metrics} {post : Post β} :
    (ask c >>= f).Ensures m post ↔
      ∀ r, (f r).Ensures m fun xs => post (⟨c, some r⟩ :: xs) :=
  Iff.rfl

theorem ensures_note_bind {e : Metrics.Event} {f : Unit → Program β} {m : Metrics}
    {post : Post β} : (note e >>= f).Ensures m post ↔ (f ()).Ensures (m.record e) post :=
  Iff.rfl

end GasSponsor.Program
