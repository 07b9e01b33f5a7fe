import GasSponsor.Program

/-!
# Transcripts of programs

A transcript lists calls in the order in which they were made, each with its answer. `Follows`
relates a program, the transcript of a part of its run and the program that is then left, and
`Completes` the transcript of a whole run and its result. Every part of a run is the beginning of a
whole one, so that what is known of whole transcripts can be carried over to interrupted runs. A run
against a node has the transcript that the node's answers make.
-/

namespace GasSponsor

/-- A call with its answer. A call that the node leaves has none. -/
structure Exchange where
  call : Call
  reply : Option (Reply call)

namespace Program

variable {α β : Type}

inductive Follows : Program α → List Exchange → Program α → Prop
  | nothing (p : Program α) : Follows p [] p
  | recorded {e : Metrics.Event} {p q : Program α} {xs : List Exchange} (h : Follows p xs q) :
      Follows (record e p) xs q
  | answered {c : Call} {next : Reply c → Program α} {q : Program α} {xs : List Exchange}
      (r : Reply c) (h : Follows (next r) xs q) : Follows (call c next) (⟨c, some r⟩ :: xs) q

def Completes (p : Program α) (xs : List Exchange) (a : α) : Prop := Follows p xs (done a)

theorem Follows.trans {p q t : Program α} {xs ys : List Exchange} (h : Follows p xs q)
    (h' : Follows q ys t) : Follows p (xs ++ ys) t := by
  induction h with
  | nothing _ => exact h'
  | recorded _ ih => exact .recorded (ih h')
  | answered r _ ih => exact .answered r (ih h')

theorem Follows.snoc {p : Program α} {c : Call} {next : Reply c → Program α} {xs : List Exchange}
    (h : Follows p xs (call c next)) (r : Reply c) :
    Follows p (xs ++ [⟨c, some r⟩]) (next r) :=
  h.trans (.answered r (.nothing _))

theorem Follows.of_record {p q : Program α} {e : Metrics.Event} {xs : List Exchange}
    (h : Follows p xs (record e q)) : Follows p xs q := by
  simpa using h.trans (.recorded (.nothing q))

theorem exists_completes (p : Program α) : ∃ xs a, Completes p xs a := by
  induction p with
  | done a => exact ⟨[], a, .nothing _⟩
  | record e next ih =>
      obtain ⟨xs, a, h⟩ := ih
      exact ⟨xs, a, .recorded h⟩
  | call c next ih =>
      obtain ⟨xs, a, h⟩ := ih (.error .workerUnavailable)
      exact ⟨⟨c, some (.error .workerUnavailable)⟩ :: xs, a, .answered _ h⟩

/-- A call in waiting can be answered and the run brought to its end. -/
theorem Follows.exists_completes_call {p : Program α} {c : Call} {next : Reply c → Program α}
    {xs : List Exchange} (h : Follows p xs (call c next)) (r : Reply c) :
    ∃ ys a, Completes p (xs ++ ⟨c, some r⟩ :: ys) a := by
  obtain ⟨ys, a, hend⟩ := exists_completes (next r)
  exact ⟨ys, a, h.trans (.answered r hend)⟩

/-- A run had come to each of the calls in its transcript. -/
theorem Follows.exists_call {p q : Program α} {older newer : List Exchange} {x : Exchange}
    (h : Follows p (older ++ x :: newer) q) :
    ∃ next, Follows p older (call x.call next) := by
  generalize hxs : older ++ x :: newer = xs at h
  induction h generalizing older with
  | nothing _ => simp at hxs
  | recorded _ ih =>
      obtain ⟨next, hnext⟩ := ih hxs
      exact ⟨next, .recorded hnext⟩
  | answered r _ ih =>
      cases older with
      | nil =>
          cases hxs
          exact ⟨_, .nothing _⟩
      | cons y older =>
          obtain ⟨rfl, hrest⟩ := List.cons.inj hxs
          obtain ⟨next, hnext⟩ := ih hrest
          exact ⟨next, .answered r hnext⟩

theorem completes_done {a b : α} {xs : List Exchange} :
    Completes (done a) xs b ↔ xs = [] ∧ b = a := by
  constructor
  · intro h
    cases h
    exact ⟨rfl, rfl⟩
  · rintro ⟨rfl, rfl⟩
    exact .nothing _

theorem completes_record {e : Metrics.Event} {p : Program α} {xs : List Exchange} {a : α} :
    Completes (record e p) xs a ↔ Completes p xs a := by
  constructor
  · intro h
    cases h with
    | recorded h => exact h
  · exact .recorded

theorem completes_call {c : Call} {next : Reply c → Program α} {xs : List Exchange} {a : α} :
    Completes (call c next) xs a ↔
      ∃ r ys, xs = ⟨c, some r⟩ :: ys ∧ Completes (next r) ys a := by
  constructor
  · intro h
    cases h with
    | answered r h => exact ⟨r, _, rfl, h⟩
  · rintro ⟨r, ys, rfl, h⟩
    exact .answered r h

theorem completes_bind {p : Program α} {f : α → Program β} {xs : List Exchange} {b : β} :
    Completes (p >>= f) xs b ↔
      ∃ ys a zs, xs = ys ++ zs ∧ Completes p ys a ∧ Completes (f a) zs b := by
  change Completes (bind p f) xs b ↔ _
  induction p generalizing xs with
  | done a =>
      simp only [bind, completes_done]
      constructor
      · intro h
        exact ⟨[], a, xs, rfl, ⟨rfl, rfl⟩, h⟩
      · rintro ⟨_, _, zs, rfl, ⟨rfl, rfl⟩, h⟩
        exact h
  | record e next ih => simp only [bind, completes_record, ih]
  | call c next ih =>
      simp only [bind, completes_call, ih]
      constructor
      · rintro ⟨r, _, rfl, ys, a, zs, rfl, hp, hf⟩
        exact ⟨⟨c, some r⟩ :: ys, a, zs, rfl, ⟨r, ys, rfl, hp⟩, hf⟩
      · rintro ⟨_, a, zs, rfl, ⟨r, ys, rfl, hp⟩, hf⟩
        exact ⟨r, ys ++ zs, rfl, ys, a, zs, rfl, hp, hf⟩

theorem completes_pure {a b : α} {xs : List Exchange} :
    Completes (pure a) xs b ↔ xs = [] ∧ b = a :=
  completes_done

theorem completes_ask_bind {c : Call} {f : Reply c → Program β} {xs : List Exchange} {b : β} :
    Completes (ask c >>= f) xs b ↔ ∃ r ys, xs = ⟨c, some r⟩ :: ys ∧ Completes (f r) ys b :=
  completes_call

theorem completes_note_bind {e : Metrics.Event} {f : Unit → Program β} {xs : List Exchange}
    {b : β} : Completes (note e >>= f) xs b ↔ Completes (f ()) xs b :=
  completes_record

inductive Conversed {σ : Type} (node : Node σ) : σ → List Exchange → σ → Prop
  | nothing (s : σ) : Conversed node s [] s
  | left {s t : σ} {c : Call} (h : node s c = (none, t)) : Conversed node s [⟨c, none⟩] t
  | answered {s t u : σ} {c : Call} {r : Reply c} {xs : List Exchange}
      (h : node s c = (some r, t)) (hrest : Conversed node t xs u) :
      Conversed node s (⟨c, some r⟩ :: xs) u

/-- A run is done, or waits at a call that the node has left. -/
theorem run_conversed {σ : Type} (node : Node σ) (p : Program α) (s : σ) (m : Metrics) :
    let r := p.run node s m
    ∃ xs, r.calls = xs.map Exchange.call ∧ Conversed node s xs r.node ∧
      ((∃ a, r.rest = done a ∧ Completes p xs a) ∨
        ∃ ys c next, xs = ys ++ [⟨c, none⟩] ∧ r.rest = call c next ∧
          Follows p ys (call c next)) := by
  induction p generalizing s m with
  | done a => exact ⟨[], rfl, .nothing s, .inl ⟨a, rfl, .nothing _⟩⟩
  | record e next ih =>
      obtain ⟨xs, hcalls, hconversed, hend⟩ := ih s (m.record e)
      refine ⟨xs, hcalls, hconversed, ?_⟩
      rcases hend with ⟨a, hdone, hcompletes⟩ | ⟨ys, c, after, hxs, hleft, hfollows⟩
      · exact .inl ⟨a, hdone, .recorded hcompletes⟩
      · exact .inr ⟨ys, c, after, hxs, hleft, .recorded hfollows⟩
  | call c next ih =>
      cases hnode : node s c with
      | mk reply t =>
          cases reply with
          | none =>
              simp only [run, hnode]
              exact ⟨[⟨c, none⟩], rfl, .left hnode, .inr ⟨[], c, next, rfl, rfl, .nothing _⟩⟩
          | some r =>
              obtain ⟨xs, hcalls, hconversed, hend⟩ := ih r t m
              simp only [run, hnode]
              refine ⟨⟨c, some r⟩ :: xs, ?_, .answered hnode hconversed, ?_⟩
              · rw [List.map_cons, hcalls]
              · rcases hend with ⟨a, hdone, hcompletes⟩ | ⟨ys, d, after, hxs, hleft, hfollows⟩
                · exact .inl ⟨a, hdone, .answered r hcompletes⟩
                · refine .inr ⟨⟨c, some r⟩ :: ys, d, after, ?_, hleft, .answered r hfollows⟩
                  rw [hxs, List.cons_append]

end Program

end GasSponsor
