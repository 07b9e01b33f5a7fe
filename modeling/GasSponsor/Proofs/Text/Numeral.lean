import Mathlib.Data.List.DropRight
import Mathlib.Data.List.Induction
import Mathlib.Data.Nat.Digits.Defs
import GasSponsor.Proofs.Text.Decimal
import GasSponsor.Text.Printable

/-!
# Numerals and the blanks around them

What is left of a text without the blanks at its ends is the one part of it that has only blanks
before and after it and neither begins nor ends with one. Decimal text is read exactly if it is made
of digits, and then as the number of which they are the digits.
-/

namespace GasSponsor

namespace Printable

structure Strips (text core : List Char) : Prop where
  around : ∃ before after, text = before ++ core ++ after ∧
    (∀ c ∈ before, isBlank c = true) ∧ ∀ c ∈ after, isBlank c = true
  first : ∀ c, core.head? = some c → isBlank c = false
  last : ∀ c, core.getLast? = some c → isBlank c = false

theorem dropWhile_append_core {before core : List Char} (hbefore : ∀ c ∈ before, isBlank c = true)
    (hcore : ∀ c, core.head? = some c → isBlank c = false) :
    (before ++ core).dropWhile isBlank = core := by
  rw [List.dropWhile_append_of_pos hbefore]
  cases core with
  | nil => rfl
  | cons c cs =>
      have hc : ¬ isBlank c = true := by
        rw [hcore c rfl]
        decide
      exact List.dropWhile_cons_of_neg hc

theorem isBlank_head_dropWhile {cs : List Char} {c : Char}
    (h : (cs.dropWhile isBlank).head? = some c) : isBlank c = false := by
  have hnot := List.head?_dropWhile_not isBlank cs
  rw [h] at hnot
  exact hnot

theorem strips_trim (text : List Char) : Strips text (trim text) := by
  have htrim : trim text = (text.dropWhile isBlank).rdropWhile isBlank := rfl
  have hfront : text.takeWhile isBlank ++ text.dropWhile isBlank = text :=
    List.takeWhile_append_dropWhile
  have hback : trim text ++ (text.dropWhile isBlank).rtakeWhile isBlank = text.dropWhile isBlank :=
    List.rdropWhile_append_rtakeWhile
  constructor
  · refine ⟨text.takeWhile isBlank, (text.dropWhile isBlank).rtakeWhile isBlank, ?_, ?_, ?_⟩
    · rw [List.append_assoc, hback, hfront]
    · exact fun c hc => List.mem_takeWhile_imp hc
    · exact fun c hc => List.mem_rtakeWhile_imp hc
  · intro c hc
    have hhead : (text.dropWhile isBlank).head? = some c := by
      rw [← hback, List.head?_append, hc, Option.some_or]
    exact isBlank_head_dropWhile hhead
  · intro c hc
    rw [trim, List.getLast?_reverse] at hc
    exact isBlank_head_dropWhile hc

theorem Strips.trim_eq {text core : List Char} (h : Strips text core) : trim text = core := by
  obtain ⟨⟨before, after, rfl, hbefore, hafter⟩, hfirst, hlast⟩ := h
  by_cases hcore : core = []
  · subst hcore
    have hall : ∀ c ∈ before ++ [] ++ after, isBlank c = true := by
      intro c hc
      rcases List.mem_append.1 hc with hc | hc
      · exact hbefore c (by simpa using hc)
      · exact hafter c hc
    rw [trim, List.dropWhile_eq_nil_iff.2 hall]
    rfl
  · have hfront : (before ++ (core ++ after)).dropWhile isBlank = core ++ after := by
      apply dropWhile_append_core hbefore
      intro c hc
      rw [List.head?_append_of_ne_nil _ hcore] at hc
      exact hfirst c hc
    have hback : (after.reverse ++ core.reverse).dropWhile isBlank = core.reverse := by
      apply dropWhile_append_core
      · exact fun c hc => hafter c (List.mem_reverse.1 hc)
      · intro c hc
        rw [List.head?_reverse] at hc
        exact hlast c hc
    rw [trim, List.append_assoc, hfront, List.reverse_append, hback, List.reverse_reverse]

/-- There is exactly one such core. -/
theorem trim_eq_iff {text core : List Char} : trim text = core ↔ Strips text core :=
  ⟨fun h => h ▸ strips_trim text, Strips.trim_eq⟩

theorem trim_eq_nil_iff {text : List Char} : trim text = [] ↔ ∀ c ∈ text, isBlank c = true := by
  rw [trim_eq_iff]
  constructor
  · rintro ⟨⟨before, after, rfl, hbefore, hafter⟩, -, -⟩ c hc
    rw [List.append_nil] at hc
    rcases List.mem_append.1 hc with hc | hc
    · exact hbefore c hc
    · exact hafter c hc
  · intro h
    exact ⟨⟨text, [], by simp, h, by simp⟩, by simp, by simp⟩

end Printable

namespace Decimal

structure Denotes (cs : List Char) (n : Nat) : Prop where
  nonempty : cs ≠ []
  digits : ∀ c ∈ cs, '0' ≤ c ∧ c ≤ '9'
  value : Nat.ofDigits 10 (cs.reverse.map fun c => c.toNat - '0'.toNat) = n

theorem digitValue?_eq_some {c : Char} {d : Nat} :
    digitValue? c = some d ↔ ('0' ≤ c ∧ c ≤ '9') ∧ c.toNat - '0'.toNat = d := by
  have hzero : '0' ≤ c ↔ 48 ≤ c.toNat := Iff.rfl
  have hnine : c ≤ '9' ↔ c.toNat ≤ 57 := Iff.rfl
  rw [digitValue?, hzero, hnine]
  by_cases h : 48 ≤ c.toNat ∧ c.toNat ≤ 57
  · rw [if_pos h]
    exact ⟨fun hd => ⟨h, Option.some.inj hd⟩, fun hd => congrArg some hd.2⟩
  · rw [if_neg h]
    exact ⟨nofun, fun hd => absurd hd.1 h⟩

theorem readDigits_eq_some {cs : List Char} {n : Nat} : readDigits 0 cs = some n ↔
    (∀ c ∈ cs, '0' ≤ c ∧ c ≤ '9') ∧
      Nat.ofDigits 10 (cs.reverse.map fun c => c.toNat - '0'.toNat) = n := by
  induction cs using List.reverseRecOn generalizing n with
  | nil => simp [readDigits]
  | append_singleton cs c ih =>
      rw [readDigits_concat]
      simp only [Option.bind_eq_some_iff, Option.map_eq_some_iff, ih, digitValue?_eq_some]
      rw [List.reverse_append, List.reverse_singleton, List.singleton_append, List.map_cons,
        Nat.ofDigits_cons, List.forall_mem_append, List.forall_mem_singleton]
      constructor
      · rintro ⟨m, ⟨hcs, rfl⟩, d, ⟨hc, rfl⟩, rfl⟩
        exact ⟨⟨hcs, hc⟩, Nat.add_comm _ _⟩
      · rintro ⟨⟨hcs, hc⟩, rfl⟩
        exact ⟨_, ⟨hcs, rfl⟩, _, ⟨hc, rfl⟩, Nat.add_comm _ _⟩

theorem decode_eq_some {cs : List Char} {n : Nat} : decode cs = some n ↔ Denotes cs n := by
  rw [decode]
  cases cs with
  | nil =>
      constructor
      · intro h
        cases h
      · exact fun h => absurd rfl h.nonempty
  | cons c cs =>
      rw [if_neg (by simp), readDigits_eq_some]
      exact ⟨fun h => ⟨by simp, h.1, h.2⟩, fun h => ⟨h.digits, h.value⟩⟩

end Decimal

end GasSponsor
