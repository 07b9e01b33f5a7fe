import GasSponsor.Proofs.Text.Numeral
import GasSponsor.Rpc.Result

/-!
# The text of a base fee

Every text of a base fee is one of three: blank, which says that there is no base fee; blanks around
the spelling of a number, which is the base fee; or anything else, which is refused with the text that
was found. A number is spelled by its digits. One plus sign may stand before them, and underscores
anywhere behind the first.
-/

namespace GasSponsor.Rpc.BaseFee

open Decimal (Denotes)
open Printable (Strips)

def Spells (cs : List Char) (n : Nat) : Prop :=
  ∃ body, (cs = body ∨ cs = '+' :: body) ∧ body.head? ≠ some '_' ∧
    Denotes (body.filter (· ≠ '_')) n

section

variable {cs body : List Char} {n : Nat}

theorem Spells.ne_nil (h : Spells cs n) : cs ≠ [] := by
  obtain ⟨body, rfl | rfl, -, hdigits⟩ := h
  · rintro rfl
    exact hdigits.nonempty rfl
  · exact List.cons_ne_nil _ _

/-- Digits spell their number. -/
theorem spells_of_denotes (h : Denotes cs n) : Spells cs n := by
  have hnone : ∀ c ∈ cs, c ≠ '_' := by
    rintro c hc rfl
    exact absurd (h.digits _ hc) (by decide)
  refine ⟨cs, .inl rfl, ?_, ?_⟩
  · intro hhead
    exact hnone _ (List.mem_of_mem_head? hhead) rfl
  · rwa [List.filter_eq_self.2 fun c hc => decide_eq_true (hnone c hc)]

/-- Where there is neither a plus sign nor an underscore there are only digits. -/
theorem Spells.denotes (h : Spells cs n) (hplus : '+' ∉ cs) (hunderscore : '_' ∉ cs) :
    Denotes cs n := by
  obtain ⟨body, rfl | rfl, -, hdigits⟩ := h
  · rwa [List.filter_eq_self.2] at hdigits
    intro c hc
    refine decide_eq_true ?_
    rintro rfl
    exact hunderscore hc
  · exact absurd List.mem_cons_self hplus

/-- A text without the sign before its number. Of two signs none is taken. -/
def signless (cs : List Char) : List Char :=
  match cs with
  | '+' :: '+' :: _ => cs
  | '+' :: rest => rest
  | _ => cs

theorem signless_of_head (h : cs.head? ≠ some '+') : signless cs = cs := by
  unfold signless
  split
  · rfl
  · exact absurd rfl h
  · rfl

theorem signless_plus (h : body.head? ≠ some '+') : signless ('+' :: body) = body := by
  unfold signless
  split
  · next heq =>
      rw [(List.cons.inj heq).2] at h
      exact absurd rfl h
  · next heq => exact (List.cons.inj heq).2.symm
  · next hplus => exact absurd rfl (hplus body)

theorem eq_signless (cs : List Char) : cs = signless cs ∨ cs = '+' :: signless cs := by
  by_cases h : cs.head? = some '+'
  · obtain ⟨body, rfl⟩ : ∃ body, cs = '+' :: body := List.head?_eq_some_iff.1 h
    by_cases hbody : body.head? = some '+'
    · obtain ⟨rest, rfl⟩ : ∃ rest, body = '+' :: rest := List.head?_eq_some_iff.1 hbody
      exact .inl rfl
    · exact .inr (by rw [signless_plus hbody])
  · exact .inl (signless_of_head h).symm

theorem digits?_eq (cs : List Char) : digits? cs =
    if signless cs = [] then .error .empty
    else if (signless cs).head? = some '_' then .error .invalidDigit
    else .ok ((signless cs).filter (· ≠ '_')) := by
  unfold digits?
  extract_lets body
  have hbody : signless cs = body := rfl
  clear_value body
  rw [hbody]
  cases body with
  | nil => rfl
  | cons c rest =>
      rw [if_neg (List.cons_ne_nil c rest), List.head?_cons]
      by_cases hc : c = '_'
      · subst hc
        rfl
      · simp [hc]

theorem number?_eq (cs : List Char) : number? cs =
    if signless cs = [] then .error .empty
    else if (signless cs).head? = some '_' then .error .invalidDigit
    else (Decimal.decode ((signless cs).filter (· ≠ '_'))).elim (.error .invalidDigit) .ok := by
  have hread : number? cs = (digits? cs).bind fun digits =>
      (Decimal.decode digits).elim (.error .invalidDigit) .ok := by
    refine congrArg (Except.bind (digits? cs)) (funext fun digits => ?_)
    cases Decimal.decode digits <;> rfl
  rw [hread, digits?_eq]
  by_cases hempty : signless cs = []
  · rw [if_pos hempty, if_pos hempty]
    rfl
  · rw [if_neg hempty, if_neg hempty]
    by_cases hhead : (signless cs).head? = some '_'
    · rw [if_pos hhead, if_pos hhead]
      rfl
    · rw [if_neg hhead, if_neg hhead]
      rfl

theorem spells_iff : Spells cs n ↔
    (signless cs).head? ≠ some '_' ∧ Denotes ((signless cs).filter (· ≠ '_')) n := by
  constructor
  · rintro ⟨body, hcs, hhead, hdigits⟩
    -- a plus sign at the front would be left among the digits
    have hplus : body.head? ≠ some '+' := by
      intro hplus
      have hmem : '+' ∈ body.filter (· ≠ '_') :=
        List.mem_filter.2 ⟨List.mem_of_mem_head? hplus, by decide⟩
      exact absurd (hdigits.digits _ hmem) (by decide)
    have hsignless : signless cs = body := by
      rcases hcs with rfl | rfl
      · exact signless_of_head hplus
      · exact signless_plus hplus
    rw [hsignless]
    exact ⟨hhead, hdigits⟩
  · rintro ⟨hhead, hdigits⟩
    exact ⟨signless cs, eq_signless cs, hhead, hdigits⟩

theorem number?_eq_ok : number? cs = .ok n ↔ Spells cs n := by
  rw [number?_eq, spells_iff, ← Decimal.decode_eq_some]
  by_cases hempty : signless cs = []
  · rw [if_pos hempty, hempty]
    exact ⟨nofun, fun h => nomatch h.2⟩
  · rw [if_neg hempty]
    by_cases hhead : (signless cs).head? = some '_'
    · rw [if_pos hhead]
      exact ⟨nofun, fun h => absurd hhead h.1⟩
    · rw [if_neg hhead]
      cases Decimal.decode ((signless cs).filter (· ≠ '_')) with
      | none => exact ⟨nofun, fun h => nomatch h.2⟩
      | some m => exact ⟨fun h => ⟨hhead, by cases h; rfl⟩, fun h => by cases h.2; rfl⟩

def fault (cs : List Char) : Fault := if cs = ['+'] then .empty else .invalidDigit

theorem number?_eq_error (hcs : cs ≠ []) (h : ∀ n, ¬ Spells cs n) :
    number? cs = .error (fault cs) := by
  rw [fault]
  by_cases hsign : cs = ['+']
  · rw [if_pos hsign, hsign]
    rfl
  · have hsignless : signless cs ≠ [] := by
      intro hempty
      have heq := eq_signless cs
      rw [hempty] at heq
      exact heq.elim hcs hsign
    rw [number?_eq, if_neg hsignless, if_neg hsign]
    by_cases hhead : (signless cs).head? = some '_'
    · rw [if_pos hhead]
    · rw [if_neg hhead]
      cases hdecode : Decimal.decode ((signless cs).filter (· ≠ '_')) with
      | none => rfl
      | some n => exact absurd (spells_iff.2 ⟨hhead, Decimal.decode_eq_some.1 hdecode⟩) (h n)

def ofCore (core : List Char) : Except RelayError (Option Nat) :=
  match number? core with
  | .ok n => .ok (some n)
  | .error fault => .error (.query "base_fee"
      ("invalid base fee " ++ Quoted.text (String.ofList core) ++ ": " ++ fault.message))

theorem ofText_of_strips {text : String} {core : List Char} (h : Strips text.toList core)
    (hcore : core ≠ []) : ofText text = ofCore core := by
  have hne : String.ofList core ≠ "" := by
    intro hempty
    exact hcore (by rw [← String.toList_ofList (l := core), hempty]; rfl)
  rw [ofText, Printable.trim_eq_iff.2 h]
  refine (if_neg hne).trans ?_
  rw [String.toList_ofList]
  rfl

theorem ofText_eq_none {text : String} :
    ofText text = .ok none ↔ ∀ c ∈ text.toList, Printable.isBlank c = true := by
  rw [← Printable.trim_eq_nil_iff]
  constructor
  · intro h
    by_contra hcore
    rw [ofText_of_strips (Printable.strips_trim _) hcore, ofCore] at h
    split at h <;> cases h
  · intro hcore
    rw [ofText]
    simp only [hcore]
    rfl

theorem ofText_eq_some {text : String} :
    ofText text = .ok (some n) ↔ ∃ core, Strips text.toList core ∧ Spells core n := by
  constructor
  · intro h
    have hstrips := Printable.strips_trim text.toList
    have hcore : Printable.trim text.toList ≠ [] := by
      rintro hempty
      rw [ofText_eq_none.2 (Printable.trim_eq_nil_iff.1 hempty)] at h
      cases h
    refine ⟨_, hstrips, number?_eq_ok.1 ?_⟩
    rw [ofText_of_strips hstrips hcore, ofCore] at h
    split at h
    · next hread =>
        cases h
        exact hread
    · cases h
  · rintro ⟨core, hstrips, hspells⟩
    rw [ofText_of_strips hstrips hspells.ne_nil, ofCore, number?_eq_ok.2 hspells]

theorem ofText_eq_error {text : String} {core : List Char} (h : Strips text.toList core)
    (hcore : core ≠ []) (hnone : ∀ n, ¬ Spells core n) :
    ofText text = .error (.query "base_fee" ("invalid base fee " ++
      Quoted.text (String.ofList core) ++ ": " ++ (fault core).message)) := by
  rw [ofText_of_strips h hcore, ofCore, number?_eq_error hcore hnone]

end

/-- There is no base fee exactly in a blank text, and a base fee exactly in the spelling of a number
with only blanks around it. All else is refused as it was found. Digits are a spelling, and the only
one without a plus sign and underscores. -/
theorem ofText_grammar (text : String) :
    (ofText text = .ok none ↔ ∀ c ∈ text.toList, Printable.isBlank c = true) ∧
    (∀ n, ofText text = .ok (some n) ↔ ∃ core, Strips text.toList core ∧ Spells core n) ∧
    (∀ core, Strips text.toList core → core ≠ [] → (∀ n, ¬ Spells core n) →
      ofText text = .error (.query "base_fee" ("invalid base fee " ++
        Quoted.text (String.ofList core) ++ ": " ++ (fault core).message))) ∧
    ∀ core n, Strips text.toList core → '+' ∉ core → '_' ∉ core →
      (ofText text = .ok (some n) ↔ Denotes core n) := by
  refine ⟨ofText_eq_none, fun n => ofText_eq_some, fun core => ofText_eq_error, ?_⟩
  intro core n hstrips hplus hunderscore
  rw [ofText_eq_some]
  constructor
  · rintro ⟨other, hother, hspells⟩
    obtain rfl : core = other := hstrips.trim_eq.symm.trans hother.trim_eq
    exact hspells.denotes hplus hunderscore
  · exact fun hdigits => ⟨core, hstrips, spells_of_denotes hdigits⟩

theorem ofText_grammar_signed :
    Strips " +1_0\n".toList "+1_0".toList ∧ Spells "+1_0".toList 10 ∧
    ofText " +1_0\n" = .ok (some 10) ∧
    (Strips "-1".toList "-1".toList ∧ "-1".toList ≠ [] ∧ ∀ n, ¬ Spells "-1".toList n) ∧
    ofText "-1" = .error (.query "base_fee" ("invalid base fee " ++
      Quoted.text (String.ofList "-1".toList) ++ ": " ++ (fault "-1".toList).message)) ∧
    (Strips "10".toList "10".toList ∧ '+' ∉ "10".toList ∧ '_' ∉ "10".toList) ∧
    Denotes "10".toList 10 ∧ ofText "10" = .ok (some 10) := by
  have hcore : Strips " +1_0\n".toList "+1_0".toList := Printable.trim_eq_iff.1 (by decide +kernel)
  have hspells : Spells "+1_0".toList 10 := number?_eq_ok.1 rfl
  have hminus : Strips "-1".toList "-1".toList := Printable.trim_eq_iff.1 (by decide +kernel)
  have hne : "-1".toList ≠ [] := by decide
  have hnone : ∀ n, ¬ Spells "-1".toList n := by
    intro n hn
    have hread : number? "-1".toList = .error .invalidDigit := rfl
    rw [number?_eq_ok.2 hn] at hread
    cases hread
  have hplain : Strips "10".toList "10".toList := Printable.trim_eq_iff.1 (by decide +kernel)
  have hplus : '+' ∉ "10".toList := by decide
  have hunderscore : '_' ∉ "10".toList := by decide
  have hdigits : Denotes "10".toList 10 := Decimal.decode_eq_some.1 rfl
  have hsome : ofText " +1_0\n" = .ok (some 10) :=
    ((ofText_grammar " +1_0\n").2.1 10).2 ⟨_, hcore, hspells⟩
  have herror := (ofText_grammar "-1").2.2.1 _ hminus hne hnone
  have hexact := (ofText_grammar "10").2.2.2 _ 10 hplain hplus hunderscore
  exact ⟨hcore, hspells, hsome, ⟨hminus, hne, hnone⟩, herror, ⟨hplain, hplus, hunderscore⟩, hdigits,
    hexact.2 hdigits⟩

/-- Underscores between digits are passed over. -/
theorem underscored_number_taken : ofText "1_0" = .ok (some 10) ∧
    ∀ core n, Strips "1_0".toList core → ¬ Denotes core n := by
  refine ⟨rfl, fun core n hstrips hdigits => ?_⟩
  obtain rfl : "1_0".toList = core := by
    rw [← hstrips.trim_eq]
    decide +kernel
  exact absurd (hdigits.digits '_' (by decide)) (by decide)

end GasSponsor.Rpc.BaseFee
