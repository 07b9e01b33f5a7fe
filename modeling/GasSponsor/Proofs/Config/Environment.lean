import Mathlib.Data.List.TakeWhile
import GasSponsor.Config.Environment

/-!
# References in one pass

A name holds no dollar sign, so no reference begins inside another one, and a text can be cut before
any dollar sign and its parts expanded apart. What stands for a reference is therefore the text of
its variable and nothing else, whatever stands around it, and a text without references stays as it
is. There is no other way to replace references by these two laws.
-/

namespace GasSponsor.Environment

def Initial (c : Char) : Prop := ('A' ≤ c ∧ c ≤ 'Z') ∨ c = '_'

/-- What a name may go on with. -/
def Medial (c : Char) : Prop := Initial c ∨ ('0' ≤ c ∧ c ≤ '9')

def IsName (name : List Char) : Prop :=
  ∃ c cs, name = c :: cs ∧ Initial c ∧ ∀ d ∈ cs, Medial d

def enclosed (name : List Char) : List Char := '\x7b' :: name ++ ['\x7d']

def written (name : List Char) : List Char := '$' :: enclosed name

def value (lookup : String → Option String) (name : List Char) : List Char :=
  ((lookup (String.ofList name)).getD "").toList

section

variable {c : Char} {cs name rest : List Char}

theorem isNameStart_iff : isNameStart c = true ↔ Initial c := by
  have hupper : c.isUpper = decide ('A' ≤ c ∧ c ≤ 'Z') := rfl
  simp only [isNameStart, hupper, Initial, decide_eq_true_eq]

theorem isNameChar_iff : isNameChar c = true ↔ Medial c := by
  simp only [isNameChar, isNameStart_iff, Char.isDigit, Medial, Char.le_def, decide_eq_true_eq,
    Bool.and_eq_true, ge_iff_le]

theorem not_medial_close : ¬ Medial '\x7d' := by
  rw [← isNameChar_iff]
  decide

theorem not_medial_dollar : ¬ Medial '$' := by
  rw [← isNameChar_iff]
  decide

theorem IsName.medial (h : IsName name) : ∀ d ∈ name, Medial d := by
  obtain ⟨c, cs, rfl, hinitial, hmedial⟩ := h
  intro d hd
  rcases List.mem_cons.1 hd with rfl | htail
  · exact .inl hinitial
  · exact hmedial d htail

/-- Only the first character of a reference is a dollar sign. -/
theorem IsName.dollar_not_mem (h : IsName name) : '$' ∉ enclosed name := by
  simp only [enclosed, List.cons_append, List.mem_cons, List.mem_append, List.not_mem_nil, or_false]
  rintro (hopen | hname | hclose)
  · exact absurd hopen (by decide)
  · exact not_medial_dollar (h.medial _ hname)
  · exact absurd hclose (by decide)

theorem takeWhile_name (hmedial : ∀ d ∈ name, Medial d) (rest : List Char) :
    (name ++ '\x7d' :: rest).takeWhile isNameChar = name := by
  have hclose : ¬ isNameChar '\x7d' = true := fun h => not_medial_close (isNameChar_iff.1 h)
  rw [List.takeWhile_append_of_pos fun d hd => isNameChar_iff.2 (hmedial d hd),
    List.takeWhile_cons_of_neg hclose, List.append_nil]

theorem IsName.of_takeWhile (h : (cs.takeWhile isNameChar).head?.any isNameStart = true) :
    IsName (cs.takeWhile isNameChar) := by
  cases hname : cs.takeWhile isNameChar with
  | nil =>
      rw [hname] at h
      cases h
  | cons c name =>
      rw [hname, List.head?_cons, Option.any_some] at h
      refine ⟨c, name, rfl, isNameStart_iff.1 h, fun d hd => isNameChar_iff.1 ?_⟩
      apply List.mem_takeWhile_imp (l := cs)
      rw [hname]
      exact List.mem_cons_of_mem c hd

/-- Behind an opening brace exactly a name and a closing brace are read. -/
theorem reference?_eq_some :
    reference? cs = some (name, rest) ↔ IsName name ∧ cs = name ++ '\x7d' :: rest := by
  constructor
  · intro h
    have hparts : cs.takeWhile isNameChar ++ cs.dropWhile isNameChar = cs :=
      List.takeWhile_append_dropWhile
    have hcut : (cs.takeWhile isNameChar ++ cs.dropWhile isNameChar).drop
        (cs.takeWhile isNameChar).length = cs.dropWhile isNameChar := List.drop_left
    rw [hparts] at hcut
    simp only [reference?, hcut] at h
    split at h
    · next after hafter =>
        split at h
        · next hstart =>
            obtain ⟨rfl, rfl⟩ := Prod.mk.inj (Option.some.inj h)
            rw [hafter] at hparts
            exact ⟨.of_takeWhile hstart, hparts.symm⟩
        · cases h
    · cases h
  · rintro ⟨hname, rfl⟩
    obtain ⟨c, cs, hcs, hinitial, -⟩ := id hname
    rw [reference?]
    simp only [takeWhile_name hname.medial, List.drop_left]
    rw [hcs, List.head?_cons, Option.any_some, if_pos (isNameStart_iff.2 hinitial)]

variable (lookup : String → Option String)

theorem expand_nil : expand lookup [] = [] := by
  rw [expand]

theorem expand_written (h : IsName name) (rest : List Char) :
    expand lookup (written name ++ rest) = value lookup name ++ expand lookup rest := by
  have hread : reference? (name ++ '\x7d' :: rest) = some (name, rest) :=
    reference?_eq_some.2 ⟨h, rfl⟩
  have htext : written name ++ rest = '$' :: '\x7b' :: (name ++ '\x7d' :: rest) := by
    simp only [written, enclosed, List.cons_append, List.append_assoc, List.nil_append]
  rw [htext, expand]
  split
  · next hfound =>
      obtain ⟨rfl, rfl⟩ := Prod.mk.inj (Option.some.inj (hfound.symm.trans hread))
      rfl
  · next hnone => cases hnone.symm.trans hread

/-- What begins no reference stays. -/
theorem expand_cons (h : ∀ name rest, IsName name → c :: cs ≠ written name ++ rest) :
    expand lookup (c :: cs) = c :: expand lookup cs := by
  rw [expand.eq_def]
  split
  · next heq => cases heq
  · next after heq =>
      obtain ⟨rfl, rfl⟩ := List.cons.inj heq
      split
      · next name rest hread =>
          obtain ⟨hname, rfl⟩ := reference?_eq_some.1 hread
          exact absurd (by simp [written, enclosed]) (h name rest hname)
      · rfl
  · next heq =>
      obtain ⟨rfl, rfl⟩ := List.cons.inj heq
      rfl

/-- A reference that begins before a dollar sign ends before it. -/
theorem exists_rest_of_written (hname : IsName name) {cut : List Char}
    (h : c :: cs ++ '$' :: cut = written name ++ rest) : ∃ left, c :: cs = written name ++ left := by
  rcases List.append_eq_append_iff.1 h with ⟨inner, hwritten, hcut⟩ | ⟨left, hleft, -⟩
  · cases inner with
    | nil => exact ⟨[], by rw [hwritten, List.append_nil, List.append_nil]⟩
    | cons d inner =>
        obtain rfl : '$' = d := (List.cons.inj hcut).1
        have htail : enclosed name = cs ++ '$' :: inner := (List.cons.inj hwritten).2
        refine absurd ?_ hname.dollar_not_mem
        rw [htail]
        exact List.mem_append_right cs List.mem_cons_self
  · exact ⟨left, hleft⟩

/-- A text may be cut before a dollar sign. -/
theorem expand_append_dollar (before after : List Char) :
    expand lookup (before ++ '$' :: after) =
      expand lookup before ++ expand lookup ('$' :: after) := by
  induction hlength : before.length using Nat.strongRecOn generalizing before with
  | ind length ih =>
      subst hlength
      cases before with
      | nil => rw [expand_nil, List.nil_append, List.nil_append]
      | cons c cs =>
          by_cases hbegins : ∃ name rest, IsName name ∧ c :: cs = written name ++ rest
          · obtain ⟨name, rest, hname, htext⟩ := hbegins
            have hshorter : rest.length < (c :: cs).length := by
              rw [htext, written, List.length_append]
              simp
            rw [htext, List.append_assoc, expand_written lookup hname, expand_written lookup hname,
              ih _ hshorter rest rfl, List.append_assoc]
          · have hstays : ∀ name rest, IsName name → c :: cs ≠ written name ++ rest :=
              fun name rest hname htext => hbegins ⟨name, rest, hname, htext⟩
            have hstays' : ∀ name rest, IsName name →
                c :: (cs ++ '$' :: after) ≠ written name ++ rest := by
              intro name rest hname htext
              obtain ⟨left, hleft⟩ := exists_rest_of_written hname htext
              exact hstays name left hname hleft
            rw [List.cons_append, expand_cons lookup hstays', expand_cons lookup hstays,
              ih _ (Nat.lt_succ_self _) cs rfl, List.cons_append]

theorem expand_append_written (h : IsName name) (before after : List Char) :
    expand lookup (before ++ written name ++ after) =
      expand lookup before ++ value lookup name ++ expand lookup after := by
  calc expand lookup (before ++ written name ++ after)
      = expand lookup (before ++ '$' :: (enclosed name ++ after)) := by
        rw [List.append_assoc, written, List.cons_append]
    _ = expand lookup before ++ expand lookup (written name ++ after) :=
        expand_append_dollar lookup before _
    _ = expand lookup before ++ value lookup name ++ expand lookup after := by
        rw [expand_written lookup h, List.append_assoc]

def HasReference (cs : List Char) : Prop :=
  ∃ before name after, IsName name ∧ cs = before ++ written name ++ after

theorem expand_eq_self (h : ¬ HasReference cs) : expand lookup cs = cs := by
  induction cs with
  | nil => exact expand_nil lookup
  | cons c cs ih =>
      have hstays : ∀ name rest, IsName name → c :: cs ≠ written name ++ rest :=
        fun name rest hname htext => h ⟨[], name, rest, hname, htext⟩
      have hrest : ¬ HasReference cs := by
        rintro ⟨before, name, after, hname, rfl⟩
        exact h ⟨c :: before, name, after, hname, rfl⟩
      rw [expand_cons lookup hstays, ih hrest]

end

/-- The two laws of a replacement: a reference gives way to the text of its variable between what its
surroundings give way to, and a text without references stays. -/
structure OnePass (lookup : String → Option String) (f : String → String) : Prop where
  reference : ∀ before name after : String, IsName name.toList →
    f (before ++ "$\x7b" ++ name ++ "\x7d" ++ after) =
      f before ++ (lookup name).getD "" ++ f after
  plain : ∀ text : String, (∀ before name after : String, IsName name.toList →
    text ≠ before ++ "$\x7b" ++ name ++ "\x7d" ++ after) → f text = text

theorem toList_reference (before name after : String) :
    (before ++ "$\x7b" ++ name ++ "\x7d" ++ after).toList =
      before.toList ++ written name.toList ++ after.toList := by
  have hopen : "$\x7b".toList = ['$', '\x7b'] := rfl
  have hclose : "\x7d".toList = ['\x7d'] := rfl
  simp only [String.toList_append, hopen, hclose, written, enclosed, List.append_assoc,
    List.cons_append, List.nil_append]

theorem onePass_substitute (lookup : String → Option String) :
    OnePass lookup (substitute lookup) := by
  constructor
  · intro before name after hname
    have hvalue : String.ofList (value lookup name.toList) = (lookup name).getD "" := by
      rw [value, String.ofList_toList, String.ofList_toList]
    rw [substitute, toList_reference, expand_append_written lookup hname, String.ofList_append,
      String.ofList_append, hvalue]
    rfl
  · intro text hplain
    have hnone : ¬ HasReference text.toList := by
      rintro ⟨before, name, after, hname, htext⟩
      have hname' : IsName (String.ofList name).toList := by rwa [String.toList_ofList]
      refine hplain (String.ofList before) (String.ofList name) (String.ofList after) hname' ?_
      apply String.toList_inj.1
      rw [toList_reference, String.toList_ofList, String.toList_ofList, String.toList_ofList, htext]
    rw [substitute, expand_eq_self lookup hnone, String.ofList_toList]

/-- The laws cut a text at any of its references into two shorter ones. -/
theorem OnePass.unique {lookup : String → Option String} {f g : String → String}
    (hf : OnePass lookup f) (hg : OnePass lookup g) : f = g := by
  funext text
  induction hlength : text.length using Nat.strongRecOn generalizing text with
  | ind length ih =>
      subst hlength
      by_cases hreference : ∃ before name after : String, IsName name.toList ∧
          text = before ++ "$\x7b" ++ name ++ "\x7d" ++ after
      · obtain ⟨before, name, after, hname, rfl⟩ := hreference
        have hopen : "$\x7b".length = 2 := rfl
        have hparts : before.length < (before ++ "$\x7b" ++ name ++ "\x7d" ++ after).length ∧
            after.length < (before ++ "$\x7b" ++ name ++ "\x7d" ++ after).length := by
          simp only [String.length_append, hopen]
          omega
        rw [hf.reference before name after hname, hg.reference before name after hname,
          ih _ hparts.1 before rfl, ih _ hparts.2 after rfl]
      · have hplain : ∀ before name after : String, IsName name.toList →
            text ≠ before ++ "$\x7b" ++ name ++ "\x7d" ++ after :=
          fun before name after hname htext => hreference ⟨before, name, after, hname, htext⟩
        rw [hf.plain text hplain, hg.plain text hplain]

/-- Replacing references keeps the two laws, and nothing else does. -/
theorem substitute_one_pass (lookup : String → Option String) :
    OnePass lookup (substitute lookup) ∧
      ∀ f, OnePass lookup f → f = substitute lookup :=
  ⟨onePass_substitute lookup, fun _ hf => hf.unique (onePass_substitute lookup)⟩

/-- A variable whose text is a reference to itself, in a reference to what it would give. -/
theorem substitute_one_pass_nested :
    let lookup := fun name => if name = "A" then some "$\x7bA\x7d" else none
    IsName "A".toList ∧
      substitute lookup "$\x7b$\x7bA\x7d\x7d" = "$\x7b$\x7bA\x7d\x7d" := by
  intro lookup
  have hname : IsName "A".toList := ⟨'A', [], rfl, .inl (by decide), by simp⟩
  refine ⟨hname, ?_⟩
  have hcut := (substitute_one_pass lookup).1.reference "$\x7b" "A" "\x7d" hname
  have hbefore : substitute lookup "$\x7b" = "$\x7b" := by decide +kernel
  have hafter : substitute lookup "\x7d" = "\x7d" := by decide +kernel
  rw [hbefore, hafter] at hcut
  exact hcut

example : substitute (fun name => if name = "A" then some "$\x7bB\x7d" else none)
    "$\x7b$\x7bA\x7d$\x7bB\x7d$\x7ba\x7d$\x7b1A\x7d$\x7b\x7d$\x7bA" =
      "$\x7b$\x7bB\x7d$\x7ba\x7d$\x7b1A\x7d$\x7b\x7d$\x7bA" := by decide +kernel

end GasSponsor.Environment
