import GasSponsor.Bytes.Base64
import GasSponsor.Proofs.Bytes.Hex

/-!
# Base64 text read back

The text of a byte string is one symbol for every six bits begun, and padding up to a multiple of
four. The reader takes the last group or the last two apart, in which padding may stand; wherever it
cuts, the values of the symbols are those that were written.
-/

namespace GasSponsor.Base64

def code (n : Nat) : UInt8 := UInt8.ofNat (symbol n).toNat

theorem utf8_symbol {n : Nat} (h : n < 64) : String.utf8EncodeChar (symbol n) = [code n] := by
  have hall : ∀ d < 64, String.utf8EncodeChar (symbol d) = [code d] := by decide
  exact hall n h

theorem symbolValue?_code {n : Nat} (h : n < 64) : symbolValue? (code n) = some n := by
  have hall : ∀ d < 64, symbolValue? (code d) = some d := by decide
  exact hall n h

theorem code_ne_padding {n : Nat} (h : n < 64) : code n ≠ padding := by
  have hall : ∀ d < 64, code d ≠ padding := by decide
  exact hall n h

def sixes : Bytes → List Nat
  | [] => []
  | [a] =>
    let n := a.toNat * 16
    [n / 64, n % 64]
  | [a, b] =>
    let n := (a.toNat * 256 + b.toNat) * 4
    [n / 4096, n / 64 % 64, n % 64]
  | a :: b :: c :: rest =>
    let n := (a.toNat * 256 + b.toNat) * 256 + c.toNat
    n / 262144 :: n / 4096 % 64 :: n / 64 % 64 :: n % 64 :: sixes rest

/-- How many places of the last group are padding. -/
def pads (bs : Bytes) : Nat := (3 - bs.length % 3) % 3

theorem symbols_eq (bs : Bytes) :
    symbols bs = (sixes bs).map symbol ++ List.replicate (pads bs) '=' := by
  induction bs using symbols.induct with
  | case1 => rfl
  | case2 a => rfl
  | case3 a b => rfl
  | case4 a b c rest ih =>
      have hpads : pads (a :: b :: c :: rest) = pads rest := by
        simp only [pads, List.length_cons]
        omega
      rw [symbols, ih, hpads]
      rfl

theorem sixes_lt (bs : Bytes) : ∀ v ∈ sixes bs, v < 64 := by
  induction bs using symbols.induct with
  | case1 => exact fun v hv => nomatch hv
  | case2 a =>
      have ha := a.toNat_lt
      intro v hv
      simp only [sixes, List.mem_cons, List.not_mem_nil, or_false] at hv
      omega
  | case3 a b =>
      have ha := a.toNat_lt
      have hb := b.toNat_lt
      intro v hv
      simp only [sixes, List.mem_cons, List.not_mem_nil, or_false] at hv
      omega
  | case4 a b c rest ih =>
      have ha := a.toNat_lt
      have hb := b.toNat_lt
      have hc := c.toNat_lt
      intro v hv
      simp only [sixes, List.mem_cons] at hv
      rcases hv with hv | hv | hv | hv | hv
      · omega
      · omega
      · omega
      · omega
      · exact ih v hv

/-- The symbols and the padding fill groups of four, and the last group has at least two symbols. -/
theorem length_sixes (bs : Bytes) :
    (sixes bs).length + pads bs = 4 * ((bs.length + 2) / 3) ∧ pads bs ≤ 2 := by
  induction bs using symbols.induct with
  | case1 => decide
  | case2 a => simp [sixes, pads]
  | case3 a b => simp [sixes, pads]
  | case4 a b c rest ih =>
      simp only [sixes, pads, List.length_cons] at ih ⊢
      omega

/-- Whole groups in front leave the last symbol as it is. -/
theorem spareBits_append (front : List Nat) (h : front.length % 4 = 0) (back : List Nat) :
    spareBits (front ++ back) = spareBits back := by
  have hlength : (front ++ back).length % 4 = back.length % 4 := by
    rw [List.length_append]
    omega
  rw [spareBits, spareBits, hlength]
  cases back with
  | nil => rfl
  | cons v back => simp [List.getLast?_append, List.getLast?_cons]

/-- The bits of the last symbol that belong to no byte are zero. -/
theorem spareBits_sixes (bs : Bytes) : spareBits (sixes bs) = 0 := by
  induction bs using symbols.induct with
  | case1 => rfl
  | case2 a =>
      change a.toNat * 16 % 64 % 16 = 0
      omega
  | case3 a b =>
      change (a.toNat * 256 + b.toNat) * 4 % 64 % 4 = 0
      omega
  | case4 a b c rest ih =>
      rw [sixes]
      exact (spareBits_append [_, _, _, _] (by simp) (sixes rest)).trans ih

theorem ofNat_eq {n : Nat} {b : UInt8} (h : n % 256 = b.toNat) : UInt8.ofNat n = b := by
  apply UInt8.toNat_inj.1
  rw [UInt8.toNat_ofNat', h]

/-- The values of the symbols hold the bits of the bytes. -/
theorem join_sixes (bs : Bytes) : join (sixes bs) = bs := by
  induction bs using symbols.induct with
  | case1 => rfl
  | case2 a =>
      have ha := a.toNat_lt
      rw [sixes, join, ofNat_eq (b := a) (by omega)]
  | case3 a b =>
      have ha := a.toNat_lt
      have hb := b.toNat_lt
      rw [sixes, join, ofNat_eq (b := a) (by omega), ofNat_eq (b := b) (by omega)]
  | case4 a b c rest ih =>
      have ha := a.toNat_lt
      have hb := b.toNat_lt
      have hc := c.toNat_lt
      rw [sixes, join, ih, ofNat_eq (b := a) (by omega), ofNat_eq (b := b) (by omega),
        ofNat_eq (b := c) (by omega)]

theorem values_map {vs : List Nat} (h : ∀ v ∈ vs, v < 64) (offset : Nat) :
    values offset (vs.map code) = .ok vs := by
  induction vs generalizing offset with
  | nil => rfl
  | cons v vs ih =>
      have hv := symbolValue?_code (h v List.mem_cons_self)
      have hvs := ih (fun w hw => h w (List.mem_cons_of_mem v hw)) (offset + 1)
      rw [List.map_cons, values, hv, hvs]
      rfl

theorem tailValues_padding {offset index : Nat} (h : 2 ≤ index % 4) (first : Option Nat)
    (rest : Bytes) : tailValues offset index first (padding :: rest) =
      tailValues offset (index + 1) (some (first.getD index)) rest := by
  rw [tailValues.eq_def]
  dsimp only
  rw [if_pos rfl, if_neg (Nat.not_lt.2 h)]

theorem tailValues_code {offset index v : Nat} (h : v < 64) (rest : Bytes) :
    tailValues offset index none (code v :: rest) =
      (tailValues offset (index + 1) none rest).map (v :: ·) := by
  rw [tailValues.eq_def]
  dsimp only
  rw [if_neg (code_ne_padding h), symbolValue?_code h]
  rfl

/-- Padding fills the last group, in which two symbols stand at least. -/
theorem tailValues_map {vs : List Nat} (h : ∀ v ∈ vs, v < 64) {offset index pads : Nat}
    (hgroup : (index + vs.length + pads) % 4 = 0) (hpads : pads ≤ 2) :
    tailValues offset index none (vs.map code ++ List.replicate pads padding) = .ok vs := by
  induction vs generalizing index with
  | nil =>
      rw [List.length_nil] at hgroup
      match pads with
      | 0 => rfl
      | 1 =>
          have hplace : 2 ≤ index % 4 := by omega
          exact tailValues_padding hplace none []
      | 2 =>
          have hplace : 2 ≤ index % 4 ∧ 2 ≤ (index + 1) % 4 := by omega
          exact (tailValues_padding hplace.1 none [padding]).trans
            (tailValues_padding hplace.2 (some index) [])
  | cons v vs ih =>
      have hrest : tailValues offset (index + 1) none
          (vs.map code ++ List.replicate pads padding) = .ok vs :=
        ih (fun w hw => h w (List.mem_cons_of_mem v hw))
          (by rw [List.length_cons] at hgroup; omega)
      rw [List.map_cons, List.cons_append, tailValues_code (h v List.mem_cons_self), hrest]
      rfl

theorem ofText_encode (bs : Bytes) :
    Bytes.ofText (encode bs) = (sixes bs).map code ++ List.replicate (pads bs) padding := by
  have hcodes : ∀ vs : List Nat, (∀ v ∈ vs, v < 64) →
      (vs.map symbol).flatMap String.utf8EncodeChar = vs.map code := by
    intro vs hvs
    induction vs with
    | nil => rfl
    | cons v vs ih =>
        rw [List.map_cons, List.flatMap_cons, utf8_symbol (hvs v List.mem_cons_self),
          ih fun w hw => hvs w (List.mem_cons_of_mem v hw)]
        rfl
  have hpadding : ∀ n, (List.replicate n '=').flatMap String.utf8EncodeChar =
      List.replicate n padding := by
    intro n
    induction n with
    | zero => rfl
    | succ n ih => rw [List.replicate_succ, List.flatMap_cons, ih]; rfl
  rw [encode, Bytes.ofText_ofList, symbols_eq, List.flatMap_append, hcodes _ (sixes_lt bs), hpadding]

/-- Whole groups stand before the tail, and no padding. -/
theorem start_le {symbols pads : Nat} (hgroups : (symbols + pads) % 4 = 0) (hpads : pads ≤ 2) :
    symbols + pads - tailLength (symbols + pads) ≤ symbols ∧
      (symbols + pads - tailLength (symbols + pads)) % 4 = 0 := by
  unfold tailLength
  split <;> omega

/-- Symbols are read behind which padding fills the last group, if they leave no bits over. -/
theorem decode_symbols {vs : List Nat} (h : ∀ v ∈ vs, v < 64) {pads : Nat}
    (hgroups : (vs.length + pads) % 4 = 0) (hpads : pads ≤ 2) (hspare : spareBits vs = 0) :
    decode (vs.map code ++ List.replicate pads padding) = .ok (join vs) := by
  have hlength : (vs.map code ++ List.replicate pads padding).length = vs.length + pads := by
    rw [List.length_append, List.length_map, List.length_replicate]
  obtain ⟨hle, hstart⟩ := start_le hgroups hpads
  rw [decode, hlength]
  generalize vs.length + pads - tailLength (vs.length + pads) = start at hle hstart
  have hfront : (vs.map code ++ List.replicate pads padding).take start =
      (vs.take start).map code := by
    rw [List.take_append_of_le_length (by rwa [List.length_map]), List.map_take]
  have hback : (vs.map code ++ List.replicate pads padding).drop start =
      (vs.drop start).map code ++ List.replicate pads padding := by
    rw [List.drop_append_of_le_length (by rwa [List.length_map]), List.map_drop]
  have hvalues : values 0 ((vs.take start).map code) = .ok (vs.take start) :=
    values_map (fun v hv => h v (List.mem_of_mem_take hv)) 0
  have htail : tailValues start 0 none ((vs.drop start).map code ++ List.replicate pads padding) =
      .ok (vs.drop start) := by
    refine tailValues_map (fun v hv => h v (List.mem_of_mem_drop hv)) ?_ hpads
    rw [List.length_drop]
    omega
  have hspareTail : spareBits (vs.drop start) = 0 := by
    rw [← hspare, ← spareBits_append (vs.take start) (by rw [List.length_take]; omega),
      List.take_append_drop]
  have hfill : ((vs.drop start).map code ++ List.replicate pads padding).length % 4 = 0 := by
    rw [List.length_append, List.length_map, List.length_replicate, List.length_drop]
    omega
  rw [if_neg (by omega)]
  simp only [bind, Except.bind, pure, Except.pure, hfront, hback, hvalues, htail, hfill, hspareTail,
    ne_eq, not_true_eq_false, if_false, List.take_append_drop]

/-- Every byte string is read from its text. -/
theorem decode_encode (bs : Bytes) : decode (Bytes.ofText (encode bs)) = .ok bs := by
  obtain ⟨hlength, hpads⟩ := length_sixes bs
  rw [ofText_encode, decode_symbols (sixes_lt bs) (by omega) hpads (spareBits_sixes bs), join_sixes]

end GasSponsor.Base64
