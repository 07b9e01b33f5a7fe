import GasSponsor.Rlp
import GasSponsor.Rlp.Reader
import GasSponsor.Proofs.Bytes.Number

/-!
# Items read back

A byte string or a list that is written in its canonical form is read back as one item, whatever
follows it. Reading in sequence takes one written item after another off a list. Lengths have to fit
in eight bytes, for a header has no room for more.
-/

namespace GasSponsor.Rlp

def offset (isList : Bool) : Nat := if isList then 0xc0 else 0x80

theorem readLength_minimal (isList : Bool) {length : Nat} (h : 55 < length) (rest : Bytes) :
    readLength isList (Bytes.minimal length).length (Bytes.minimal length ++ rest) =
      .ok ⟨isList, (Bytes.minimal length).length + 1, length⟩ := by
  have hvalue := Bytes.toNat_minimal length
  have hhead := Bytes.head?_minimal length
  obtain ⟨b, bs, hcons⟩ :=
    List.exists_cons_of_ne_nil (Bytes.minimal_ne_nil (Nat.lt_of_le_of_lt (Nat.zero_le 55) h))
  rw [hcons] at hvalue hhead ⊢
  have hb : b ≠ 0 := fun hzero => hhead (congrArg some hzero)
  have hlength : ¬ ((b :: bs) ++ rest).length < (b :: bs).length := by simp
  rw [readLength]
  · rw [if_neg hlength]
    simp only [List.take_left, hvalue]
    rw [if_neg (Nat.not_le_of_lt h)]
  · simp
  · intro tail heq
    exact hb (List.cons.inj heq).1

theorem readHeader_short (isList : Bool) {length : Nat} (h : length ≤ 55) (rest : Bytes) :
    readHeader (UInt8.ofNat (offset isList + length) :: rest) = .ok ⟨isList, 1, length⟩ := by
  have hbyte : (UInt8.ofNat (offset isList + length)).toNat = offset isList + length := by
    have hsmall : offset isList ≤ 0xc0 := by cases isList <;> decide
    rw [UInt8.toNat_ofNat']
    omega
  rw [readHeader, hbyte]
  cases isList with
  | false =>
      have hoffset : offset false = 0x80 := rfl
      rw [hoffset, if_neg (by omega), if_pos (by omega), Nat.add_sub_cancel_left]
  | true =>
      have hoffset : offset true = 0xc0 := rfl
      rw [hoffset, if_neg (by omega), if_neg (by omega), if_neg (by omega), if_pos (by omega),
        Nat.add_sub_cancel_left]

theorem readHeader_long (isList : Bool) {size : Nat} (hpos : 0 < size) (h : size ≤ 8)
    (rest : Bytes) : readHeader (UInt8.ofNat (offset isList + 55 + size) :: rest) =
      readLength isList size rest := by
  have hbyte : (UInt8.ofNat (offset isList + 55 + size)).toNat = offset isList + 55 + size := by
    have hsmall : offset isList ≤ 0xc0 := by cases isList <;> decide
    rw [UInt8.toNat_ofNat']
    omega
  rw [readHeader, hbyte]
  cases isList with
  | false =>
      have hoffset : offset false = 0x80 := rfl
      rw [hoffset, if_neg (by omega), if_neg (by omega), if_pos (by omega), Nat.add_sub_cancel_left]
  | true =>
      have hoffset : offset true = 0xc0 := rfl
      rw [hoffset, if_neg (by omega), if_neg (by omega), if_neg (by omega), if_neg (by omega),
        Nat.add_sub_cancel_left]

/-- A header is read back, whatever follows it. -/
theorem readHeader_header (isList : Bool) {length : Nat} (h : length < UInt64.size) (rest : Bytes) :
    readHeader (header (offset isList) length ++ rest) =
      .ok ⟨isList, (header (offset isList) length).length, length⟩ := by
  rw [header]
  by_cases hshort : length ≤ 55
  · rw [if_pos hshort]
    exact readHeader_short isList hshort rest
  · have hlong : 55 < length := Nat.lt_of_not_le hshort
    have hsize : (Bytes.minimal length).length ≤ 8 := Bytes.length_minimal_le_iff.2 h
    have hpos : 0 < (Bytes.minimal length).length :=
      List.length_pos_iff.2 (Bytes.minimal_ne_nil (by omega))
    rw [if_neg hshort]
    exact (readHeader_long isList hpos hsize _).trans (readLength_minimal isList hlong rest)

structure Item.Written (item : Item) (written : Bytes) : Prop where
  read : ∀ rest, readItem (written ++ rest) = .ok (item, rest)
  length : written.length = item.headerSize + item.payload.length
  pos : 0 < written.length

theorem written_of_header {h : Header} {mark payload : Bytes} (hsize : h.size = mark.length)
    (hlength : h.length = payload.length) (hpos : 0 < (mark ++ payload).length)
    (hread : ∀ rest, readHeader (mark ++ payload ++ rest) = .ok h) :
    Item.Written ⟨h.isList, mark.length, payload⟩ (mark ++ payload) where
  read rest := by
    have hextent : h.size + h.length = (mark ++ payload).length := by
      rw [hsize, hlength, List.length_append]
    have hfits : ¬ (mark ++ payload ++ rest).length < (mark ++ payload).length := by simp
    rw [readItem, hread]
    simp only [bind, Except.bind]
    rw [hextent, if_neg hfits, List.drop_left, hsize, hlength, List.append_assoc, List.drop_left,
      List.take_left]
  length := List.length_append
  pos := hpos

/-- What stands before the payload of a byte string: nothing if that is a byte below `0x80`. -/
def mark (payload : Bytes) : Bytes :=
  if payload.length = 1 ∧ payload.all (fun b => b.toNat < 0x80) then []
  else header (offset false) payload.length

theorem mark_singleton (b : UInt8) :
    mark [b] = if b.toNat < 0x80 then [] else header (offset false) 1 := by
  simp [mark]

theorem mark_of_length_ne {payload : Bytes} (h : payload.length ≠ 1) :
    mark payload = header (offset false) payload.length :=
  if_neg fun hsmall => h hsmall.1

theorem bytes_eq (payload : Bytes) : bytes payload = mark payload ++ payload := by
  match payload with
  | [] => rfl
  | [b] =>
      rw [mark_singleton, bytes]
      split <;> rfl
  | b :: c :: rest =>
      rw [mark_of_length_ne (by simp)]
      rfl

def byteItem (payload : Bytes) : Item := ⟨false, (mark payload).length, payload⟩

def listItem (payload : Bytes) : Item := ⟨true, (header (offset true) payload.length).length, payload⟩

theorem length_header_pos (offset length : Nat) : 0 < (header offset length).length := by
  rw [header]
  split
  · exact Nat.zero_lt_one
  · exact Nat.succ_pos _

theorem written_bytes {payload : Bytes} (h : payload.length < UInt64.size) :
    (byteItem payload).Written (bytes payload) := by
  rw [bytes_eq, byteItem]
  by_cases hsmall : payload.length = 1 ∧ payload.all (fun b => b.toNat < 0x80)
  · -- A byte below `0x80` has no header.
    obtain ⟨b, rfl⟩ := List.length_eq_one_iff.1 hsmall.1
    have hb : b.toNat < 0x80 := by simpa using hsmall.2
    rw [mark, if_pos hsmall]
    refine written_of_header (h := ⟨false, 0, 1⟩) rfl rfl Nat.zero_lt_one fun rest => ?_
    rw [List.nil_append, List.singleton_append, readHeader]
    exact if_pos (by omega)
  · rw [mark, if_neg hsmall]
    refine written_of_header (h := ⟨false, _, payload.length⟩) rfl rfl ?_ fun rest => ?_
    · have hpos := length_header_pos (offset false) payload.length
      rw [List.length_append]
      omega
    · rw [List.append_assoc]
      exact readHeader_header false h _

theorem length_flatten_le (items : List Bytes) : items.flatten.length ≤ (list items).length := by
  rw [list, List.length_append]
  exact Nat.le_add_left _ _

theorem length_payload_le (payload : Bytes) : payload.length ≤ (bytes payload).length := by
  rw [bytes_eq, List.length_append]
  exact Nat.le_add_left _ _

theorem length_le_flatten_of_mem {items : List Bytes} {written : Bytes} (h : written ∈ items) :
    written.length ≤ items.flatten.length := by
  obtain ⟨front, back, rfl⟩ := List.append_of_mem h
  rw [List.flatten_append, List.flatten_cons, List.length_append, List.length_append]
  omega

theorem length_le_of_mem {items : List Bytes} {written : Bytes} (h : written ∈ items) :
    written.length ≤ (list items).length :=
  Nat.le_trans (length_le_flatten_of_mem h) (length_flatten_le items)

theorem written_list {items : List Bytes} (h : items.flatten.length < UInt64.size) :
    (listItem items.flatten).Written (list items) := by
  refine written_of_header (h := ⟨true, _, items.flatten.length⟩) rfl rfl ?_ fun rest => ?_
  · have hpos := length_header_pos (offset true) items.flatten.length
    rw [List.length_append]
    omega
  · rw [List.append_assoc]
    exact readHeader_header true h _

namespace Item

theorem bytes_byteItem (payload : Bytes) : (byteItem payload).bytes = .ok payload := by
  rw [bytes, byteItem]
  dsimp only
  rw [if_neg Bool.false_ne_true]
  match payload with
  | [] => rfl
  | [b] =>
      have hshortest : ¬ ((mark [b]).length = 1 ∧ b.toNat < 0x80) := by
        rintro ⟨hmark, hb⟩
        rw [mark_singleton, if_pos hb] at hmark
        cases hmark
      exact if_neg hshortest
  | _ :: _ :: _ => rfl

def ofNumber (n : Nat) : Item := byteItem (Bytes.minimal n)

theorem number_ofNumber {width n : Nat} (h : n < 256 ^ width) : (ofNumber n).number width = .ok n := by
  have hlength : (Bytes.minimal n).length ≤ width := Bytes.length_minimal_le_iff.2 h
  rw [number, ofNumber, bytes_byteItem]
  simp only [bind, Except.bind]
  rw [if_neg (Bytes.head?_minimal n), if_pos hlength, Bytes.toNat_minimal]

theorem machineNumber_ofNumber {n : Nat} (h : n < UInt64.size) :
    (ofNumber n).machineNumber = .ok n := by
  have hlength : (Bytes.minimal n).length ≤ 8 := Bytes.length_minimal_le_iff.2 h
  rw [machineNumber, ofNumber, bytes_byteItem]
  simp only [bind, Except.bind]
  rw [if_neg (Nat.not_lt_of_le hlength), if_neg (Bytes.head?_minimal n), Bytes.toNat_minimal]

theorem fixed_byteItem {n : Nat} (x : FixedBytes n) : (byteItem x.bytes).fixed n = .ok x := by
  rw [fixed, bytes_byteItem]
  simp only [bind, Except.bind]
  rw [dif_pos x.length_eq]

end Item

theorem written_number {width n : Nat} (h : n < 256 ^ width) (hwidth : width < UInt64.size) :
    (Item.ofNumber n).Written (number n) :=
  written_bytes (Nat.lt_of_le_of_lt (Bytes.length_minimal_le_iff.2 h) hwidth)

/-- A reader takes exactly these bytes off a list, and gives a value. The extent of the list must
reach over them, and is forgotten with the first item that is read. -/
def Takes {α : Type} (reader : Reader α) (written : Bytes) (a : α) : Prop :=
  ∀ rest window, (∀ extent ∈ window, written.length ≤ extent) →
    ∃ left, reader ⟨written ++ rest, window⟩ = .ok (a, ⟨rest, left⟩) ∧
      ∀ extent ∈ left, written = [] ∧ extent ∈ window

variable {α β : Type}

theorem takes_nextAs {item : Item} {written : Bytes} {read : Item → Except Error α} {a : α}
    (hitem : item.Written written) (hread : read item = .ok a) :
    Takes (nextAs read) written a := by
  intro rest window hwindow
  refine ⟨none, ?_, nofun⟩
  have hdrop : (written ++ rest).drop (item.headerSize + item.payload.length) = rest := by
    rw [← hitem.length, List.drop_left]
  have hnext : next ⟨written ++ rest, window⟩ = .ok (item, ⟨rest, none⟩) := by
    cases window with
    | none =>
        simp only [next, bind, Except.bind, hitem.read]
        rw [hdrop]
    | some extent =>
        have hextent : written.length ≤ extent := hwindow extent rfl
        have htake : (written ++ rest).take extent =
            written ++ rest.take (extent - written.length) := by
          rw [List.take_append, List.take_of_length_le hextent]
        simp only [next, bind, Except.bind, htake, hitem.read]
        rw [hdrop]
  simp only [nextAs, bind, StateT.bind, Except.bind, hnext, hread, liftM, monadLift,
    MonadLift.monadLift, StateT.lift, pure, Except.pure]

theorem takes_pure (a : α) : Takes (pure a) [] a := by
  intro rest window _
  exact ⟨window, rfl, fun extent h => ⟨rfl, h⟩⟩

theorem Takes.bind {reader : Reader α} {next : α → Reader β} {written later : Bytes} {a : α} {b : β}
    (hfirst : Takes reader written a) (hlater : Takes (next a) later b) :
    Takes (reader >>= next) (written ++ later) b := by
  intro rest window hwindow
  have hfits : ∀ extent ∈ window, written.length + later.length ≤ extent := by
    intro extent h
    rw [← List.length_append]
    exact hwindow extent h
  obtain ⟨middle, hread, hmiddle⟩ := hfirst (later ++ rest) window fun extent h =>
    Nat.le_trans (Nat.le_add_right _ _) (hfits extent h)
  obtain ⟨left, hreadLater, hleft⟩ := hlater rest middle fun extent h =>
    Nat.le_trans (Nat.le_add_left _ _) (hfits extent (hmiddle extent h).2)
  refine ⟨left, ?_, ?_⟩
  · rw [List.append_assoc]
    simp only [Bind.bind, StateT.bind, Except.bind, hread, hreadLater]
  · intro extent h
    obtain ⟨rfl, hextent⟩ := hleft extent h
    obtain ⟨rfl, hwhole⟩ := hmiddle extent hextent
    exact ⟨rfl, hwhole⟩

theorem Takes.map {reader : Reader α} {written : Bytes} {a : α} (h : Takes reader written a)
    (f : α → β) : Takes (reader >>= fun x => pure (f x)) written (f a) := by
  have hbind : Takes (reader >>= fun x => pure (f x)) (written ++ []) (f a) :=
    h.bind (takes_pure (f a))
  rw [List.append_nil] at hbind
  exact hbind

theorem Takes.run {reader : Reader α} {written : Bytes} {a : α} (h : Takes reader written a)
    (rest : Bytes) :
    ∃ left, reader ⟨written ++ rest, some written.length⟩ = .ok (a, ⟨rest, left⟩) := by
  obtain ⟨left, hread, -⟩ := h rest (some written.length) fun extent hextent => by
    cases hextent
    exact Nat.le_refl _
  exact ⟨left, hread⟩

def Gives (reader : Reader α) (property : α → Prop) : Prop :=
  ∀ cursor a left, reader cursor = .ok (a, left) → property a

theorem gives_pure {property : α → Prop} {a : α} (h : property a) :
    Gives (pure a) property := by
  intro cursor b left hread
  cases hread
  exact h

theorem gives_bind {reader : Reader α} {next : α → Reader β} {property : β → Prop}
    (h : ∀ a, Gives (next a) property) : Gives (reader >>= next) property := by
  intro cursor b left hread
  simp only [Bind.bind, StateT.bind, Except.bind] at hread
  cases hfirst : reader cursor with
  | error e =>
      rw [hfirst] at hread
      cases hread
  | ok first =>
      rw [hfirst] at hread
      exact h first.1 first.2 b left hread

theorem readLength_isList {isList : Bool} {size : Nat} {bs : Bytes} {h : Header}
    (hread : readLength isList size bs = .ok h) : h.isList = isList := by
  rw [readLength.eq_def] at hread
  split at hread
  · cases hread
  · cases hread
  · dsimp only at hread
    split at hread
    · cases hread
    · split at hread
      · cases hread
      · cases hread
        rfl

/-- The header of a list begins with a byte of at least `0xc0`. -/
theorem le_of_readHeader {b : UInt8} {bs : Bytes} {h : Header}
    (hread : readHeader (b :: bs) = .ok h) (hlist : h.isList = true) : 0xc0 ≤ b.toNat := by
  rw [readHeader] at hread
  by_cases hsmall : b.toNat ≤ 0xbf
  · have hfalse : h.isList = false := by
      split at hread
      · cases hread
        rfl
      · split at hread
        · cases hread
          rfl
        · exact readLength_isList hread
    rw [hfalse] at hlist
    cases hlist
  · omega

/-- The extent that is declared is that of the list, but what follows the list is kept too. -/
theorem enter_list {items : List Bytes} (h : items.flatten.length < UInt64.size) (rest : Bytes) :
    enter (list items ++ rest) = .ok ⟨items.flatten ++ rest, some items.flatten.length⟩ := by
  have hlist : list items ++ rest =
      header (offset true) items.flatten.length ++ (items.flatten ++ rest) := List.append_assoc _ _ _
  have hread := readHeader_header true h (items.flatten ++ rest)
  have hfits : ¬ (list items ++ rest).length < (header (offset true) items.flatten.length).length +
      items.flatten.length := by
    rw [hlist, List.length_append, List.length_append]
    omega
  have hdrop : (list items ++ rest).drop (header (offset true) items.flatten.length).length =
      items.flatten ++ rest := by
    rw [hlist, List.drop_left]
  have hpos := length_header_pos (offset true) items.flatten.length
  rw [← hlist] at hread
  rw [enter.eq_def]
  split
  · next hnil =>
      rw [hnil, List.length_nil] at hfits
      omega
  · next b bs hcons =>
      have hb : ¬ b.toNat < 0xc0 := by
        rw [hcons] at hread
        have hle := le_of_readHeader hread rfl
        omega
      rw [if_neg hb, hread]
      simp only [Bind.bind, Except.bind]
      rw [if_neg hfits, hdrop]

section Repeated

variable {write : α → Bytes} {item : α → Item} {xs : List α}

theorem itemsUpTo_flatten (hwritten : ∀ x ∈ xs, (item x).Written (write x)) {count : Nat}
    (hcount : xs.length ≤ count) :
    itemsUpTo count (xs.map write).flatten = xs.map item := by
  induction xs generalizing count with
  | nil =>
      cases count with
      | zero => rfl
      | succ count => rfl
  | cons x xs ih =>
      cases count with
      | zero => simp at hcount
      | succ count =>
          have hfirst := (hwritten x List.mem_cons_self).read (xs.map write).flatten
          have hrest := ih (fun y hy => hwritten y (List.mem_cons_of_mem _ hy))
            (Nat.le_of_succ_le_succ hcount)
          rw [List.map_cons, List.flatten_cons, itemsUpTo, hfirst]
          exact congrArg (item x :: ·) hrest

theorem length_le_length_flatten (hwritten : ∀ x ∈ xs, (item x).Written (write x)) :
    xs.length ≤ (xs.map write).flatten.length := by
  induction xs with
  | nil => exact Nat.le_refl 0
  | cons x xs ih =>
      have hpos := (hwritten x List.mem_cons_self).pos
      have hrest := ih fun y hy => hwritten y (List.mem_cons_of_mem _ hy)
      rw [List.map_cons, List.flatten_cons, List.length_append, List.length_cons]
      omega

theorem mapM_items {read : Item → Except Error α} (hwritten : ∀ x ∈ xs, (item x).Written (write x))
    (hread : ∀ x ∈ xs, read (item x) = .ok x) :
    (listItem (xs.map write).flatten).items.mapM read = .ok xs := by
  have hitems : (listItem (xs.map write).flatten).items = xs.map item :=
    itemsUpTo_flatten hwritten (length_le_length_flatten hwritten)
  rw [hitems]
  clear hitems hwritten
  induction xs with
  | nil => rfl
  | cons x xs ih =>
      have hrest := ih fun y hy => hread y (List.mem_cons_of_mem _ hy)
      rw [List.map_cons, List.mapM_cons, hread x List.mem_cons_self]
      simp only [Bind.bind, Except.bind, hrest, pure, Except.pure]

end Repeated

end GasSponsor.Rlp
