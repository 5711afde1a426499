import MintDrop.Codec
import MintDrop.Proofs.Bytes
import MintDrop.Proofs.Except
import MintDrop.Proofs.Text.Utf8

/-!
# Codecs that are one to one

`Codec.Reads c` says that the codec `c` reads a value off the head of the bytes that it wrote for it, whatever
follows them, and `Codec.Strict c` that it reads nothing else.  `Codec.Faithful` is both: it holds of the numbers,
flags, choices and texts and passes through `Codec.iso`, `Codec.option`, `Codec.pair` and `Codec.list`.  Which values
can be written is said by `isSome_encode_text`, `isSome_encode_list` and their like.
-/

namespace MintDrop.Codec

variable {α β : Type}

/-- A codec reads what it wrote, and leaves what follows. -/
def Reads (c : Codec α) : Prop :=
  ∀ (a : α) (bs rest : Bytes), c.encode a = some bs → c.decode (bs ++ rest) = .ok (a, rest)

/-- A codec reads only what it writes. -/
def Strict (c : Codec α) : Prop :=
  ∀ (a : α) (bs rest : Bytes), c.decode bs = .ok (a, rest) → ∃ head, c.encode a = some head ∧ head ++ rest = bs

/-- A codec reads what it wrote and nothing else. -/
structure Faithful (c : Codec α) : Prop where
  reads : c.Reads
  strict : c.Strict

/-! ### Numbers -/

theorem take_append (bs rest : Bytes) : take bs.length (bs ++ rest) = .ok (bs, rest) := by
  rw [take, if_pos (by simp), List.take_left, List.drop_left]

theorem take_append_of_length {count : ℕ} {bs : Bytes} (h : bs.length = count) (rest : Bytes) :
    take count (bs ++ rest) = .ok (bs, rest) := by
  rw [← h, take_append]

theorem of_take {count : ℕ} {bs content rest : Bytes} (h : take count bs = .ok (content, rest)) :
    content.length = count ∧ content ++ rest = bs := by
  unfold take at h
  split_ifs at h with hle
  cases h
  exact ⟨List.length_take_of_le hle, List.take_append_drop count bs⟩

variable {width : ℕ} {ofNat : ℕ → α} {toNat : α → ℕ}

theorem reads_fixed (hlt : ∀ a, toNat a < 256 ^ width) (hback : ∀ a, ofNat (toNat a) = a) :
    (fixed width ofNat toNat).Reads := by
  intro a bs rest h
  obtain rfl : Bytes.ofNatLE width (toNat a) = bs := Option.some.inj h
  have htake := take_append_of_length (Bytes.length_ofNatLE width (toNat a)) rest
  change (take width (Bytes.ofNatLE width (toNat a) ++ rest)).map _ = _
  rw [htake]
  change Except.ok (ofNat (Bytes.toNatLE (Bytes.ofNatLE width (toNat a))), rest) = _
  rw [Bytes.toNatLE_ofNatLE, Nat.mod_eq_of_lt (hlt a), hback]

theorem strict_fixed (hforth : ∀ n < 256 ^ width, toNat (ofNat n) = n) : (fixed width ofNat toNat).Strict := by
  intro a bs rest h
  obtain ⟨⟨content, rest⟩, htake, h⟩ := exists_of_map_eq_ok h
  cases h
  obtain ⟨rfl, rfl⟩ := of_take htake
  refine ⟨content, ?_, rfl⟩
  change some (Bytes.ofNatLE content.length (toNat (ofNat (Bytes.toNatLE content)))) = some content
  rw [hforth _ (Bytes.toNatLE_lt content), Bytes.ofNatLE_toNatLE]

theorem faithful_uint8 : uint8.Faithful where
  reads := reads_fixed (fun a => a.toNat_lt) fun _ => UInt8.ofNat_toNat
  strict := strict_fixed fun _ h => UInt8.toNat_ofNat_of_lt' h

theorem faithful_uint16 : uint16.Faithful where
  reads := reads_fixed (fun a => a.toNat_lt) fun _ => UInt16.ofNat_toNat
  strict := strict_fixed fun _ h => UInt16.toNat_ofNat_of_lt' h

theorem faithful_uint32 : uint32.Faithful where
  reads := reads_fixed (fun a => a.toNat_lt) fun _ => UInt32.ofNat_toNat
  strict := strict_fixed fun _ h => UInt32.toNat_ofNat_of_lt' h

theorem faithful_uint64 : uint64.Faithful where
  reads := reads_fixed (fun a => a.toNat_lt) fun _ => UInt64.ofNat_toNat
  strict := strict_fixed fun _ h => UInt64.toNat_ofNat_of_lt' h

/-! ### Bytes, flags and choices -/

theorem faithful_bytes (count : ℕ) : (bytes count).Faithful where
  reads := by
    rintro ⟨bs, rfl⟩ _ rest h
    cases h
    simp only [bytes, List.length_append, Nat.le_add_right, dif_pos, List.take_left, List.drop_left]
  strict := by
    intro a bs rest h
    simp only [bytes] at h
    split_ifs at h with hle
    cases h
    exact ⟨bs.take count, rfl, List.take_append_drop count bs⟩

theorem faithful_boolean : boolean.Faithful where
  reads := by
    intro b bs rest h
    cases h
    cases b <;> rfl
  strict := by
    intro b bs rest h
    cases bs with
    | nil => cases h
    | cons tag bs =>
        simp only [boolean] at h
        split_ifs at h with hzero hone <;> cases h
        · exact ⟨[0], rfl, by rw [hzero]; rfl⟩
        · exact ⟨[1], rfl, by rw [hone]; rfl⟩

theorem faithful_variant [DecidableEq α] {cases : List α} (hall : ∀ a, a ∈ cases) (hnodup : cases.Nodup)
    (hcount : cases.length ≤ 256) : (variant cases).Faithful where
  reads := by
    intro a bs rest h
    cases h
    have hlt : cases.idxOf a < cases.length := List.idxOf_lt_length_of_mem (hall a)
    have htag : (UInt8.ofNat (cases.idxOf a)).toNat = cases.idxOf a :=
      UInt8.toNat_ofNat_of_lt' (Nat.lt_of_lt_of_le hlt hcount)
    simp only [variant, List.singleton_append, htag, List.getElem?_eq_getElem hlt, List.getElem_idxOf]
  strict := by
    intro a bs rest h
    cases bs with
    | nil => cases h
    | cons tag bs =>
        simp only [variant] at h
        split at h <;> cases h
        rename_i hcase
        obtain ⟨hlt, rfl⟩ := List.getElem?_eq_some_iff.1 hcase
        refine ⟨[tag], ?_, rfl⟩
        simp only [variant, hnodup.idxOf_getElem, UInt8.ofNat_toNat]

/-! ### Composed values -/

section

variable {c : Codec α} {d : Codec β}

theorem Reads.iso {there : α → β} {back : β → α} (hc : c.Reads)
    (hback : ∀ b, there (back b) = b) : (c.iso there back).Reads := by
  intro b bs rest h
  change (c.decode (bs ++ rest)).map _ = _
  rw [hc (back b) bs rest h]
  change Except.ok (there (back b), rest) = _
  rw [hback]

theorem Faithful.iso {there : α → β} {back : β → α} (hc : c.Faithful) (hback : ∀ b, there (back b) = b)
    (hforth : ∀ a, back (there a) = a) : (c.iso there back).Faithful where
  reads := hc.reads.iso hback
  strict := by
    intro b bs rest h
    obtain ⟨⟨a, rest⟩, ha, h⟩ := exists_of_map_eq_ok h
    cases h
    obtain ⟨head, hhead, rfl⟩ := hc.strict a bs rest ha
    refine ⟨head, ?_, rfl⟩
    change c.encode (back (there a)) = _
    rw [hforth, hhead]

theorem Reads.pair (hc : c.Reads) (hd : d.Reads) : (c.pair d).Reads := by
  rintro ⟨a, b⟩ bs rest h
  obtain ⟨head, hhead, h⟩ := Option.bind_eq_some_iff.1 h
  obtain ⟨tail, htail, h⟩ := Option.bind_eq_some_iff.1 h
  obtain rfl : head ++ tail = bs := Option.some.inj h
  have hfirst := hc a head (tail ++ rest) hhead
  have hsecond := hd b tail rest htail
  rw [List.append_assoc]
  simp only [Codec.pair, hfirst, hsecond, bind, Except.bind, pure, Except.pure]

theorem Faithful.pair (hc : c.Faithful) (hd : d.Faithful) : (c.pair d).Faithful where
  reads := hc.reads.pair hd.reads
  strict := by
    rintro ⟨a, b⟩ bs rest h
    obtain ⟨⟨a, middle⟩, ha, h⟩ := exists_of_bind_eq_ok h
    obtain ⟨⟨b, rest⟩, hb, h⟩ := exists_of_bind_eq_ok h
    cases h
    obtain ⟨head, hhead, rfl⟩ := hc.strict a bs middle ha
    obtain ⟨tail, htail, rfl⟩ := hd.strict b middle rest hb
    refine ⟨head ++ tail, ?_, List.append_assoc ..⟩
    simp only [Codec.pair, hhead, htail, Option.bind_eq_bind, Option.bind_some, Option.pure_def]

theorem Faithful.option (hc : c.Faithful) : c.option.Faithful where
  reads := by
    intro a bs rest h
    cases a with
    | none => cases h; rfl
    | some a =>
        obtain ⟨head, hhead, rfl⟩ := Option.map_eq_some_iff.1 h
        change (c.decode (head ++ rest)).map _ = _
        rw [hc.reads a head rest hhead]
        rfl
  strict := by
    intro a bs rest h
    cases bs with
    | nil => cases h
    | cons tag bs =>
        simp only [Codec.option] at h
        split_ifs at h with hzero hone
        · cases h
          exact ⟨[0], rfl, by rw [hzero]; rfl⟩
        · obtain ⟨⟨a, rest⟩, ha, h⟩ := exists_of_map_eq_ok h
          cases h
          obtain ⟨head, hhead, rfl⟩ := hc.strict a bs rest ha
          refine ⟨1 :: head, ?_, by rw [hone]; rfl⟩
          simp only [Codec.option, hhead, Option.map_some]

end

theorem faithful_int64 : int64.Faithful :=
  faithful_uint64.iso (fun _ => Int64.toInt64_toUInt64 _) fun _ => UInt64.toUInt64_toInt64 _

theorem faithful_address : address.Faithful := (faithful_bytes 32).iso (fun _ => rfl) fun _ => rfl

/-! ### Texts and lists -/

theorem uint32_decode_count {count : ℕ} {bs : Bytes} (h : encodeCount count = some bs) (rest : Bytes) :
    uint32.decode (bs ++ rest) = .ok (UInt32.ofNat count, rest) ∧ (UInt32.ofNat count).toNat = count := by
  unfold encodeCount at h
  split_ifs at h with hlt
  obtain rfl : Bytes.ofNatLE 4 count = bs := Option.some.inj h
  have hcount : (UInt32.ofNat count).toNat = count := UInt32.toNat_ofNat_of_lt' hlt
  refine ⟨faithful_uint32.reads (UInt32.ofNat count) _ rest ?_, hcount⟩
  change some (Bytes.ofNatLE 4 (UInt32.ofNat count).toNat) = _
  rw [hcount]

theorem encodeCount_of_decode {count : UInt32} {bs rest : Bytes} (h : uint32.decode bs = .ok (count, rest)) :
    ∃ head, encodeCount count.toNat = some head ∧ head ++ rest = bs := by
  obtain ⟨head, hhead, rfl⟩ := faithful_uint32.strict count bs rest h
  refine ⟨head, ?_, rfl⟩
  rw [encodeCount, if_pos count.toNat_lt]
  exact hhead

theorem faithful_text : text.Faithful where
  reads := by
    intro s bs rest h
    obtain ⟨count, hcount, h⟩ := Option.map_eq_some_iff.1 h
    subst h
    obtain ⟨hread, hlength⟩ := uint32_decode_count hcount (Utf8.encode s ++ rest)
    have htake := take_append_of_length hlength.symm rest
    rw [List.append_assoc]
    simp only [text, hread, htake, Utf8.decode_encode, bind, Except.bind, pure, Except.pure]
  strict := by
    intro s bs rest h
    obtain ⟨⟨count, middle⟩, hcount, h⟩ := exists_of_bind_eq_ok h
    obtain ⟨⟨content, after⟩, hcontent, h⟩ := exists_of_bind_eq_ok h
    cases hs : Utf8.decode content with
    | error fault =>
        simp only [hs] at h
        cases h
    | ok s' =>
        simp only [hs] at h
        cases h
        obtain rfl := Utf8.encode_of_decode hs
        obtain ⟨head, hhead, rfl⟩ := encodeCount_of_decode hcount
        obtain ⟨hlength, rfl⟩ := of_take hcontent
        refine ⟨head ++ Utf8.encode s, ?_, List.append_assoc ..⟩
        simp only [text, hlength, hhead, Option.map_some]

theorem decodeAll_encodeAll {c : Codec α} (hc : c.Reads) {as : List α} {bs : Bytes}
    (h : encodeAll c as = some bs) (rest : Bytes) : decodeAll c as.length (bs ++ rest) = .ok (as, rest) := by
  induction as generalizing bs with
  | nil =>
      obtain rfl : [] = bs := Option.some.inj h
      rfl
  | cons a as ih =>
      obtain ⟨head, hhead, h⟩ := Option.bind_eq_some_iff.1 h
      obtain ⟨tail, htail, h⟩ := Option.bind_eq_some_iff.1 h
      obtain rfl : head ++ tail = bs := Option.some.inj h
      have hfirst := hc a head (tail ++ rest) hhead
      rw [List.append_assoc, List.length_cons]
      simp only [decodeAll, hfirst, ih htail, bind, Except.bind, pure, Except.pure]

theorem encodeAll_of_decodeAll {c : Codec α} (hc : c.Strict) {count : ℕ} {as : List α} {bs rest : Bytes}
    (h : decodeAll c count bs = .ok (as, rest)) :
    as.length = count ∧ ∃ head, encodeAll c as = some head ∧ head ++ rest = bs := by
  induction count generalizing as bs with
  | zero =>
      cases h
      exact ⟨rfl, [], rfl, rfl⟩
  | succ count ih =>
      obtain ⟨⟨a, middle⟩, ha, h⟩ := exists_of_bind_eq_ok h
      obtain ⟨⟨as, rest⟩, has, h⟩ := exists_of_bind_eq_ok h
      cases h
      obtain ⟨head, hhead, rfl⟩ := hc a bs middle ha
      obtain ⟨rfl, tail, htail, rfl⟩ := ih has
      refine ⟨rfl, head ++ tail, ?_, List.append_assoc ..⟩
      simp only [encodeAll, hhead, htail, Option.bind_eq_bind, Option.bind_some, Option.pure_def]

theorem Reads.list {c : Codec α} (hc : c.Reads) : c.list.Reads := by
  intro as bs rest h
  obtain ⟨count, hcount, h⟩ := Option.bind_eq_some_iff.1 h
  obtain ⟨content, hcontent, h⟩ := Option.bind_eq_some_iff.1 h
  obtain rfl : count ++ content = bs := Option.some.inj h
  obtain ⟨hread, hlength⟩ := uint32_decode_count hcount (content ++ rest)
  rw [List.append_assoc]
  simp only [Codec.list, hread, hlength, decodeAll_encodeAll hc hcontent, bind, Except.bind]

theorem Faithful.list {c : Codec α} (hc : c.Faithful) : c.list.Faithful where
  reads := hc.reads.list
  strict := by
    intro as bs rest h
    obtain ⟨⟨count, middle⟩, hcount, hall⟩ := exists_of_bind_eq_ok h
    obtain ⟨head, hhead, rfl⟩ := encodeCount_of_decode hcount
    obtain ⟨hlength, content, hcontent, rfl⟩ := encodeAll_of_decodeAll hc.strict hall
    refine ⟨head ++ content, ?_, List.append_assoc ..⟩
    simp only [Codec.list, hlength, hhead, hcontent, Option.bind_eq_bind, Option.bind_some, Option.pure_def]

/-! ### Values that can be written -/

theorem isSome_encodeCount {count : ℕ} : (encodeCount count).isSome ↔ count < UInt32.size := by
  unfold encodeCount
  split_ifs with h <;> simp only [Option.isSome_some, Option.isSome_none, h, Bool.false_eq_true]

theorem isSome_bind_append {x : Option Bytes} {y : Option Bytes} :
    (x.bind fun a => y.bind fun b => some (a ++ b)).isSome ↔ x.isSome ∧ y.isSome := by
  cases x <;> cases y <;> simp

theorem isSome_encode_text {s : String} : (text.encode s).isSome ↔ (Utf8.encode s).length < UInt32.size := by
  rw [text, Option.isSome_map, isSome_encodeCount]

theorem isSome_encode_pair {c : Codec α} {d : Codec β} {p : α × β} :
    ((c.pair d).encode p).isSome ↔ (c.encode p.1).isSome ∧ (d.encode p.2).isSome := isSome_bind_append

theorem isSome_encode_option {c : Codec α} {a : Option α} :
    (c.option.encode a).isSome ↔ ∀ x ∈ a, (c.encode x).isSome := by
  cases a <;> simp [Codec.option]

theorem isSome_encodeAll {c : Codec α} {as : List α} : (encodeAll c as).isSome ↔ ∀ a ∈ as, (c.encode a).isSome := by
  induction as with
  | nil => simp [encodeAll]
  | cons a as ih =>
      rw [List.forall_mem_cons, ← ih]
      exact isSome_bind_append

theorem isSome_encode_list {c : Codec α} {as : List α} :
    (c.list.encode as).isSome ↔ as.length < UInt32.size ∧ ∀ a ∈ as, (c.encode a).isSome := by
  rw [← isSome_encodeAll, ← isSome_encodeCount]
  exact isSome_bind_append

end MintDrop.Codec
