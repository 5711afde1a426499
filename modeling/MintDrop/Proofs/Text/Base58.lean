import Mathlib.Data.List.TakeWhile
import Mathlib.Data.Nat.Digits.Lemmas
import MintDrop.Ledger.Error
import MintDrop.Proofs.Text.Blank

/-!
# Reading written addresses

A text in base 58 and the byte string that it spells are the digits of one number in two bases, with the same
number of leading zeros; `rebase` is the change of base.  It undoes itself (`rebase_rebase`), so that an
address is read back from its text (`Address.parse_toText`) and no other text spells it but for blanks around
(`Address.parse_eq_ok_iff`).
-/

namespace MintDrop

namespace Base58

/-! ### Changing the base -/

/-- Digits in one base, the first one weighing most, as digits in another base with as many leading zeros. -/
def rebase (source target : ℕ) (ds : List ℕ) : List ℕ :=
  List.replicate (ds.takeWhile (· == 0)).length 0 ++ (Nat.digits target (Nat.ofDigits source ds.reverse)).reverse

theorem digitsRev_eq_digits (base : ℕ) (h : 1 < base) (n : ℕ) : digitsRev base h n = Nat.digits base n := by
  induction n using Nat.strongRecOn with
  | ind n ih =>
      rw [digitsRev]
      split_ifs with hn
      · rw [hn, Nat.digits_zero]
      · have hpos : 0 < n := Nat.pos_of_ne_zero hn
        rw [Nat.digits_def' h hpos, ih _ (Nat.div_lt_self hpos h)]

theorem ofDigits_eq_ofDigits (base : ℕ) (ds : List ℕ) : ofDigits base ds = Nat.ofDigits base ds.reverse := by
  rw [Nat.ofDigits_eq_foldr, List.foldr_reverse, ofDigits]
  refine congrArg (fun f => ds.foldl f 0) ?_
  funext n d
  exact Nat.add_comm _ _

theorem takeWhile_eq_replicate (ds : List ℕ) :
    ds.takeWhile (· == 0) = List.replicate (ds.takeWhile (· == 0)).length 0 := by
  refine List.eq_replicate_of_mem fun d hd => ?_
  simpa using List.mem_takeWhile_imp hd

/-- Digits are their leading zeros and digits of which the first is none. -/
theorem exists_leading (ds : List ℕ) : ∃ z ts, ds = List.replicate z 0 ++ ts ∧ (∀ h : ts ≠ [], ts.head h ≠ 0) := by
  refine ⟨(ds.takeWhile (· == 0)).length, ds.dropWhile (· == 0), ?_, fun h => ?_⟩
  · rw [← takeWhile_eq_replicate, List.takeWhile_append_dropWhile]
  · simpa using List.head_dropWhile_not (· == 0) h

theorem length_takeWhile_leading {z : ℕ} {ts : List ℕ} (h : ∀ h : ts ≠ [], ts.head h ≠ 0) :
    ((List.replicate z 0 ++ ts).takeWhile (· == 0)).length = z := by
  have hts : ts.takeWhile (· == 0) = [] := by
    cases ts with
    | nil => rfl
    | cons d ts =>
        have hd : d ≠ 0 := h (List.cons_ne_nil d ts)
        exact List.takeWhile_cons_of_neg (by simpa using hd)
  rw [List.takeWhile_append_of_pos (by simp), hts, List.append_nil, List.length_replicate]

theorem rebase_leading {source target z : ℕ} {ts : List ℕ} (h : ∀ h : ts ≠ [], ts.head h ≠ 0) :
    rebase source target (List.replicate z 0 ++ ts)
      = List.replicate z 0 ++ (Nat.digits target (Nat.ofDigits source ts.reverse)).reverse := by
  rw [rebase, length_takeWhile_leading h, List.reverse_append, List.reverse_replicate,
    Nat.ofDigits_append_replicate_zero]

/-- A change of the base and back gives the digits again. -/
theorem rebase_rebase {source target : ℕ} (hs : 1 < source) {ds : List ℕ}
    (hlt : ∀ d ∈ ds, d < source) : rebase target source (rebase source target ds) = ds := by
  obtain ⟨z, ts, rfl, hhead⟩ := exists_leading ds
  have hdigits : ∀ h : (Nat.digits target (Nat.ofDigits source ts.reverse)).reverse ≠ [],
      (Nat.digits target (Nat.ofDigits source ts.reverse)).reverse.head h ≠ 0 := by
    intro h
    rw [List.head_reverse]
    exact Nat.getLast_digit_ne_zero target (fun h0 => h (by simp [h0]))
  have hts : Nat.digits source (Nat.ofDigits source ts.reverse) = ts.reverse := by
    refine Nat.digits_ofDigits source hs _ (fun d hd => hlt d ?_) fun h => ?_
    · exact List.mem_append_right _ (List.mem_reverse.1 hd)
    · rw [List.getLast_reverse]
      exact hhead _
  rw [rebase_leading hhead, rebase_leading hdigits, List.reverse_reverse, Nat.ofDigits_digits, hts,
    List.reverse_reverse]

theorem lt_of_mem_rebase {source target d : ℕ} (ht : 1 < target) {ds : List ℕ}
    (h : d ∈ rebase source target ds) : d < target := by
  rcases List.mem_append.1 h with h | h
  · obtain rfl := List.eq_of_mem_replicate h
    omega
  · exact Nat.digits_lt_base ht (List.mem_reverse.1 h)

/-! ### Texts -/

theorem toNatBE_eq_ofDigits (bs : Bytes) : Bytes.toNatBE bs = ofDigits 256 (bs.map UInt8.toNat) := by
  rw [Bytes.toNatBE, ofDigits, List.foldl_map]

theorem takeWhile_toNat (bs : Bytes) :
    ((bs.map UInt8.toNat).takeWhile (· == 0)).length = (bs.takeWhile (· == 0)).length := by
  rw [List.takeWhile_map, List.length_map]
  congr 2
  funext b
  exact Bool.eq_iff_iff.2 (by simp [← UInt8.toNat_inj])

theorem encode_eq (bs : Bytes) :
    encode bs = String.ofList ((rebase 256 58 (bs.map UInt8.toNat)).map digit) := by
  have hzero : digit 0 = '1' := by decide +kernel
  rw [encode, rebase, List.map_append, List.map_replicate, hzero, takeWhile_toNat, digitsRev_eq_digits,
    toNatBE_eq_ofDigits, ofDigits_eq_ofDigits]

theorem decode?_eq (s : String) :
    decode? s = (s.toList.mapM value?).map fun vs => (rebase 58 256 vs).map UInt8.ofNat := by
  rw [decode?]
  cases s.toList.mapM value? with
  | none => rfl
  | some vs =>
      change some (List.replicate _ 0 ++ (digitsRev 256 _ (ofDigits 58 vs)).reverse.map UInt8.ofNat)
        = some ((rebase 58 256 vs).map UInt8.ofNat)
      rw [rebase, List.map_append, List.map_replicate, digitsRev_eq_digits, ofDigits_eq_ofDigits]
      rfl

theorem value?_digit {n : ℕ} (h : n < 58) : value? (digit n) = some n := by
  have hall : ∀ n < 58, value? (digit n) = some n := by decide +kernel
  exact hall n h

theorem mapM_value?_digits {ds : List ℕ} (h : ∀ d ∈ ds, d < 58) : (ds.map digit).mapM value? = some ds := by
  induction ds with
  | nil => rfl
  | cons d ds ih =>
      rw [List.map_cons, List.mapM_cons, value?_digit (h d List.mem_cons_self),
        ih fun x hx => h x (List.mem_cons_of_mem d hx)]
      rfl

theorem decode?_encode (bs : Bytes) : decode? (encode bs) = some bs := by
  have hbytes : ∀ d ∈ bs.map UInt8.toNat, d < 256 := by
    intro d hd
    obtain ⟨b, _, rfl⟩ := List.mem_map.1 hd
    exact b.toNat_lt
  rw [decode?_eq, encode_eq, String.toList_ofList, mapM_value?_digits fun d hd => lt_of_mem_rebase (by decide) hd,
    Option.map_some, rebase_rebase (by decide) hbytes, List.map_map]
  refine congrArg some ((List.map_congr_left fun b _ => ?_).trans (List.map_id bs))
  exact UInt8.ofNat_toNat

theorem digit_of_value? {c : Char} {n : ℕ} (h : value? c = some n) : n < 58 ∧ digit n = c := by
  obtain ⟨hlt, hc, -⟩ := List.idxOf?_eq_some_iff.1 h
  refine ⟨hlt, ?_⟩
  rw [digit, List.getD_eq_getElem?_getD, List.getElem?_eq_getElem hlt, Option.getD_some]
  exact hc

theorem digits_of_mapM_value? {cs : List Char} {vs : List ℕ} (h : cs.mapM value? = some vs) :
    (∀ v ∈ vs, v < 58) ∧ vs.map digit = cs := by
  induction cs generalizing vs with
  | nil =>
      obtain rfl : [] = vs := Option.some.inj h
      exact ⟨fun v hv => (by cases hv), rfl⟩
  | cons c cs ih =>
      rw [List.mapM_cons] at h
      obtain ⟨v, hv, h⟩ := Option.bind_eq_some_iff.1 h
      obtain ⟨rest, hrest, h⟩ := Option.bind_eq_some_iff.1 h
      obtain rfl : v :: rest = vs := Option.some.inj h
      obtain ⟨hlt, hdigit⟩ := digit_of_value? hv
      obtain ⟨hall, hdigits⟩ := ih hrest
      exact ⟨List.forall_mem_cons.2 ⟨hlt, hall⟩, congrArg₂ List.cons hdigit hdigits⟩

/-- The byte string of a text is written as that text. -/
theorem encode_of_decode? {s : String} {bs : Bytes} (h : decode? s = some bs) : encode bs = s := by
  rw [decode?_eq] at h
  obtain ⟨vs, hvs, rfl⟩ := Option.map_eq_some_iff.1 h
  obtain ⟨hlt, hdigits⟩ := digits_of_mapM_value? hvs
  have hbytes : ((rebase 58 256 vs).map UInt8.ofNat).map UInt8.toNat = rebase 58 256 vs := by
    rw [List.map_map]
    refine (List.map_congr_left fun d hd => ?_).trans (List.map_id _)
    exact UInt8.toNat_ofNat_of_lt' (lt_of_mem_rebase (by decide) hd)
  rw [encode_eq, hbytes, rebase_rebase (by decide) hlt, hdigits, String.ofList_toList]

/-- No digit is a blank. -/
theorem isBlank_digit {n : ℕ} (h : n < 58) : Text.isBlank (digit n) = false := by
  have hall : ∀ n < 58, Text.isBlank (digit n) = false := by decide +kernel
  exact hall n h

end Base58

/-! ### Addresses -/

namespace Address

theorem exists_digit_of_mem_toText {a : Address} {c : Char} (h : c ∈ a.toText.toList) :
    ∃ n < 58, Base58.digit n = c := by
  rw [toText, Base58.encode_eq, String.toList_ofList] at h
  obtain ⟨n, hn, rfl⟩ := List.mem_map.1 h
  exact ⟨n, Base58.lt_of_mem_rebase (by decide) hn, rfl⟩

theorem isBlank_of_mem_toText {a : Address} {c : Char} (h : c ∈ a.toText.toList) : Text.isBlank c = false := by
  obtain ⟨n, hn, rfl⟩ := exists_digit_of_mem_toText h
  exact Base58.isBlank_digit hn

theorem trim_toText (a : Address) : Text.trim a.toText = a.toText := Text.trim_eq_self fun _ => isBlank_of_mem_toText

theorem parse?_of_trim {s : String} {a : Address} (h : Text.trim s = a.toText) : parse? s = some a := by
  rw [parse?, h, toText, Base58.decode?_encode, Option.bind_some, ofBytes?, dif_pos a.length_bytes]

theorem parse?_toText (a : Address) : parse? a.toText = some a := parse?_of_trim (trim_toText a)

theorem parse_toText (a : Address) : parse a.toText = .ok a := by
  rw [parse, parse?_toText]

theorem toText_of_parse? {s : String} {a : Address} (h : parse? s = some a) : Text.trim s = a.toText := by
  obtain ⟨bs, hbs, ha⟩ := Option.bind_eq_some_iff.1 h
  unfold ofBytes? at ha
  split_ifs at ha
  cases ha
  exact (Base58.encode_of_decode? hbs).symm

/-- The texts of an address are its written form with blanks around it. -/
theorem parse_eq_ok_iff {s : String} {a : Address} : parse s = .ok a ↔ Text.trim s = a.toText := by
  constructor
  · intro h
    unfold parse at h
    split at h <;> cases h
    exact toText_of_parse? (by assumption)
  · intro h
    rw [parse, parse?_of_trim h]

end Address

end MintDrop
