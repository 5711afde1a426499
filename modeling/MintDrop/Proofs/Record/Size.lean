import MintDrop.Proofs.Record.Layout

/-!
# The size of a record

`Codec.FitsIn c n a` says that the codec `c` writes the value `a`, and with `n` bytes at most; it passes through the
ways of composing codecs, adding up the bytes.  A record whose texts and list are as short as the checks of a document
ask for (`Terms.Bounded`) is written with `Record.maxSize` bytes at most (`Record.exists_encode_le`): all that is reserved
before the item lines but the four bytes of the number of lines.
-/

namespace MintDrop

namespace Codec

variable {α β : Type} {c : Codec α} {d : Codec β} {m n : ℕ}

/-- Whether a value is written, and with so many bytes at most. -/
def FitsIn (c : Codec α) (n : ℕ) (a : α) : Prop := ∃ bs, c.encode a = some bs ∧ bs.length ≤ n

theorem FitsIn.mono {a : α} (h : c.FitsIn m a) (hmn : m ≤ n) : c.FitsIn n a := by
  obtain ⟨bs, hbs, hlength⟩ := h
  exact ⟨bs, hbs, Nat.le_trans hlength hmn⟩

/-! ### Values of fixed size -/

theorem fitsIn_fixed {width : ℕ} {ofNat : ℕ → α} {toNat : α → ℕ} (a : α) : (fixed width ofNat toNat).FitsIn width a :=
  ⟨_, rfl, Nat.le_of_eq (Bytes.length_ofNatLE width (toNat a))⟩

theorem fitsIn_bytes (bs : { bs : Bytes // bs.length = n }) : (bytes n).FitsIn n bs := ⟨bs.1, rfl, Nat.le_of_eq bs.2⟩

theorem fitsIn_uint8 (x : UInt8) : uint8.FitsIn 1 x := fitsIn_fixed x

theorem fitsIn_uint16 (x : UInt16) : uint16.FitsIn 2 x := fitsIn_fixed x

theorem fitsIn_uint64 (x : UInt64) : uint64.FitsIn 8 x := fitsIn_fixed x

theorem fitsIn_int64 (x : Int64) : int64.FitsIn 8 x := fitsIn_uint64 x.toUInt64

theorem fitsIn_address (a : Address) : address.FitsIn 32 a := ⟨a.bytes, rfl, Nat.le_of_eq a.length_bytes⟩

theorem fitsIn_boolean (b : Bool) : boolean.FitsIn 1 b := ⟨_, rfl, Nat.le_refl 1⟩

theorem fitsIn_variant [DecidableEq α] {cases : List α} (a : α) : (variant cases).FitsIn 1 a := ⟨_, rfl, Nat.le_refl 1⟩

/-! ### Composed values -/

theorem FitsIn.pair {a : α} {b : β} (ha : c.FitsIn m a) (hb : d.FitsIn n b) : (c.pair d).FitsIn (m + n) (a, b) := by
  obtain ⟨head, hhead, hm⟩ := ha
  obtain ⟨tail, htail, hn⟩ := hb
  refine ⟨head ++ tail, ?_, ?_⟩
  · simp only [Codec.pair, hhead, htail, Option.bind_eq_bind, Option.bind_some, Option.pure_def]
  · rw [List.length_append]
    omega

theorem FitsIn.option {a : Option α} (h : ∀ x ∈ a, c.FitsIn n x) : c.option.FitsIn (1 + n) a := by
  cases a with
  | none => exact ⟨[0], rfl, Nat.le_add_right 1 n⟩
  | some a =>
      obtain ⟨bs, hbs, hn⟩ := h a rfl
      refine ⟨1 :: bs, ?_, ?_⟩
      · simp only [Codec.option, hbs, Option.map_some]
      · rw [List.length_cons]
        omega

theorem fitsIn_text {s : String} (h : Utf8.size s ≤ n) (hn : n < UInt32.size) : text.FitsIn (4 + n) s := by
  have hlength : (Utf8.encode s).length = Utf8.size s := Utf8.length_encode s
  refine ⟨Bytes.ofNatLE 4 (Utf8.encode s).length ++ Utf8.encode s, ?_, ?_⟩
  · have hlt : (Utf8.encode s).length < UInt32.size := by omega
    simp only [text, encodeCount, if_pos hlt, Option.map_some]
  · rw [List.length_append, Bytes.length_ofNatLE]
    omega

theorem exists_encodeAll {as : List α} (h : ∀ a ∈ as, c.FitsIn n a) :
    ∃ bs, encodeAll c as = some bs ∧ bs.length ≤ as.length * n := by
  induction as with
  | nil => exact ⟨[], rfl, Nat.zero_le _⟩
  | cons a as ih =>
      obtain ⟨ha, has⟩ := List.forall_mem_cons.1 h
      obtain ⟨head, hhead, hn⟩ := ha
      obtain ⟨tail, htail, hall⟩ := ih has
      refine ⟨head ++ tail, ?_, ?_⟩
      · simp only [encodeAll, hhead, htail, Option.bind_eq_bind, Option.bind_some, Option.pure_def]
      · rw [List.length_append, List.length_cons, Nat.succ_mul]
        omega

theorem FitsIn.list {as : List α} (h : ∀ a ∈ as, c.FitsIn n a) (hm : as.length ≤ m) (hsize : m < UInt32.size) :
    c.list.FitsIn (4 + m * n) as := by
  obtain ⟨bs, hbs, hlength⟩ := exists_encodeAll h
  have hle : as.length * n ≤ m * n := Nat.mul_le_mul_right n hm
  refine ⟨Bytes.ofNatLE 4 as.length ++ bs, ?_, ?_⟩
  · have hlt : as.length < UInt32.size := by omega
    simp only [Codec.list, encodeCount, hbs, if_pos hlt, Option.bind_eq_bind, Option.bind_some, Option.pure_def]
  · rw [List.length_append, Bytes.length_ofNatLE]
    omega

end Codec

namespace Terms

open Codec

/-- The bytes of the tag of a record at most. -/
def maxTag : ℕ := 6

/-- Whether the texts and the list of some terms are as short as they are to be. -/
structure Bounded (t : Terms) : Prop where
  tag : Utf8.size t.tag ≤ maxTag
  symbol : Utf8.size t.symbol ≤ maxSymbol
  creators : t.creators.length ≤ maxCreators
  hidden : ∀ h ∈ t.hidden, Utf8.size h.name ≤ maxName ∧ Utf8.size h.uri ≤ maxUri
  sequel : ∀ s ∈ t.sequel, Utf8.size s.name ≤ maxName ∧ Utf8.size s.uri ≤ maxUri

theorem fitsIn_creatorCodec (c : Creator) : creatorCodec.FitsIn (32 + (1 + 1)) c :=
  (fitsIn_address c.address).pair ((fitsIn_boolean c.verified).pair (fitsIn_uint8 c.share))

theorem fitsIn_endRuleCodec (e : EndRule) : endRuleCodec.FitsIn (1 + 8) e :=
  (fitsIn_variant e.kind).pair (fitsIn_uint64 e.number)

theorem fitsIn_whitelistCodec (w : Whitelist) : whitelistCodec.FitsIn (1 + (32 + (1 + (1 + 8)))) w :=
  (fitsIn_variant w.mode).pair <| (fitsIn_address w.mint).pair <| (fitsIn_boolean w.presale).pair <|
    FitsIn.option fun x _ => fitsIn_uint64 x

theorem fitsIn_gatekeeperCodec (g : Gatekeeper) : gatekeeperCodec.FitsIn (32 + 1) g :=
  (fitsIn_address g.network).pair (fitsIn_boolean g.expireOnUse)

theorem fitsIn_hiddenCodec {h : HiddenItems} (hname : Utf8.size h.name ≤ maxName) (huri : Utf8.size h.uri ≤ maxUri) :
    hiddenCodec.FitsIn ((4 + maxName) + ((4 + maxUri) + 32)) h :=
  (fitsIn_text hname (by decide)).pair ((fitsIn_text huri (by decide)).pair (fitsIn_bytes h.hash))

theorem fitsIn_sequelCodec {s : Sequel} (hname : Utf8.size s.name ≤ maxName) (huri : Utf8.size s.uri ≤ maxUri) :
    sequelCodec.FitsIn ((4 + maxName) + ((4 + maxUri) + 1)) s :=
  (fitsIn_text hname (by decide)).pair ((fitsIn_text huri (by decide)).pair (fitsIn_boolean s.mintsInOrder))

/-- The bytes of bounded terms at most. -/
def maxSize : ℕ :=
  (4 + maxTag) + 8 + (4 + maxSymbol) + 2 + 8 + 1 + 1 + (1 + 8) + (1 + (1 + 8)) + (4 + maxCreators * (32 + (1 + 1)))
    + (1 + ((4 + maxName) + ((4 + maxUri) + 32))) + (1 + (1 + (32 + (1 + (1 + 8))))) + 8 + (1 + (32 + 1))
    + (1 + ((4 + maxName) + ((4 + maxUri) + 1)))

theorem Bounded.fitsIn {t : Terms} (h : t.Bounded) : codec.FitsIn maxSize t := by
  have hparts := (fitsIn_text h.tag (by decide)).pair <| (fitsIn_uint64 t.price).pair <|
    (fitsIn_text h.symbol (by decide)).pair <| (fitsIn_uint16 t.sellerFeeBasisPoints).pair <|
    (fitsIn_uint64 t.maxSupply).pair <| (fitsIn_boolean t.isMutable).pair <| (fitsIn_boolean t.retainAuthority).pair <|
    (FitsIn.option fun (x : Int64) (_ : x ∈ t.goLiveDate) => fitsIn_int64 x).pair <|
    (FitsIn.option fun (e : EndRule) (_ : e ∈ t.endRule) => fitsIn_endRuleCodec e).pair <|
    (FitsIn.list (fun (c : Creator) (_ : c ∈ t.creators) => fitsIn_creatorCodec c) h.creators (by decide)).pair <|
    (FitsIn.option fun x hx => fitsIn_hiddenCodec (h.hidden x hx).1 (h.hidden x hx).2).pair <|
    (FitsIn.option fun (w : Whitelist) (_ : w ∈ t.whitelist) => fitsIn_whitelistCodec w).pair <|
    (fitsIn_uint64 t.itemsAvailable).pair <|
    (FitsIn.option fun (g : Gatekeeper) (_ : g ∈ t.gatekeeper) => fitsIn_gatekeeperCodec g).pair <|
    FitsIn.option fun x hx => fitsIn_sequelCodec (h.sequel x hx).1 (h.sequel x hx).2
  exact hparts.mono (by decide)

end Terms

namespace Record

/-- The bytes of a record with bounded terms at most. -/
def maxSize : ℕ := 8 + (32 + (32 + ((1 + 32) + (8 + Terms.maxSize))))

/-- The parts of a record at their longest are what is reserved for them. -/
theorem maxSize_add : maxSize + 4 = Terms.linesStart := by decide

theorem exists_encode_le {r : Record} (h : r.terms.Bounded) : ∃ bs, encode r = some bs ∧ bs.length ≤ maxSize := by
  have hparts := (Codec.fitsIn_address r.authority).pair <| (Codec.fitsIn_address r.wallet).pair <|
    (Codec.FitsIn.option fun (a : Address) (_ : a ∈ r.tokenMint) => Codec.fitsIn_address a).pair <|
    (Codec.fitsIn_uint64 r.itemsRedeemed).pair h.fitsIn
  obtain ⟨bs, hbs, hlength⟩ := hparts
  refine ⟨discriminator "CandyMachine" ++ bs, ?_, ?_⟩
  · exact congrArg (Option.map (discriminator "CandyMachine" ++ ·)) hbs
  · rw [List.length_append, length_discriminator]
    exact Nat.add_le_add_left hlength 8

end Record

end MintDrop
