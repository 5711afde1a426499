import Mathlib.Data.List.Nodup
import MintDrop.Proofs.Record.Layout
import MintDrop.Proofs.Record.Lines

/-!
# What instruction data says

An `Order` is a call of the record program with all its arguments, and its `Payload` is what the data of its instruction
says of them.  `Record.data_eq_iff_payload_eq`: the data says the kind of the order and the whole payload.  It rests on the
codecs reading back what they wrote (`Codec.Reads.encode_injective`) and on the tags of the kinds of orders being different
ones (`Record.Payload.tag_injective`).
-/

namespace MintDrop

/-- A codec that reads back what it wrote writes no two values alike. -/
theorem Codec.Reads.encode_injective {α : Type} {c : Codec α} (hc : c.Reads) {a b : α} {bs : Bytes}
    (ha : c.encode a = some bs) (hb : c.encode b = some bs) : a = b := by
  have hread := hc a bs [] ha
  rw [hc b bs [] hb] at hread
  cases hread
  rfl

namespace Record

/-! ### Orders and payloads -/

/-- What an order says in the data of its instruction. -/
inductive Payload
  | creation (terms : Terms)
  | lines (start : UInt32) (lines : List Line)
  | mint (bump : UInt8)
  | withdrawal
  deriving DecidableEq

/-- A call of a record program. -/
inductive Order
  | create (program : Address) (accounts : CreateAccounts) (terms : Terms)
  | addLines (program record authority : Address) (start : UInt32) (lines : List Line)
  | mintItem (program : Address) (accounts : MintAccounts) (bump : UInt8) (remaining : List AccountMeta)
  | withdraw (program record authority : Address)

/-- The instruction of an order. -/
def Order.instruction : Order → Except LedgerError Instruction
  | .create program accounts terms => Record.create program accounts terms
  | .addLines program record authority start lines => Record.addLines program record authority start lines
  | .mintItem program accounts bump remaining => Record.mintItem program accounts bump remaining
  | .withdraw program record authority => .ok (Record.withdraw program record authority)

/-- The arguments of an order that are no accounts. -/
def Order.payload : Order → Payload
  | .create _ _ terms => .creation terms
  | .addLines _ _ _ start lines => .lines start lines
  | .mintItem _ _ bump _ => .mint bump
  | .withdraw .. => .withdrawal

namespace Payload

/-- The name under which the record program knows a kind of order. -/
def name : Payload → String
  | .creation _ => "initialize_candy_machine"
  | .lines .. => "add_config_lines"
  | .mint _ => "mint_nft"
  | .withdrawal => "withdraw_funds"

/-- The bytes behind the tag. -/
def content : Payload → Option Bytes
  | .creation terms => Terms.codec.encode terms
  | .lines start ls => linesCodec.encode (start, ls)
  | .mint bump => Codec.uint8.encode bump
  | .withdrawal => some []

/-- Whether the texts and the lists of a payload can be counted in 32 bits. -/
def Fits : Payload → Prop
  | .creation terms => terms.Fits
  | .lines _ ls => ls.length < UInt32.size ∧ ∀ l ∈ ls, l.Fits
  | .mint _ | .withdrawal => True

theorem isSome_content_iff_fits {p : Payload} : p.content.isSome ↔ p.Fits := by
  cases p with
  | creation terms => exact Terms.isSome_encode_iff_fits
  | lines start ls =>
      simp only [content, Fits, Line.Fits, linesCodec, lineCodec, Codec.iso, Codec.isSome_encode_pair,
        Codec.isSome_encode_list, Codec.isSome_encode_text]
      exact and_iff_right rfl
  | mint bump => exact iff_of_true rfl trivial
  | withdrawal => exact iff_of_true rfl trivial

/-- Payloads of one kind that are written alike are equal. -/
theorem content_injective {p p' : Payload} {bs : Bytes} (hname : p.name = p'.name) (h : p.content = some bs)
    (h' : p'.content = some bs) : p = p' := by
  cases p with
  | creation terms =>
      cases p' with
      | creation terms' => rw [Terms.faithful_codec.reads.encode_injective h h']
      | _ => simp [name] at hname
  | lines start ls =>
      cases p' with
      | lines start' ls' =>
          cases reads_linesCodec.encode_injective h h'
          rfl
      | _ => simp [name] at hname
  | mint bump =>
      cases p' with
      | mint bump' => rw [Codec.faithful_uint8.reads.encode_injective h h']
      | _ => simp [name] at hname
  | withdrawal =>
      cases p' with
      | withdrawal => rfl
      | _ => simp [name] at hname

/-- The names of the kinds of orders have different tags. -/
theorem tag_injective {p p' : Payload} (h : instructionTag p.name = instructionTag p'.name) : p.name = p'.name := by
  have hnames (p : Payload) :
      p.name ∈ ["initialize_candy_machine", "add_config_lines", "mint_nft", "withdraw_funds"] := by
    cases p <;> simp [name]
  have hnodup : (["initialize_candy_machine", "add_config_lines", "mint_nft", "withdraw_funds"].map
      instructionTag).Nodup := by decide +kernel
  exact List.inj_on_of_nodup_map hnodup (hnames p) (hnames p') h

end Payload

/-! ### The data of an order -/

variable {o o' : Order} {i i' : Instruction}

theorem instructionData_eq_ok {name : String} {arguments : Option Bytes} {data : Bytes} :
    instructionData name arguments = .ok data ↔ ∃ bs, arguments = some bs ∧ instructionTag name ++ bs = data := by
  cases arguments <;> simp [instructionData]

/-- The data of an order is its tag and its payload. -/
theorem data_of_instruction (h : o.instruction = .ok i) :
    ∃ bs, o.payload.content = some bs ∧ instructionTag o.payload.name ++ bs = i.data := by
  cases o with
  | create | addLines | mintItem =>
      obtain ⟨data, hdata, hi⟩ := exists_of_bind_eq_ok h
      obtain rfl := Except.ok.inj hi
      exact instructionData_eq_ok.1 hdata
  | withdraw =>
      obtain rfl := Except.ok.inj h
      exact ⟨[], rfl, List.append_nil _⟩

theorem take_data (h : o.instruction = .ok i) : i.data.take 8 = instructionTag o.payload.name := by
  obtain ⟨bs, -, hdata⟩ := data_of_instruction h
  rw [← hdata]
  exact List.take_left' (length_instructionTag _)

/-- The orders that have an instruction are those whose payload can be written. -/
theorem exists_instruction_iff_fits : (∃ i, o.instruction = .ok i) ↔ o.payload.Fits := by
  rw [← Payload.isSome_content_iff_fits]
  constructor
  · rintro ⟨i, h⟩
    obtain ⟨bs, hbs, -⟩ := data_of_instruction h
    exact Option.isSome_of_eq_some hbs
  · intro h
    obtain ⟨bs, hbs⟩ := Option.isSome_iff_exists.1 h
    have hdata : instructionData o.payload.name o.payload.content = .ok (instructionTag o.payload.name ++ bs) :=
      instructionData_eq_ok.2 ⟨bs, hbs, rfl⟩
    cases o with
    | create | addLines | mintItem =>
        simp only [Order.payload, Payload.name, Payload.content] at hdata
        simp only [Order.instruction, create, addLines, mintItem, hdata]
        exact ⟨_, rfl⟩
    | withdraw => exact ⟨_, rfl⟩

/-- Data says the kind of its order and the whole payload. -/
theorem payload_of_data_eq (h : o.instruction = .ok i) (h' : o'.instruction = .ok i') (hdata : i.data = i'.data) :
    o.payload = o'.payload := by
  obtain ⟨bs, hbs, hi⟩ := data_of_instruction h
  obtain ⟨bs', hbs', hi'⟩ := data_of_instruction h'
  rw [← hi, ← hi'] at hdata
  have hlength : (instructionTag o.payload.name).length = (instructionTag o'.payload.name).length := by
    rw [length_instructionTag, length_instructionTag]
  obtain ⟨htag, rfl⟩ := List.append_inj hdata hlength
  exact Payload.content_injective (Payload.tag_injective htag) hbs hbs'

theorem data_eq_of_payload (h : o.instruction = .ok i) (h' : o'.instruction = .ok i')
    (hpayload : o.payload = o'.payload) : i.data = i'.data := by
  obtain ⟨bs, hbs, hi⟩ := data_of_instruction h
  obtain ⟨bs', hbs', hi'⟩ := data_of_instruction h'
  rw [hpayload, hbs'] at hbs
  obtain rfl := Option.some.inj hbs
  rw [← hi, ← hi', hpayload]

/-! ### Kinds that are told by their data -/

theorem linesIndex?_instruction (h : o.instruction = .ok i) (start : UInt32) :
    linesIndex? i.data = some start ↔ ∃ ls, o.payload = .lines start ls := by
  constructor
  · intro hindex
    obtain ⟨rest, hdata⟩ := linesIndex?_eq_some_iff.1 hindex
    have htag := take_data h
    rw [hdata, List.take_left' (length_instructionTag _)] at htag
    have hname := Payload.tag_injective (p := .lines start []) htag
    cases o with
    | addLines program record authority start' ls =>
        rw [linesIndex?_addLines h] at hindex
        cases hindex
        exact ⟨ls, rfl⟩
    | _ => simp [Payload.name, Order.payload] at hname
  · rintro ⟨ls, hpayload⟩
    cases o with
    | addLines program record authority start' ls' =>
        cases hpayload
        exact linesIndex?_addLines h
    | _ => cases hpayload

theorem isWithdraw_instruction (h : o.instruction = .ok i) : isWithdraw i.data ↔ o.payload = .withdrawal := by
  have htag := take_data h
  constructor
  · intro hdrains
    obtain ⟨-, hdrains⟩ := (Bool.and_eq_true _ _).mp hdrains
    have hname := Payload.tag_injective (p := .withdrawal) ((of_decide_eq_true hdrains).symm.trans htag)
    cases o with
    | withdraw => rfl
    | _ => simp [Payload.name, Order.payload] at hname
  · intro hpayload
    rw [hpayload, Payload.name] at htag
    have hlength := congrArg List.length htag
    rw [List.length_take, length_instructionTag] at hlength
    have hlong : 8 ≤ i.data.length := by omega
    simp only [isWithdraw, htag, hlong, decide_true, Bool.and_self]

/-- Orders that have an instruction, which are those whose texts and lists can be counted, have the same data just if they
are of one kind and have the same payload.  Data shows the index of a first line just if it is of an order that writes
lines from there on, and is told to drain a record just if it is of an order that does.  Of arbitrary bytes, an index is
shown just by those that begin with the tag for lines and the index in four bytes. -/
theorem data_eq_iff_payload_eq (h : o.instruction = .ok i) (h' : o'.instruction = .ok i') :
    (i.data = i'.data ↔ o.payload = o'.payload) ∧
    (∀ start, linesIndex? i.data = some start ↔ ∃ ls, o.payload = .lines start ls) ∧
    (isWithdraw i.data ↔ o.payload = .withdrawal) ∧
    (∀ data start, linesIndex? data = some start ↔
      ∃ rest, data = instructionTag "add_config_lines" ++ (Bytes.ofNatLE 4 start.toNat ++ rest)) ∧
    ∀ o : Order, (∃ i, o.instruction = .ok i) ↔ o.payload.Fits :=
  ⟨⟨payload_of_data_eq h h', data_eq_of_payload h h'⟩, linesIndex?_instruction h, isWithdraw_instruction h,
    fun _ _ => linesIndex?_eq_some_iff, fun _ => exists_instruction_iff_fits⟩

/-- An order to write one line. -/
def oneLine (name uri : String) : Order := .addLines Address.recordProgram .zero .zero 7 [⟨name, uri⟩]

theorem exists_oneLine (name uri : String) (h : Line.Fits ⟨name, uri⟩) : ∃ i, (oneLine name uri).instruction = .ok i :=
  exists_instruction_iff_fits.2 ⟨show 1 < UInt32.size by decide, fun _ hl => List.mem_singleton.1 hl ▸ h⟩

/-- Two lines with the same characters one after another. -/
theorem data_eq_iff_payload_eq_oneLine : ∃ i i', (oneLine "ab" "").instruction = .ok i ∧
    (oneLine "a" "b").instruction = .ok i' ∧ i.data ≠ i'.data ∧ linesIndex? i.data = some 7 ∧ ¬ isWithdraw i.data := by
  obtain ⟨i, h⟩ := exists_oneLine "ab" "" ⟨by decide, by decide⟩
  obtain ⟨i', h'⟩ := exists_oneLine "a" "b" ⟨by decide, by decide⟩
  obtain ⟨hdata, hindex, hdrains, -⟩ := data_eq_iff_payload_eq h h'
  refine ⟨i, i', h, h', fun heq => ?_, (hindex 7).2 ⟨_, rfl⟩, fun hdrain => ?_⟩
  · exact absurd (hdata.1 heq) (by decide)
  · exact absurd (hdrains.1 hdrain) (by decide)

end Record

end MintDrop
