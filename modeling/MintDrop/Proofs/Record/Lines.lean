import MintDrop.Proofs.Codec
import MintDrop.Proofs.Partition
import MintDrop.Record.Instruction
import MintDrop.Script

/-!
# The lines of a record

`Record.written?` reads an instruction that writes lines: the record, the index of the first line and the
lines.  It reads back what `Record.addLines` wrote (`written?_addLines`).  `Record.lastLine?` is the line at
an index of a record after some transactions: the one that the last of them to write there wrote.
-/

namespace MintDrop

/-- Whether the texts of a line can be counted in 32 bits. -/
def Line.Fits (l : Line) : Prop :=
  (Utf8.encode l.name).length < UInt32.size ∧ (Utf8.encode l.uri).length < UInt32.size

namespace Record

/-! ### Reading an instruction -/

/-- The record that an instruction writes lines to, the index of the first line, and the lines. -/
def written? (i : Instruction) : Option (Address × UInt32 × List Line) :=
  match i.accounts, linesCodec.decode (i.data.drop 8) with
  | account :: _, .ok ((start, lines), _) =>
      if i.data.take 8 = instructionTag "add_config_lines" then some (account.address, start, lines) else none
  | _, _ => none

/-- The line that an instruction writes at an index of a record. -/
def lineAt? (i : Instruction) (record : Address) (index : UInt32) : Option Line :=
  match written? i with
  | some (account, start, lines) =>
      if account = record ∧ start ≤ index then lines[index.toNat - start.toNat]? else none
  | none => none

/-- Whether a transaction writes a line at an index of a record. -/
def Writes (tx : Transaction) (record : Address) (index : UInt32) (line : Line) : Prop :=
  ∃ i ∈ tx.instructions, lineAt? i record index = some line

/-- The line at an index of a record after transactions, the first one first. -/
def lastLine? (txs : List Transaction) (record : Address) (index : UInt32) : Option Line :=
  (txs.flatMap (·.instructions)).reverse.findSome? (lineAt? · record index)

/-- The lines of a record once it has carried out an instruction. -/
def carryOut (record : Address) (lines : UInt32 → Option Line) (i : Instruction) : UInt32 → Option Line :=
  fun index => (lineAt? i record index).or (lines index)

/-- The lines of a record once it has carried out transactions, the first one first. -/
def linesAfter (record : Address) (lines : UInt32 → Option Line) (txs : List Transaction) : UInt32 → Option Line :=
  (txs.flatMap (·.instructions)).foldl (carryOut record) lines

theorem length_instructionTag (name : String) : (instructionTag name).length = 8 := by
  rw [instructionTag, List.length_take, Sha2.length_sha256]
  rfl

theorem reads_lineCodec : lineCodec.Reads :=
  (Codec.faithful_text.reads.pair Codec.faithful_text.reads).iso fun _ => rfl

theorem reads_linesCodec : linesCodec.Reads := Codec.faithful_uint32.reads.pair reads_lineCodec.list

variable {program record authority : Address} {start : UInt32} {lines : List Line} {i : Instruction}

/-- An instruction that writes lines holds them behind its tag. -/
theorem addLines_eq_ok (h : addLines program record authority start lines = .ok i) :
    ∃ bs, linesCodec.encode (start, lines) = some bs ∧
      i = ⟨program, [.writable record, .signer authority], instructionTag "add_config_lines" ++ bs⟩ := by
  unfold addLines instructionData at h
  cases hbs : linesCodec.encode (start, lines) with
  | none =>
      rw [hbs] at h
      cases h
  | some bs =>
      rw [hbs] at h
      exact ⟨bs, rfl, (Except.ok.inj h).symm⟩

theorem written?_addLines (h : addLines program record authority start lines = .ok i) :
    written? i = some (record, start, lines) := by
  obtain ⟨bs, hbs, rfl⟩ := addLines_eq_ok h
  have hdrop : (instructionTag "add_config_lines" ++ bs).drop 8 = bs :=
    List.drop_left' (length_instructionTag _)
  have htake : (instructionTag "add_config_lines" ++ bs).take 8 = instructionTag "add_config_lines" :=
    List.take_left' (length_instructionTag _)
  have hread := reads_linesCodec (start, lines) bs [] hbs
  rw [List.append_nil] at hread
  simp only [written?, hdrop, htake, hread, if_true]
  rfl

theorem lineAt?_addLines (h : addLines program record authority start lines = .ok i) (account : Address)
    (index : UInt32) :
    lineAt? i account index
      = if record = account ∧ start ≤ index then lines[index.toNat - start.toNat]? else none := by
  rw [lineAt?, written?_addLines h]

/-! ### Writing an instruction -/

theorem exists_addLines (program record authority : Address) (start : UInt32)
    (hcount : lines.length < UInt32.size) (hfits : ∀ l ∈ lines, l.Fits) :
    ∃ i, addLines program record authority start lines = .ok i := by
  have hlines : (linesCodec.encode (start, lines)).isSome := by
    refine Codec.isSome_encode_pair.2 ⟨rfl, Codec.isSome_encode_list.2 ⟨hcount, fun l hl => ?_⟩⟩
    obtain ⟨hname, huri⟩ := hfits l hl
    exact Codec.isSome_encode_pair.2 ⟨Codec.isSome_encode_text.2 hname, Codec.isSome_encode_text.2 huri⟩
  obtain ⟨bs, hbs⟩ := Option.isSome_iff_exists.1 hlines
  unfold addLines instructionData
  rw [hbs]
  exact ⟨_, rfl⟩

theorem linesIndex?_append (start : UInt32) (rest : Bytes) :
    linesIndex? (instructionTag "add_config_lines" ++ (Bytes.ofNatLE 4 start.toNat ++ rest)) = some start := by
  have htag := length_instructionTag "add_config_lines"
  have hlength := Bytes.length_ofNatLE 4 start.toNat
  have hlt : start.toNat < 256 ^ 4 := start.toNat_lt
  have hlong : ¬ (instructionTag "add_config_lines" ++ (Bytes.ofNatLE 4 start.toNat ++ rest)).length < 12 := by
    rw [List.length_append, List.length_append, htag, hlength]
    omega
  rw [linesIndex?, if_neg, List.drop_left' htag, List.take_left' hlength, Bytes.toNatLE_ofNatLE,
    Nat.mod_eq_of_lt hlt, UInt32.ofNat_toNat]
  rw [List.take_left' htag]
  exact fun h => h.elim hlong fun hne => hne rfl

/-- The index of the first line can be seen in the data. -/
theorem linesIndex?_addLines (h : addLines program record authority start lines = .ok i) :
    linesIndex? i.data = some start := by
  obtain ⟨bs, hbs, rfl⟩ := addLines_eq_ok h
  obtain ⟨content, -, hbs⟩ := Option.bind_eq_some_iff.1 hbs
  obtain rfl : Bytes.ofNatLE 4 start.toNat ++ content = bs := Option.some.inj hbs
  exact linesIndex?_append start content

/-- Data shows an index just if it begins with the tag and that index. -/
theorem linesIndex?_eq_some_iff {data : Bytes} : linesIndex? data = some start ↔
    ∃ rest, data = instructionTag "add_config_lines" ++ (Bytes.ofNatLE 4 start.toNat ++ rest) := by
  constructor
  · intro h
    unfold linesIndex? at h
    split_ifs at h with hdata
    obtain ⟨hlong, htag⟩ := not_or.1 hdata
    obtain rfl := Option.some.inj h
    have hlength : ((data.drop 8).take 4).length = 4 := by
      rw [List.length_take, List.length_drop]
      omega
    have hlt : Bytes.toNatLE ((data.drop 8).take 4) < UInt32.size := by
      have hbound := Bytes.toNatLE_lt ((data.drop 8).take 4)
      rwa [hlength] at hbound
    refine ⟨data.drop 12, ?_⟩
    have hindex := Bytes.ofNatLE_toNatLE ((data.drop 8).take 4)
    rw [hlength] at hindex
    rw [UInt32.toNat_ofNat_of_lt' hlt, hindex, ← not_not.1 htag]
    have hrest : data.drop 12 = (data.drop 8).drop 4 := by rw [List.drop_drop]
    rw [hrest, List.take_append_drop, List.take_append_drop]
  · rintro ⟨rest, rfl⟩
    exact linesIndex?_append start rest

/-! ### The lines after transactions -/

theorem lastLine?_append (txs later : List Transaction) (account : Address) (index : UInt32) :
    lastLine? (txs ++ later) account index = (lastLine? later account index).or (lastLine? txs account index) := by
  rw [lastLine?, List.flatMap_append, List.reverse_append, List.findSome?_append, lastLine?, lastLine?]

/-- A line stays until another one is written at its index. -/
theorem linesAfter_apply (account : Address) (before : UInt32 → Option Line) (txs : List Transaction)
    (index : UInt32) :
    linesAfter account before txs index = (lastLine? txs account index).or (before index) := by
  unfold linesAfter lastLine?
  generalize txs.flatMap (·.instructions) = is
  induction is generalizing before with
  | nil => rfl
  | cons i is ih =>
      rw [List.foldl_cons, ih, carryOut, List.reverse_cons, List.findSome?_append, List.findSome?_singleton,
        Option.or_assoc]

theorem exists_writes_of_lastLine? {txs : List Transaction} {account : Address} {index : UInt32} {line : Line}
    (h : lastLine? txs account index = some line) : ∃ tx ∈ txs, Writes tx account index line := by
  obtain ⟨i, hi, hline⟩ := List.exists_of_findSome?_eq_some h
  obtain ⟨tx, htx, hi⟩ := List.mem_flatMap.1 (List.mem_reverse.1 hi)
  exact ⟨tx, htx, i, hi, hline⟩

theorem lastLine?_ne_none_of_writes {txs : List Transaction} {tx : Transaction} {account : Address}
    {index : UInt32} {line : Line} (htx : tx ∈ txs) (h : Writes tx account index line) :
    lastLine? txs account index ≠ none := by
  obtain ⟨i, hi, hline⟩ := h
  intro hnone
  have := List.findSome?_eq_none_iff.1 hnone i (List.mem_reverse.2 (List.mem_flatMap.2 ⟨tx, htx, hi⟩))
  rw [hline] at this
  cases this

/-- Transactions that write one line only at an index leave it there, if one of them writes it or it was there
before. -/
theorem lastLine?_append_eq {txs later : List Transaction} {account : Address} {index : UInt32} {line : Line}
    (honly : ∀ tx ∈ later, ∀ line', Writes tx account index line' → line' = line)
    (h : lastLine? txs account index = some line ∨ ∃ tx ∈ later, Writes tx account index line) :
    lastLine? (txs ++ later) account index = some line := by
  rw [lastLine?_append]
  cases hlater : lastLine? later account index with
  | some line' =>
      obtain ⟨tx, htx, hwrites⟩ := exists_writes_of_lastLine? hlater
      rw [honly tx htx line' hwrites]
      rfl
  | none =>
      rcases h with h | ⟨tx, htx, hwrites⟩
      · exact h
      · exact absurd hlater (lastLine?_ne_none_of_writes htx hwrites)

end Record

end MintDrop
