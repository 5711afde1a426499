import MintDrop.Json.Token
import MintDrop.Json.Writer
import MintDrop.Proofs.Text.Utf8

/-!
# Reading written strings

`Json.string` reads the text that `Json.writeString` wrote and leaves what follows (`string_written`), whatever the
characters of the text are.  A character is read off the head of what it is escaped to (`stringFrom_escapeChar`):
by an escape of one letter, by its number, or, if it is not escaped, byte by byte.
-/

namespace MintDrop.Json

/-- The bytes of written characters. -/
def utf8 (cs : List Char) : Bytes := cs.flatMap String.utf8EncodeChar

theorem encode_ofList (cs : List Char) : Utf8.encode (String.ofList cs) = utf8 cs := by
  rw [Utf8.encode, String.toList_ofList, utf8]

theorem utf8_toList (s : String) : utf8 s.toList = Utf8.encode s := rfl

theorem utf8_append (cs ds : List Char) : utf8 (cs ++ ds) = utf8 cs ++ utf8 ds := List.flatMap_append

theorem encodeChar_of_lt {c : Char} (h : c.toNat < 0x80) : String.utf8EncodeChar c = [byte c] := by
  have hv : c.val.toNat ≤ 127 := Nat.le_of_lt_succ h
  rw [String.utf8EncodeChar, if_pos hv]
  rfl

theorem utf8_cons {c : Char} (h : c.toNat < 0x80) (cs : List Char) : utf8 (c :: cs) = byte c :: utf8 cs := by
  rw [utf8, List.flatMap_cons, encodeChar_of_lt h]
  rfl

/-- Characters of one byte each. -/
theorem utf8_eq_map {cs : List Char} (h : ∀ c ∈ cs, c.toNat < 0x80) : utf8 cs = cs.map byte := by
  induction cs with
  | nil => rfl
  | cons c cs ih =>
      obtain ⟨hc, hcs⟩ := List.forall_mem_cons.1 h
      rw [utf8_cons hc, ih hcs, List.map_cons]

theorem skipBlanks_cons {b : UInt8} (h : isBlank b = false) (bs : Bytes) : skipBlanks (b :: bs) = b :: bs := by
  rw [skipBlanks, List.dropWhile_cons_of_neg (by simpa using h)]

/-! ### Characters that are not escaped -/

/-- Whether a byte stands for itself inside a string. -/
def Plain (b : UInt8) : Prop := b ≠ byte '"' ∧ b ≠ byte '\\' ∧ ¬ b < 0x20

variable {care : Care} {read rest : Bytes}

theorem stringFrom_plain {bs : Bytes} (h : ∀ b ∈ bs, Plain b) :
    stringFrom care read .plain (bs ++ rest) = stringFrom care (bs.reverse ++ read) .plain rest := by
  induction bs generalizing read with
  | nil => rfl
  | cons b bs ih =>
      obtain ⟨⟨hquote, hslash, hlow⟩, hbs⟩ := List.forall_mem_cons.1 h
      rw [List.cons_append, stringFrom, if_neg hquote, if_neg hslash, if_neg hlow, ih hbs, List.reverse_cons,
        List.append_assoc]
      rfl

theorem plain_of_le {b : UInt8} (h : 0x80 ≤ b.toNat) : Plain b := by
  refine ⟨?_, ?_, ?_⟩
  · rintro rfl
    exact absurd h (by decide)
  · rintro rfl
    exact absurd h (by decide)
  · intro hlow
    have hlt : b.toNat < 0x20 := UInt8.lt_iff_toNat_lt.1 hlow
    omega

/-- The bytes of a character beyond ASCII are beyond ASCII. -/
theorem le_of_mem_encodeChar {c : Char} (hc : 0x80 ≤ c.toNat) {b : UInt8} (h : b ∈ String.utf8EncodeChar c) :
    0x80 ≤ b.toNat := by
  have hlow : 0x80 ≤ c.val.toNat := hc
  have hbyte (n : ℕ) (hn : 0x80 ≤ n) (hn' : n < 256) : 0x80 ≤ (UInt8.ofNat n).toNat := by
    rwa [Utf8.toNat_byte hn']
  rw [String.utf8EncodeChar] at h
  generalize c.val.toNat = v at h hlow
  split_ifs at h with hone htwo hthree
  · omega
  all_goals
    simp only [List.mem_cons, List.not_mem_nil, or_false] at h
    rcases h with rfl | rfl | rfl | rfl <;> exact hbyte _ (by omega) (by omega)

theorem plain_of_mem_encodeChar {c : Char} (hquote : c ≠ '"') (hslash : c ≠ '\\') (hlow : ¬ c.toNat < 0x20) {b : UInt8}
    (h : b ∈ String.utf8EncodeChar c) : Plain b := by
  by_cases hc : c.toNat < 0x80
  · rw [encodeChar_of_lt hc, List.mem_singleton] at h
    subst h
    have hbyte : (byte c).toNat = c.toNat := Utf8.toNat_byte (by omega)
    have hne {d : Char} (hd : d.toNat < 0x80) (hcd : c ≠ d) : byte c ≠ byte d := by
      intro heq
      have hval := congrArg UInt8.toNat heq
      rw [hbyte, byte, Utf8.toNat_byte (by omega)] at hval
      exact hcd (Char.toNat_inj.1 hval)
    refine ⟨hne (by decide) hquote, hne (by decide) hslash, fun hlt => hlow ?_⟩
    rw [← hbyte]
    exact UInt8.lt_iff_toNat_lt.1 hlt
  · exact plain_of_le (le_of_mem_encodeChar (by omega) h)

/-! ### Escaped characters -/

theorem hexNumber?_lowHex : ∀ n < 0x20,
    hexNumber? [byte (lowHex (n % 16)), byte (lowHex (n / 16)), byte '0', byte '0'] = some n := by
  decide

theorem utf8_numbered : ∀ n < 0x20, utf8 ['\\', 'u', '0', '0', lowHex (n / 16), lowHex (n % 16)] =
    [byte '\\', byte 'u', byte '0', byte '0', byte (lowHex (n / 16)), byte (lowHex (n % 16))] := by
  decide

/-- A control character is read by its number. -/
theorem stringFrom_numbered {n : ℕ} (h : n < 0x20) (rest : Bytes) :
    stringFrom .sound read .plain (utf8 ['\\', 'u', '0', '0', lowHex (n / 16), lowHex (n % 16)] ++ rest)
      = stringFrom .sound ((String.utf8EncodeChar (Char.ofNat n)).reverse ++ read) .plain rest := by
  have hafter : afterHex .sound none n = .ok (String.utf8EncodeChar (Char.ofNat n), .plain) := by
    rw [afterHex, if_neg (by omega), if_neg (by omega)]
  rw [utf8_numbered n h]
  change stringFrom .sound read (.hex none [byte (lowHex (n / 16)), byte '0', byte '0'])
    (byte (lowHex (n % 16)) :: rest) = _
  rw [stringFrom, if_neg (by simp), hexNumber?_lowHex n h]
  simp only [hafter]

/-- A character is read off the head of what it is escaped to. -/
theorem stringFrom_escapeChar (c : Char) (read rest : Bytes) :
    stringFrom .sound read .plain (utf8 (escapeChar c) ++ rest)
      = stringFrom .sound ((String.utf8EncodeChar c).reverse ++ read) .plain rest := by
  unfold escapeChar
  split_ifs with h₁ h₂ h₃ h₄ h₅ h₆ h₇ h₈
  any_goals subst c; rfl
  · rw [stringFrom_numbered h₈, Char.ofNat_toNat]
  · have hplain : ∀ b ∈ utf8 [c], Plain b := by
      intro b hb
      rw [utf8, List.flatMap_singleton] at hb
      exact plain_of_mem_encodeChar h₁ h₂ h₈ hb
    rw [stringFrom_plain hplain, utf8, List.flatMap_singleton]

/-! ### Strings -/

theorem stringFrom_escaped (cs : List Char) (read rest : Bytes) :
    stringFrom .sound read .plain (utf8 (cs.flatMap escapeChar) ++ byte '"' :: rest)
      = .ok (read.reverse ++ utf8 cs, rest) := by
  induction cs generalizing read with
  | nil =>
      change Except.ok (read.reverse, rest) = Except.ok (read.reverse ++ [], rest)
      rw [List.append_nil]
  | cons c cs ih =>
      rw [List.flatMap_cons, utf8_append, List.append_assoc, stringFrom_escapeChar, ih, List.reverse_append,
        List.reverse_reverse, List.append_assoc]
      rfl

/-- The inside of a string that was written, with its closing quote. -/
theorem string_written (s : String) (rest : Bytes) :
    string (utf8 (s.toList.flatMap escapeChar) ++ byte '"' :: rest) = .ok (s, rest) := by
  have hread := stringFrom_escaped s.toList [] rest
  rw [List.reverse_nil, List.nil_append, utf8_toList] at hread
  simp only [string, hread, Utf8.decode_encode, bind, Except.bind, pure, Except.pure]

end MintDrop.Json
