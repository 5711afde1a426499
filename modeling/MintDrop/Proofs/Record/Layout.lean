import MintDrop.Ledger.Error
import MintDrop.Proofs.Codec

/-!
# What an account's data says

`Record.read_exact`: the data of an account is read as a record just when it begins with what the record is written
as, and a record is written if its texts and its list can be counted in 32 bits (`Record.Fits`).  It rests on
`Record.faithful_codec`: the layout of a record is one to one, whatever its optional parts.
-/

namespace MintDrop

/-- Whether the texts and the list of some terms can be counted in 32 bits. -/
structure Terms.Fits (t : Terms) : Prop where
  tag : (Utf8.encode t.tag).length < UInt32.size
  symbol : (Utf8.encode t.symbol).length < UInt32.size
  creators : t.creators.length < UInt32.size
  hidden : ∀ h ∈ t.hidden, (Utf8.encode h.name).length < UInt32.size ∧ (Utf8.encode h.uri).length < UInt32.size
  sequel : ∀ s ∈ t.sequel, (Utf8.encode s.name).length < UInt32.size ∧ (Utf8.encode s.uri).length < UInt32.size

/-- Whether the texts and the list of a record can be counted in 32 bits. -/
def Record.Fits (r : Record) : Prop := r.terms.Fits

namespace Terms

open Codec

/-! ### The parts -/

theorem faithful_creatorCodec : creatorCodec.Faithful :=
  (faithful_address.pair (faithful_boolean.pair faithful_uint8)).iso (fun _ => rfl) fun _ => rfl

theorem faithful_endRuleCodec : endRuleCodec.Faithful := by
  have hkind : (variant [EndKind.date, .amount]).Faithful :=
    faithful_variant (fun kind => by cases kind <;> decide) (by decide) (by decide)
  exact (hkind.pair faithful_uint64).iso (fun _ => rfl) fun _ => rfl

theorem faithful_hiddenCodec : hiddenCodec.Faithful :=
  (faithful_text.pair (faithful_text.pair (faithful_bytes 32))).iso (fun _ => rfl) fun _ => rfl

theorem faithful_whitelistCodec : whitelistCodec.Faithful := by
  have hmode : (variant [WhitelistMode.burnEveryTime, .neverBurn]).Faithful :=
    faithful_variant (fun mode => by cases mode <;> decide) (by decide) (by decide)
  exact (hmode.pair (faithful_address.pair (faithful_boolean.pair faithful_uint64.option))).iso (fun _ => rfl)
    fun _ => rfl

theorem faithful_gatekeeperCodec : gatekeeperCodec.Faithful :=
  (faithful_address.pair faithful_boolean).iso (fun _ => rfl) fun _ => rfl

theorem faithful_sequelCodec : sequelCodec.Faithful :=
  (faithful_text.pair (faithful_text.pair faithful_boolean)).iso (fun _ => rfl) fun _ => rfl

theorem faithful_codec : codec.Faithful :=
  (faithful_text.pair <| faithful_uint64.pair <| faithful_text.pair <| faithful_uint16.pair <|
    faithful_uint64.pair <| faithful_boolean.pair <| faithful_boolean.pair <| faithful_int64.option.pair <|
    faithful_endRuleCodec.option.pair <| faithful_creatorCodec.list.pair <| faithful_hiddenCodec.option.pair <|
    faithful_whitelistCodec.option.pair <| faithful_uint64.pair <|
    faithful_gatekeeperCodec.option.pair faithful_sequelCodec.option).iso (fun _ => rfl) fun _ => rfl

/-! ### Terms that can be written -/

/-- Two texts, and a part that can always be written. -/
theorem isSome_encode_named {α : Type} {c : Codec α} (hc : ∀ a, (c.encode a).isSome) (name uri : String) (a : α) :
    ((text.pair (text.pair c)).encode (name, uri, a)).isSome ↔
      (Utf8.encode name).length < UInt32.size ∧ (Utf8.encode uri).length < UInt32.size := by
  rw [isSome_encode_pair, isSome_encode_pair, isSome_encode_text, isSome_encode_text]
  exact ⟨fun ⟨hname, huri, _⟩ => ⟨hname, huri⟩, fun ⟨hname, huri⟩ => ⟨hname, huri, hc a⟩⟩

theorem isSome_encode_hidden {h : HiddenItems} : (hiddenCodec.encode h).isSome ↔
    (Utf8.encode h.name).length < UInt32.size ∧ (Utf8.encode h.uri).length < UInt32.size :=
  isSome_encode_named (fun _ => rfl) h.name h.uri h.hash

theorem isSome_encode_sequel {s : Sequel} : (sequelCodec.encode s).isSome ↔
    (Utf8.encode s.name).length < UInt32.size ∧ (Utf8.encode s.uri).length < UInt32.size :=
  isSome_encode_named (fun _ => rfl) s.name s.uri s.mintsInOrder

theorem isSome_encode_whitelist (w : Whitelist) : (whitelistCodec.encode w).isSome := by
  obtain ⟨mode, mint, presale, _ | price⟩ := w <;> rfl

/-- Numbers, flags, choices and addresses can always be written, so only the texts and the list count. -/
theorem isSome_encode_iff_fits {t : Terms} : (codec.encode t).isSome ↔ t.Fits := by
  simp only [codec, iso, isSome_encode_pair, isSome_encode_text, isSome_encode_option, isSome_encode_list,
    isSome_encode_hidden, isSome_encode_sequel, isSome_encode_whitelist]
  constructor
  · rintro ⟨htag, -, hsymbol, -, -, -, -, -, -, ⟨hcreators, -⟩, hhidden, -, -, -, hsequel⟩
    exact ⟨htag, hsymbol, hcreators, hhidden, hsequel⟩
  · rintro ⟨htag, hsymbol, hcreators, hhidden, hsequel⟩
    exact ⟨htag, rfl, hsymbol, rfl, rfl, rfl, rfl, fun _ _ => rfl, fun _ _ => rfl, ⟨hcreators, fun _ _ => rfl⟩,
      hhidden, fun _ _ => trivial, rfl, fun _ _ => rfl, hsequel⟩

end Terms

namespace Record

theorem faithful_codec : codec.Faithful :=
  (Codec.faithful_address.pair <| Codec.faithful_address.pair <| Codec.faithful_address.option.pair <|
    Codec.faithful_uint64.pair Terms.faithful_codec).iso (fun _ => rfl) fun _ => rfl

theorem isSome_encode_iff_fits {r : Record} : (encode r).isSome ↔ r.Fits := by
  rw [encode, Option.isSome_map]
  simp only [codec, Codec.iso, Codec.isSome_encode_pair, Codec.isSome_encode_option, Terms.isSome_encode_iff_fits]
  exact ⟨fun ⟨_, _, _, _, hterms⟩ => hterms, fun hterms => ⟨rfl, rfl, fun _ _ => rfl, rfl, hterms⟩⟩

/-! ### The data of an account -/

theorem length_discriminator (name : String) : (discriminator name).length = 8 := by
  rw [discriminator, List.length_take, Sha2.length_sha256]
  rfl

/-- What a record is written as is read as that record, whatever follows. -/
theorem decode_append {r : Record} {bs : Bytes} (h : encode r = some bs) (rest : Bytes) :
    decode (bs ++ rest) = .ok r := by
  obtain ⟨body, hbody, rfl⟩ := Option.map_eq_some_iff.1 h
  have htag := length_discriminator "CandyMachine"
  rw [List.append_assoc, decode, List.take_left' htag, List.drop_left' htag, if_neg, if_neg (not_not.2 rfl),
    faithful_codec.reads r body rest hbody]
  rw [List.length_append, htag]
  omega

/-- Data that is read as a record begins with what the record is written as. -/
theorem encode_of_decode {data : Bytes} {r : Record} (h : decode data = .ok r) :
    ∃ bs, encode r = some bs ∧ bs <+: data := by
  unfold decode at h
  split_ifs at h with hshort htag
  cases hbody : codec.decode (data.drop 8) with
  | error fault =>
      rw [hbody] at h
      cases h
  | ok read =>
      obtain ⟨r', rest⟩ := read
      rw [hbody] at h
      cases h
      obtain ⟨body, hencode, happend⟩ := faithful_codec.strict r _ rest hbody
      refine ⟨discriminator "CandyMachine" ++ body, ?_, rest, ?_⟩
      · rw [encode, hencode, Option.map_some]
      · rw [List.append_assoc, happend, ← not_not.1 htag, List.take_append_drop]

/-- The owner of a record stands right behind the discriminator, where accounts are filtered by it. -/
theorem authority_of_encode {r : Record} {bs : Bytes} (h : encode r = some bs) :
    (bs.drop 8).take 32 = r.authority.bytes := by
  obtain ⟨body, hbody, rfl⟩ := Option.map_eq_some_iff.1 h
  obtain ⟨rest, -, hbody⟩ := Option.bind_eq_some_iff.1 hbody
  cases hbody
  rw [List.drop_left' (length_discriminator _)]
  exact List.take_left' r.authority.length_bytes

theorem read_eq_ok {account : Address} {data : Bytes} {r : Record} :
    read account data = .ok r ↔ decode data = .ok r := by
  unfold read
  cases decode data <;> simp

theorem read_iff_encode (account : Address) (data : Bytes) (r : Record) :
    read account data = .ok r ↔ ∃ bs, encode r = some bs ∧ bs <+: data := by
  rw [read_eq_ok]
  constructor
  · exact encode_of_decode
  · rintro ⟨bs, hbs, rest, rfl⟩
    exact decode_append hbs rest

theorem exists_error_of_read {account : Address} {data : Bytes} (h : ∀ r, read account data ≠ .ok r) :
    ∃ fault, read account data = .error (.decode account fault) := by
  unfold read at h ⊢
  cases hdecode : decode data with
  | error fault => exact ⟨fault, rfl⟩
  | ok r => exact absurd (by rw [hdecode]) (h r)

/-- The records that can be written are those whose texts and list can be counted, and each one stands in the data
with its owner where accounts are filtered by it.  The data of an account is read as a record just when it begins with
what that record is written as, so that no two records are written alike, and all other data is refused as no record
of that account. -/
theorem read_exact (account : Address) (data : Bytes) (r : Record) :
    ((encode r).isSome ↔ r.Fits) ∧
    (∀ bs ∈ encode r, (bs.drop 8).take 32 = r.authority.bytes) ∧
    (read account data = .ok r ↔ ∃ bs ∈ encode r, bs <+: data) ∧
    (∀ bs ∈ encode r, ∀ r', encode r' = some bs → r' = r) ∧
    ((∃ fault, read account data = .error (.decode account fault)) ↔
      ∀ r', ∀ bs ∈ encode r', ¬ bs <+: data) := by
  refine ⟨isSome_encode_iff_fits, fun bs hbs => authority_of_encode hbs, read_iff_encode account data r, ?_, ?_⟩
  · intro bs hbs r' hbs'
    have hread := (read_iff_encode account bs r).2 ⟨bs, hbs, List.prefix_rfl⟩
    have hread' := (read_iff_encode account bs r').2 ⟨bs, hbs', List.prefix_rfl⟩
    rw [hread] at hread'
    exact (Except.ok.inj hread').symm
  · constructor
    · rintro ⟨fault, hfault⟩ r' bs hbs hprefix
      have hread := (read_iff_encode account data r').2 ⟨bs, hbs, hprefix⟩
      rw [hfault] at hread
      cases hread
    · intro hnone
      refine exists_error_of_read fun r' hread => ?_
      obtain ⟨bs, hbs, hprefix⟩ := (read_iff_encode account data r').1 hread
      exact hnone r' bs hbs hprefix

end Record

end MintDrop
