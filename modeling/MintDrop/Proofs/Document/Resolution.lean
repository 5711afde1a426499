import MintDrop.Proofs.Document.Bounds
import MintDrop.Proofs.Text.Base58

/-!
# Checking and resolving agree

A document is checked without the ledger and resolved with it.  Whatever a checked document says can be read again when
it is resolved (`Checked`), so that only the payment accounts, the dates and the amount of its end are left to fail
(`Decides`).  On a ledger whose accounts can be looked up (`View`), a document is resolved just if it is checked and
these are as they should be, and the deployment is the one that it describes (`resolve_agrees`).
-/

namespace MintDrop

open Script

/-! ### Ledgers that can be asked -/

/-- Answers to a program with which every account can be looked up. -/
structure View where
  answer : (c : Call) → c.Reply
  /-- The data of the accounts that exist. -/
  accounts : Address → Option Bytes
  answer_account : ∀ a, answer (.account a) = .ok (accounts a)

namespace View

variable {ε α β : Type} {v : View}

/-- The result of a program with the answers of a view. -/
def run (v : View) (s : ExceptT ε Script α) : Except ε α := Script.run (m := Id) v.answer s.run

theorem run_pure (a : α) : v.run (pure a : ExceptT ε Script α) = .ok a := rfl

theorem run_bind (s : ExceptT ε Script α) (f : α → ExceptT ε Script β) :
    v.run (s >>= f) = v.run s >>= fun a => v.run (f a) := by
  simp only [run, ExceptT.run_bind, Script.run_bind (m := Id)]
  cases h : Script.run (m := Id) v.answer s.run with
  | ok a => rfl
  | error e => rfl

theorem run_check (result : Except ε α) : v.run (check result id) = result := by
  cases result <;> rfl

theorem run_account (a : Address) (wrap : LedgerError → ε) :
    v.run (orElse (Script.account a) wrap) = .ok (v.accounts a) := by
  have hreply : v.run (Script.account a) = .ok (v.accounts a) := v.answer_account a
  simp only [run, orElse, ExceptT.run_mk, Script.run_bind (m := Id)] at hreply ⊢
  rw [hreply]
  rfl

/-- A ledger on which just these accounts exist, and which grants everything else. -/
def ofAccounts (accounts : Address → Option Bytes) : View where
  answer
    | .account a => .ok (accounts a)
    | .rent _ => .ok 0
    | .owned _ _ => .ok []
    | .submit _ => .ok []
    | .load _ => .ok none
    | .save _ _ => .ok ()
    | .turn others => ⟨0, others.succ_pos⟩
  accounts
  answer_account _ := rfl

end View

/-! ### Numbers in decimal -/

namespace Natural

theorem ofText?_plus (digits : List Char) : ofText? ('+' :: digits) =
    if digits ≠ [] ∧ digits.all Char.isDigit then some (ofDigits digits) else none := rfl

theorem ofText?_of_no_plus {cs : List Char} (h : ∀ digits, cs ≠ '+' :: digits) :
    ofText? cs = if cs ≠ [] ∧ cs.all Char.isDigit then some (ofDigits cs) else none := by
  rw [ofText?]
  exact h

theorem ofText?_eq_some_iff {cs : List Char} {n : Nat} : ofText? cs = some n ↔
    ∃ digits, (cs = digits ∨ cs = '+' :: digits) ∧ digits ≠ [] ∧ (∀ c ∈ digits, c.isDigit) ∧
      ofDigits digits = n := by
  constructor
  · intro h
    by_cases hplus : ∃ digits, cs = '+' :: digits
    · obtain ⟨digits, rfl⟩ := hplus
      rw [ofText?_plus] at h
      split_ifs at h with hdigits
      exact ⟨digits, Or.inr rfl, hdigits.1, List.all_eq_true.1 hdigits.2, Option.some.inj h⟩
    · rw [ofText?_of_no_plus (not_exists.1 hplus)] at h
      split_ifs at h with hdigits
      exact ⟨cs, Or.inl rfl, hdigits.1, List.all_eq_true.1 hdigits.2, Option.some.inj h⟩
  · rintro ⟨digits, rfl | rfl, hne, hdigits, rfl⟩
    · rw [ofText?_of_no_plus, if_pos ⟨hne, List.all_eq_true.2 hdigits⟩]
      -- a plus sign is no digit
      rintro rest rfl
      exact absurd (hdigits '+' List.mem_cons_self) (by decide)
    · rw [ofText?_plus, if_pos ⟨hne, List.all_eq_true.2 hdigits⟩]

end Natural

namespace Document

variable {v : View} {now : ℤ} {doc : Document} {payer mint account : Address} {decimals : UInt8}

/-! ### What the checks leave to be read -/

theorem ofAddress_eq_nil {field text : String} :
    Problem.ofAddress field text = [] ↔ ∃ a, Address.parse? text = some a := by
  rw [Problem.ofAddress, Problem.when_eq_nil, Option.isNone_eq_false_iff, Option.isSome_iff_exists]

/-- What the checks of a document have found out, besides lengths. -/
structure Checked (doc : Document) : Prop where
  creators : ∀ c ∈ doc.creators, ∃ a, Address.parse? c.address = some a
  splToken : ∀ text ∈ doc.splToken, ∃ a, Address.parse? text = some a
  splTokenAccount : ∀ text ∈ doc.splTokenAccount, ∃ a, Address.parse? text = some a
  solTreasuryAccount : ∀ text ∈ doc.solTreasuryAccount, ∃ a, Address.parse? text = some a
  gatekeeper : ∀ g ∈ doc.gatekeeper, ∃ a, Address.parse? g.network = some a
  whitelist : ∀ w ∈ doc.whitelist, (∃ a, Address.parse? w.mint = some a) ∧ w.burnEveryTime ≠ w.neverBurn
  endSettings : ∀ e ∈ doc.endSettings, e.date ≠ e.amount
  hidden : ∀ h ∈ doc.hidden, Utf8.size h.hash = 32

theorem parse_of_creatorProblems (h : doc.creatorProblems = []) {c : Document.Creator} (hc : c ∈ doc.creators) :
    ∃ a, Address.parse? c.address = some a := by
  simp only [creatorProblems, List.append_eq_nil_iff, List.flatMap_eq_nil_iff] at h
  obtain ⟨i, hi⟩ := List.mem_iff_getElem?.1 hc
  exact ofAddress_eq_nil.1 (h.1.2 (c, i) (List.mk_mem_zipIdx_iff_getElem?.2 hi))

theorem parse_of_paymentProblems (h : doc.paymentProblems = []) (field : String) {text : String}
    (hfield : (field, some text) ∈ [("splToken", doc.splToken), ("splTokenAccount", doc.splTokenAccount),
      ("solTreasuryAccount", doc.solTreasuryAccount)]) : ∃ a, Address.parse? text = some a := by
  simp only [paymentProblems, List.append_eq_nil_iff, List.flatMap_eq_nil_iff] at h
  have hnil := h.2 (field, some text) hfield
  simp only [Option.map_some, Option.getD_some] at hnil
  exact ofAddress_eq_nil.1 hnil

theorem checked_of_problems (h : doc.problems = []) : Checked doc := by
  simp only [problems, List.append_eq_nil_iff] at h
  obtain ⟨⟨⟨⟨⟨⟨⟨⟨-, hcreators⟩, hpayment⟩, hgatekeeper⟩, hwhitelist⟩, hend⟩, hhidden⟩, -⟩, -⟩ := h
  refine ⟨fun c hc => parse_of_creatorProblems hcreators hc, fun text ht => ?_, fun text ht => ?_, fun text ht => ?_,
    fun g hg => ?_, fun w hw => ?_, fun e he => ?_, fun x hx => ?_⟩
  · exact parse_of_paymentProblems hpayment "splToken" (by simp [Option.mem_def.1 ht])
  · exact parse_of_paymentProblems hpayment "splTokenAccount" (by simp [Option.mem_def.1 ht])
  · exact parse_of_paymentProblems hpayment "solTreasuryAccount" (by simp [Option.mem_def.1 ht])
  · rw [gatekeeperProblems, Option.mem_def.1 hg] at hgatekeeper
    exact ofAddress_eq_nil.1 hgatekeeper
  · rw [whitelistProblems, Option.mem_def.1 hw] at hwhitelist
    simp only [List.append_eq_nil_iff, Problem.when_eq_nil, decide_eq_false_iff_not] at hwhitelist
    exact ⟨ofAddress_eq_nil.1 hwhitelist.1.1, hwhitelist.1.2⟩
  · rw [endProblems, Option.mem_def.1 he] at hend
    simpa only [Problem.when_eq_nil, decide_eq_false_iff_not] using hend
  · rw [hiddenProblems, Option.mem_def.1 hx] at hhidden
    simp only [List.append_eq_nil_iff, Problem.when_eq_nil, decide_eq_false_iff_not, not_not] at hhidden
    exact hhidden.2.2

/-! ### Parts that do not fail -/

theorem readAddress_of_parse {text : String} {a : Address} (h : Address.parse? text = some a) :
    readAddress text = .ok a := by
  rw [readAddress, Address.parse, h]
  rfl

theorem parse_of_readAddress {text : String} {a : Address} (h : readAddress text = .ok a) :
    Address.parse? text = some a := by
  rw [readAddress, Address.parse] at h
  cases hparse : Address.parse? text with
  | none =>
      rw [hparse] at h
      cases h
  | some b =>
      rw [hparse] at h
      exact congrArg some (Except.ok.inj h)

theorem exists_hiddenItems (h : Checked doc) : ∃ hidden, doc.hiddenItems = .ok hidden := by
  rw [hiddenItems]
  cases hx : doc.hidden with
  | none => exact ⟨_, rfl⟩
  | some x => exact ⟨_, dif_pos ((Utf8.length_encode x.hash).trans (h.hidden x hx))⟩

theorem exists_whitelistRights (h : Checked doc) (decimals : UInt8) :
    ∃ whitelist, doc.whitelistRights decimals = .ok whitelist := by
  rw [whitelistRights]
  cases hw : doc.whitelist with
  | none => exact ⟨_, rfl⟩
  | some w =>
      obtain ⟨⟨mint, hmint⟩, -⟩ := h.whitelist w hw
      dsimp only
      rw [readAddress_of_parse hmint]
      exact ⟨_, rfl⟩

theorem exists_gatekeeperRule (h : Checked doc) : ∃ gatekeeper, doc.gatekeeperRule = .ok gatekeeper := by
  rw [gatekeeperRule]
  cases hg : doc.gatekeeper with
  | none => exact ⟨_, rfl⟩
  | some g =>
      obtain ⟨network, hnetwork⟩ := h.gatekeeper g hg
      dsimp only
      rw [readAddress_of_parse hnetwork]
      exact ⟨_, rfl⟩

theorem exists_creatorList (h : Checked doc) : ∃ creators, doc.creatorList = .ok creators := by
  refine exists_mapM_eq_ok fun c hc => ?_
  obtain ⟨a, ha⟩ := h.creators c hc
  rw [readAddress_of_parse ha]
  exact ⟨_, rfl⟩

/-! ### Parts that may fail -/

/-- The fields that the checks leave to be read. -/
def lateFields : List String := ["splToken", "splTokenAccount", "goLiveDate", "endSettings.value"]

/-- Whether there is a result if something holds, and otherwise one problem of a field that was left to be read. -/
def Decides {α : Type} (holds : Prop) (x : Except ConfigError α) : Prop :=
  (holds ∧ ∃ a, x = .ok a) ∨ (¬ holds ∧ ∃ p, x = .error (.invalid [p]) ∧ p.field ∈ lateFields)

section

variable {α β : Type} {p q : Prop} {x : Except ConfigError α} {f : α → Except ConfigError β}

theorem decides_ok {a : α} (h : p) : Decides p (.ok a : Except ConfigError α) := Or.inl ⟨h, a, rfl⟩

theorem decides_single {field message : String} (hfield : field ∈ lateFields) (h : ¬ p) :
    Decides p (.error (single field message) : Except ConfigError α) := Or.inr ⟨h, _, rfl, hfield⟩

theorem Decides.bind (hx : Decides p x) (hf : ∀ a, Decides q (f a)) : Decides (p ∧ q) (x >>= f) := by
  rcases hx with ⟨hp, a, rfl⟩ | ⟨hp, problem, rfl, hfield⟩
  · rcases hf a with ⟨hq, hok⟩ | ⟨hq, herror⟩
    · exact Or.inl ⟨⟨hp, hq⟩, hok⟩
    · exact Or.inr ⟨fun h => hq h.2, herror⟩
  · exact Or.inr ⟨fun h => hp h.1, problem, rfl, hfield⟩

/-- A step that does not fail decides nothing. -/
theorem Decides.bind_ok (hx : Decides p x) (hf : ∀ a, ∃ b, f a = .ok b) : Decides p (x >>= f) := by
  rcases hx with ⟨hp, a, rfl⟩ | ⟨hp, problem, rfl, hfield⟩
  · exact Or.inl ⟨hp, hf a⟩
  · exact Or.inr ⟨hp, problem, rfl, hfield⟩

theorem Decides.congr (hx : Decides p x) (h : p ↔ q) : Decides q x := by
  rwa [propext h] at hx

theorem Decides.exists_ok_iff (hx : Decides p x) : (∃ a, x = .ok a) ↔ p := by
  rcases hx with ⟨hp, hok⟩ | ⟨hp, problem, rfl, -⟩
  · exact iff_of_true hok hp
  · exact iff_of_false (by rintro ⟨a, ha⟩; cases ha) hp

theorem Decides.exists_of_error (hx : Decides p x) {e : ConfigError} (he : x = .error e) :
    ∃ problem, e = .invalid [problem] ∧ problem.field ∈ lateFields := by
  rcases hx with ⟨-, a, rfl⟩ | ⟨-, problem, rfl, hfield⟩
  · cases he
  · exact ⟨problem, (Except.error.inj he).symm, hfield⟩

end

/-! ### Payment -/

/-- The account that a text names, or another one if there is no text. -/
def receiver? (text : Option String) (other : Address) : Option Address :=
  match text with
  | some text => Address.parse? text
  | none => some other

/-- The account that is to receive the tokens of a mint. -/
def tokenReceiver? (doc : Document) (payer mint : Address) : Option Address :=
  receiver? doc.splTokenAccount ((Derivation.standard Address.recordProgram).holderAccount payer mint)

/-- The account that is to receive the lamports. -/
def coinReceiver? (doc : Document) (payer : Address) : Option Address := receiver? doc.solTreasuryAccount payer

theorem exists_receiver {text : Option String} (h : ∀ t ∈ text, ∃ a, Address.parse? t = some a) (other : Address) :
    ∃ account, receiver? text other = some account := by
  cases text with
  | none => exact ⟨other, rfl⟩
  | some text => exact h text rfl

/-- Whether two accounts are an initialized mint and an initialized token account for it. -/
def Payable (v : View) (mint account : Address) : Prop :=
  (∃ data, v.accounts mint = some data ∧ (Token.decimals? data).isSome) ∧
    ∃ data, v.accounts account = some data ∧ Token.accountMint? data = some mint

theorem decides_checkPayment : Decides (Payable v mint account) (v.run (checkPayment mint account)) := by
  rw [checkPayment, View.run_bind, View.run_account]
  change Decides _ (v.run _)
  cases hmint : v.accounts mint with
  | none => exact decides_single (by simp [lateFields]) (by simp [Payable, hmint])
  | some data =>
      cases hdecimals : Token.decimals? data with
      | none =>
          simp only [hdecimals]
          exact decides_single (by simp [lateFields]) (by simp [Payable, hmint, hdecimals])
      | some decimals =>
          simp only [hdecimals, View.run_bind, View.run_account]
          change Decides _ (v.run _)
          cases haccount : v.accounts account with
          | none => exact decides_single (by simp [lateFields]) (by simp [Payable, haccount])
          | some accountData =>
              cases howner : Token.accountMint? accountData with
              | none =>
                  simp only [howner]
                  exact decides_single (by simp [lateFields]) (by simp [Payable, haccount, howner])
              | some accountMint =>
                  simp only [howner]
                  by_cases hsame : accountMint = mint
                  · simp only [hsame, ne_eq, not_true_eq_false, if_false]
                    exact decides_ok ⟨⟨data, hmint, by simp [hdecimals]⟩, accountData, haccount, hsame ▸ howner⟩
                  · simp only [hsame, ne_eq, not_false_eq_true, if_true]
                    exact decides_single (by simp [lateFields]) (by simp [Payable, haccount, howner, hsame])

theorem run_payment_token {token : String} (htoken : doc.splToken = some token)
    (hmint : Address.parse? token = some mint) (haccount : doc.tokenReceiver? payer mint = some account) :
    v.run (doc.payment payer) =
      v.run (checkPayment mint account) >>= fun decimals => .ok ⟨account, some mint, decimals⟩ := by
  cases hsome : doc.splTokenAccount with
  | none =>
      rw [tokenReceiver?, hsome] at haccount
      obtain rfl := Option.some.inj haccount
      simp only [payment, htoken, hsome, View.run_bind, View.run_check, View.run_pure, readAddress_of_parse hmint]
      rfl
  | some text =>
      rw [tokenReceiver?, hsome] at haccount
      simp only [payment, htoken, hsome, View.run_bind, View.run_check, View.run_pure, readAddress_of_parse hmint,
        readAddress_of_parse haccount]
      rfl

theorem run_payment_coin (htoken : doc.splToken = none) (haccount : doc.coinReceiver? payer = some account) :
    v.run (doc.payment payer) = .ok ⟨account, none, nativeDecimals⟩ := by
  cases hsome : doc.solTreasuryAccount with
  | none =>
      rw [coinReceiver?, hsome] at haccount
      obtain rfl := Option.some.inj haccount
      simp only [payment, htoken, hsome, View.run_bind, View.run_pure]
      rfl
  | some text =>
      rw [coinReceiver?, hsome] at haccount
      simp only [payment, htoken, hsome, View.run_bind, View.run_check, View.run_pure, readAddress_of_parse haccount]
      rfl

/-- Whether the accounts of a payment in tokens, if it is one, are as they should be. -/
def PaymentReady (v : View) (payer : Address) (doc : Document) : Prop :=
  ∀ token ∈ doc.splToken, ∃ mint account, Address.parse? token = some mint ∧
    doc.tokenReceiver? payer mint = some account ∧ Payable v mint account

theorem decides_payment (h : Checked doc) : Decides (PaymentReady v payer doc) (v.run (doc.payment payer)) := by
  cases htoken : doc.splToken with
  | none =>
      obtain ⟨account, haccount⟩ := exists_receiver h.solTreasuryAccount payer
      rw [run_payment_coin htoken haccount]
      exact decides_ok (by simp [PaymentReady, htoken])
  | some token =>
      obtain ⟨mint, hmint⟩ := h.splToken token htoken
      obtain ⟨account, haccount⟩ := exists_receiver h.splTokenAccount _
      rw [run_payment_token htoken hmint haccount]
      refine (decides_checkPayment.bind_ok fun decimals => ⟨_, rfl⟩).congr ?_
      simp [PaymentReady, htoken, hmint, tokenReceiver?, haccount]

/-! ### Dates and amounts -/

/-- Whether the go-live date, if there is one, can be read. -/
def GoLiveReady (now : ℤ) (doc : Document) : Prop :=
  ∀ text ∈ doc.goLiveDate, (Calendar.parseSeconds? now text).isSome

theorem decides_goLive : Decides (GoLiveReady now doc) (doc.goLive now) := by
  rw [goLive, GoLiveReady]
  cases htext : doc.goLiveDate with
  | none => exact decides_ok (by simp)
  | some text =>
      cases hseconds : Calendar.parseSeconds? now text with
      | none =>
          simp only [hseconds]
          exact decides_single (by simp [lateFields]) (by simp [hseconds])
      | some seconds =>
          simp only [hseconds]
          exact decides_ok (by simp [hseconds])

/-- Whether characters are the digits of a number of 64 bits, with an optional plus sign. -/
def SpellsAmount (cs : List Char) : Prop :=
  ∃ digits, (cs = digits ∨ cs = '+' :: digits) ∧ digits ≠ [] ∧ (∀ c ∈ digits, c.isDigit) ∧
    Natural.ofDigits digits < 2 ^ 64

/-- Whether a value is a number of 64 bits or a text of one, blanks at its ends aside. -/
def IsAmount : Json.Scalar → Prop
  | .whole n => 0 ≤ n ∧ n.toNat < 2 ^ 64
  | .text s => SpellsAmount (Text.trimChars s.toList)
  | .other => False

theorem isSome_amount?_iff {cs : List Char} : (amount? cs).isSome ↔ SpellsAmount cs := by
  rw [amount?, SpellsAmount]
  constructor
  · intro h
    obtain ⟨m, hm⟩ := Option.isSome_iff_exists.1 h
    obtain ⟨n, hn, hbound⟩ := Option.bind_eq_some_iff.1 hm
    split_ifs at hbound with hsize
    obtain ⟨digits, hcs, hne, hdigits, rfl⟩ := Natural.ofText?_eq_some_iff.1 hn
    exact ⟨digits, hcs, hne, hdigits, hsize⟩
  · rintro ⟨digits, hcs, hne, hdigits, hsize⟩
    rw [Natural.ofText?_eq_some_iff.2 ⟨digits, hcs, hne, hdigits, rfl⟩, Option.bind_some, if_pos (by exact hsize)]
    rfl

theorem parseSeconds?_empty (now : ℤ) : Calendar.parseSeconds? now "" = none := rfl

/-- Whether the end of a drop can be read. -/
def EndSettings.Readable (now : ℤ) (e : EndSettings) : Prop :=
  (e.date ∧ ∃ text, e.value = .text text ∧ (Calendar.parseSeconds? now text).isSome) ∨ (e.amount ∧ IsAmount e.value)

/-- Whether the end of a document, if it has one, can be read. -/
def EndReady (now : ℤ) (doc : Document) : Prop := ∀ e ∈ doc.endSettings, e.Readable now

theorem decides_endDate {value : Json.Scalar} (hend : doc.endSettings = some ⟨true, false, value⟩) :
    Decides (EndSettings.Readable now ⟨true, false, value⟩) (doc.endRule now) := by
  simp only [endRule, hend, if_true]
  cases value with
  | text s =>
      cases hseconds : Calendar.parseSeconds? now s with
      | none => exact decides_single (by simp [lateFields]) (by simp [EndSettings.Readable, hseconds])
      | some seconds => exact decides_ok (by simp [EndSettings.Readable, hseconds])
  | whole | other =>
      simp only [parseSeconds?_empty]
      exact decides_single (by simp [lateFields]) (by simp [EndSettings.Readable])

theorem decides_endAmount {value : Json.Scalar} (hend : doc.endSettings = some ⟨false, true, value⟩) :
    Decides (EndSettings.Readable now ⟨false, true, value⟩) (doc.endRule now) := by
  simp only [endRule, hend, Bool.false_eq_true, if_false]
  cases value with
  | text s =>
      have hamount := @isSome_amount?_iff (Text.trimChars s.toList)
      cases hn : amount? (Text.trimChars s.toList) with
      | none =>
          simp only [hn]
          rw [hn] at hamount
          exact decides_single (by simp [lateFields]) (by simp [EndSettings.Readable, IsAmount, ← hamount])
      | some n =>
          simp only [hn]
          rw [hn] at hamount
          exact decides_ok (Or.inr ⟨rfl, hamount.1 rfl⟩)
  | whole n =>
      have hamount : IsAmount (.whole n) ↔ 0 ≤ n ∧ n < UInt64.size := by
        rw [IsAmount, UInt64.size]
        omega
      by_cases hn : 0 ≤ n ∧ n < UInt64.size
      · simp only [if_pos hn]
        exact decides_ok (Or.inr ⟨rfl, hamount.2 hn⟩)
      · simp only [if_neg hn]
        refine decides_single (by simp [lateFields]) ?_
        rintro (⟨hdate, -⟩ | ⟨-, hvalue⟩)
        · cases hdate
        · exact hn (hamount.1 hvalue)
  | other => exact decides_single (by simp [lateFields]) (by simp [EndSettings.Readable, IsAmount])

theorem decides_endRule (h : Checked doc) : Decides (EndReady now doc) (doc.endRule now) := by
  cases hend : doc.endSettings with
  | none =>
      simp only [endRule, hend]
      exact decides_ok (by simp [EndReady, hend])
  | some e =>
      have hkind := h.endSettings e hend
      obtain ⟨date, amount, value⟩ := e
      have hreadable : Decides (EndSettings.Readable now ⟨date, amount, value⟩) (doc.endRule now) := by
        cases date with
        | true =>
            obtain rfl : amount = false := by simpa using hkind.symm
            exact decides_endDate hend
        | false =>
            obtain rfl : amount = true := by simpa using hkind.symm
            exact decides_endAmount hend
      exact hreadable.congr (by simp [EndReady, hend])

/-! ### Documents -/

/-- Whether all that the checks leave to be read is as it should be. -/
structure Resolvable (v : View) (now : ℤ) (doc : Document) (payer : Address) : Prop where
  payment : PaymentReady v payer doc
  goLiveDate : GoLiveReady now doc
  endSettings : EndReady now doc

theorem decides_terms (h : Checked doc) :
    Decides (GoLiveReady now doc ∧ EndReady now doc) (doc.terms now decimals) := by
  obtain ⟨hidden, hhidden⟩ := exists_hiddenItems h
  obtain ⟨whitelist, hwhitelist⟩ := exists_whitelistRights h decimals
  obtain ⟨gatekeeper, hgatekeeper⟩ := exists_gatekeeperRule h
  obtain ⟨creators, hcreators⟩ := exists_creatorList h
  refine decides_goLive.bind fun goLiveDate => (decides_endRule h).bind_ok fun endRule => ?_
  rw [hhidden, hwhitelist, hgatekeeper, hcreators]
  exact ⟨_, rfl⟩

theorem run_resolve : v.run (resolve now doc payer) = doc.check >>= fun _ => v.run (doc.payment payer) >>=
    fun payment => doc.terms now payment.decimals >>= fun terms =>
      .ok { terms
            treasury := payment.treasury
            tokenMint := payment.tokenMint
            catalogue := doc.catalogue } := by
  simp only [resolve, View.run_bind, View.run_check, View.run_pure]

theorem decides_resolve (h : doc.check = .ok ()) :
    Decides (Resolvable v now doc payer) (v.run (resolve now doc payer)) := by
  have hchecked := checked_of_problems (problems_eq_nil_of_check h)
  rw [run_resolve, h]
  refine ((decides_payment hchecked).bind fun payment =>
    (decides_terms hchecked).bind_ok fun terms => ⟨_, rfl⟩).congr ⟨?_, ?_⟩
  · exact fun ⟨hpayment, hdate, hend⟩ => ⟨hpayment, hdate, hend⟩
  · exact fun ⟨hpayment, hdate, hend⟩ => ⟨hpayment, hdate, hend⟩

/-- Whether a creator is the one that is written. -/
def Creator.Denotes (c : Document.Creator) (x : MintDrop.Creator) : Prop :=
  Address.parse? c.address = some x.address ∧ x.verified = c.verified ∧ x.share = c.share

/-- Whether a whitelist has the mode that is written, and that one only. -/
def Whitelist.SameMode (w : Document.Whitelist) (x : MintDrop.Whitelist) : Prop :=
  (x.mode = .burnEveryTime ↔ w.burnEveryTime) ∧ (x.mode = .neverBurn ↔ w.neverBurn)

/-- Whether an end is of the kind that is written, and of that one only. -/
def EndSettings.SameKind (e : EndSettings) (x : EndRule) : Prop :=
  (x.kind = .date ↔ e.date) ∧ (x.kind = .amount ↔ e.amount)

/-- Whether a deployment is the one that a document describes for a payer. -/
structure Depicts (doc : Document) (payer : Address) (d : Deployment) : Prop where
  token : ∀ token ∈ doc.splToken, ∃ mint, Address.parse? token = some mint ∧ d.tokenMint = some mint ∧
    doc.tokenReceiver? payer mint = some d.treasury
  coin : doc.splToken = none → d.tokenMint = none ∧ doc.coinReceiver? payer = some d.treasury
  itemCount_eq : d.itemCount = doc.number
  creators : List.Forall₂ Creator.Denotes doc.creators d.terms.creators
  whitelist : Option.Rel Whitelist.SameMode doc.whitelist d.terms.whitelist
  endRule : Option.Rel EndSettings.SameKind doc.endSettings d.terms.endRule

theorem forall₂_creators {creators : List MintDrop.Creator} (h : doc.creatorList = .ok creators) :
    List.Forall₂ Creator.Denotes doc.creators creators := by
  refine (forall₂_of_mapM_eq_ok h).imp fun c x hx => ?_
  obtain ⟨a, ha, hx⟩ := exists_of_bind_eq_ok hx
  obtain rfl := Except.ok.inj hx
  exact ⟨parse_of_readAddress ha, rfl, rfl⟩

theorem rel_whitelist (hchecked : Checked doc) {whitelist : Option MintDrop.Whitelist}
    (h : doc.whitelistRights decimals = .ok whitelist) : Option.Rel Whitelist.SameMode doc.whitelist whitelist := by
  rw [whitelistRights] at h
  cases hw : doc.whitelist with
  | none =>
      rw [hw] at h
      obtain rfl := Except.ok.inj h
      exact .none
  | some w =>
      rw [hw] at h
      obtain ⟨mint, -, h⟩ := exists_of_bind_eq_ok h
      obtain rfl := Except.ok.inj h
      have hmode := (hchecked.whitelist w hw).2
      refine .some ?_
      cases hburn : w.burnEveryTime <;> cases hnever : w.neverBurn <;> simp_all [Whitelist.SameMode]

theorem rel_endRule (hchecked : Checked doc) {rule : Option EndRule} (h : doc.endRule now = .ok rule) :
    Option.Rel EndSettings.SameKind doc.endSettings rule := by
  rw [endRule] at h
  cases hend : doc.endSettings with
  | none =>
      rw [hend] at h
      obtain rfl := Except.ok.inj h
      exact .none
  | some e =>
      rw [hend] at h
      have hkind := hchecked.endSettings e hend
      cases hdate : e.date with
      | true =>
          simp only [hdate, if_true] at h
          split at h
          · obtain rfl := Except.ok.inj h
            exact .some (by simp_all [EndSettings.SameKind])
          · cases h
      | false =>
          simp only [hdate, Bool.false_eq_true, if_false] at h
          split at h
          · obtain rfl := Except.ok.inj h
            exact .some (by simp_all [EndSettings.SameKind])
          · cases h

theorem depicts_of_resolve {d : Deployment} (h : v.run (resolve now doc payer) = .ok d) : Depicts doc payer d := by
  rw [run_resolve] at h
  obtain ⟨⟨⟩, hcheck, h⟩ := exists_of_bind_eq_ok h
  obtain ⟨payment, hpayment, h⟩ := exists_of_bind_eq_ok h
  obtain ⟨terms, hterms, h⟩ := exists_of_bind_eq_ok h
  obtain rfl := Except.ok.inj h
  have hchecked := checked_of_problems (problems_eq_nil_of_check hcheck)
  obtain ⟨-, -, hcreators, -, hwhitelist, hend, hcount, -⟩ := terms_eq_ok hterms
  refine ⟨fun token htoken => ?_, fun htoken => ?_, hcount, forall₂_creators hcreators,
    rel_whitelist hchecked hwhitelist, rel_endRule hchecked hend⟩
  · obtain ⟨mint, hmint⟩ := hchecked.splToken token htoken
    obtain ⟨account, haccount⟩ := exists_receiver hchecked.splTokenAccount _
    rw [run_payment_token htoken hmint haccount] at hpayment
    obtain ⟨decimals, -, hpayment⟩ := exists_of_bind_eq_ok hpayment
    obtain rfl := Except.ok.inj hpayment
    exact ⟨mint, hmint, rfl, haccount⟩
  · obtain ⟨account, haccount⟩ := exists_receiver hchecked.solTreasuryAccount payer
    rw [run_payment_coin htoken haccount] at hpayment
    obtain rfl := Except.ok.inj hpayment
    exact ⟨rfl, haccount⟩

/-- On a ledger whose accounts can be looked up, a document is resolved just if it passes its checks and its payment
accounts, its dates and the amount of its end are as they should be; the deployment is then the one that it describes.
A document with problems is refused for them.  Of a document without problems, no address and no hash is refused: it
fails with one problem, of a field that the checks leave to be read. -/
theorem resolve_agrees (v : View) (now : ℤ) (doc : Document) (payer : Address) :
    ((∃ d, v.run (resolve now doc payer) = .ok d) ↔ doc.check = .ok () ∧ Resolvable v now doc payer) ∧
      (∀ e, doc.check = .error e → v.run (resolve now doc payer) = .error e) ∧
      (doc.check = .ok () → ∀ e, v.run (resolve now doc payer) = .error e → ∃ p, e = .invalid [p] ∧
        p.field ∈ ["splToken", "splTokenAccount", "goLiveDate", "endSettings.value"]) ∧
      ∀ d, v.run (resolve now doc payer) = .ok d → Depicts doc payer d := by
  have hrefused : ∀ e, doc.check = .error e → v.run (resolve now doc payer) = .error e := by
    intro e he
    rw [run_resolve, he]
    rfl
  refine ⟨⟨?_, ?_⟩, hrefused, fun hcheck e he => (decides_resolve hcheck).exists_of_error he,
    fun d hd => depicts_of_resolve hd⟩
  · rintro ⟨d, hd⟩
    cases hcheck : doc.check with
    | error e =>
        rw [hrefused e hcheck] at hd
        cases hd
    | ok u => exact ⟨rfl, (decides_resolve hcheck).exists_ok_iff.1 ⟨d, hd⟩⟩
  · rintro ⟨hcheck, hresolvable⟩
    exact (decides_resolve hcheck).exists_ok_iff.2 hresolvable

/-! ### A drop that is paid in tokens -/

/-- The mint of the tokens. -/
def paidMint : Address := ⟨List.replicate 31 0 ++ [1], rfl⟩

/-- The account that receives them. -/
def paidAccount : Address := ⟨List.replicate 31 0 ++ [2], rfl⟩

/-- A document of a drop that is paid in tokens, with creators, a burning whitelist, a date and an end. -/
def paidDrop : Document :=
  { blank with
    number := 2
    price := 1.5
    splToken := some paidMint.toText
    splTokenAccount := some paidAccount.toText
    creators := [⟨paidMint.toText, true, 60⟩, ⟨paidAccount.toText, false, 40⟩]
    whitelist := some ⟨true, false, Address.zero.toText, false, some 0.5⟩
    endSettings := some ⟨false, true, .text " +10 "⟩
    goLiveDate := some "2022-01-01T00:00:00Z" }

/-- The data of an initialized mint of six decimals. -/
def paidMintData : Bytes := List.replicate 44 0 ++ [6, 1] ++ List.replicate 36 0

/-- The data of an initialized account of its tokens. -/
def paidAccountData : Bytes := paidMint.bytes ++ List.replicate 76 0 ++ [1] ++ List.replicate 56 0

/-- A ledger on which these two accounts exist. -/
def paidView : View :=
  .ofAccounts fun a =>
    if a = paidMint then some paidMintData else if a = paidAccount then some paidAccountData else none

theorem check_paidDrop : paidDrop.check = .ok () := by
  have hproblems : paidDrop.problems.isEmpty = true := by decide +kernel
  rw [check, if_pos hproblems]

theorem payable_paidView : Payable paidView paidMint paidAccount :=
  ⟨⟨paidMintData, rfl, by decide +kernel⟩, paidAccountData, rfl, by decide +kernel⟩

theorem tokenReceiver?_paidDrop : paidDrop.tokenReceiver? .zero paidMint = some paidAccount :=
  Address.parse?_toText paidAccount

theorem resolvable_paidDrop : Resolvable paidView 0 paidDrop .zero where
  payment := by
    intro token htoken
    obtain rfl := Option.some.inj htoken
    exact ⟨paidMint, paidAccount, Address.parse?_toText paidMint, tokenReceiver?_paidDrop, payable_paidView⟩
  goLiveDate := by
    intro text htext
    obtain rfl := Option.some.inj htext
    decide +kernel
  endSettings := by
    intro e he
    obtain rfl := Option.some.inj he
    exact Or.inr ⟨rfl, ['1', '0'], Or.inr rfl, by decide, List.all_eq_true.1 rfl, by decide⟩

/-- The document is resolved with its accounts on the ledger, and its token is refused without them. -/
theorem resolve_agrees_paidDrop :
    (∃ d, paidView.run (resolve 0 paidDrop .zero) = .ok d ∧ Depicts paidDrop .zero d ∧
      d.tokenMint = some paidMint ∧ d.treasury = paidAccount ∧ d.itemCount = 2) ∧
    ∃ p, (View.ofAccounts fun _ => none).run (resolve 0 paidDrop .zero) = .error (.invalid [p]) ∧
      p.field ∈ ["splToken", "splTokenAccount", "goLiveDate", "endSettings.value"] := by
  constructor
  · obtain ⟨hiff, -, -, hdepicts⟩ := resolve_agrees paidView 0 paidDrop .zero
    obtain ⟨d, hd⟩ := hiff.2 ⟨check_paidDrop, resolvable_paidDrop⟩
    have hdepicted := hdepicts d hd
    obtain ⟨mint, hmint, htoken, haccount⟩ := hdepicted.token paidMint.toText rfl
    obtain rfl := Option.some.inj ((Address.parse?_toText paidMint).symm.trans hmint)
    have htreasury := Option.some.inj (tokenReceiver?_paidDrop.symm.trans haccount)
    exact ⟨d, hd, hdepicted, htoken, htreasury.symm, hdepicted.itemCount_eq⟩
  · obtain ⟨hiff, -, hlate, -⟩ := resolve_agrees (.ofAccounts fun _ => none) 0 paidDrop .zero
    cases hrun : (View.ofAccounts fun _ => none).run (resolve 0 paidDrop .zero) with
    | ok d =>
        obtain ⟨_, _, -, -, ⟨_, habsent, -⟩, -⟩ := (hiff.1 ⟨d, hrun⟩).2.payment paidMint.toText rfl
        cases habsent
    | error e =>
        obtain ⟨p, rfl, hfield⟩ := hlate check_paidDrop e hrun
        exact ⟨p, rfl, hfield⟩

end Document

end MintDrop
