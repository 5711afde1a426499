import MintDrop.Mint.Run
import MintDrop.Proofs.Mint.Arrangement
import MintDrop.Proofs.Trace

/-!
# Mints, all or nothing

A mint asks the ledger for what its plan is made from (`Gathers`).  Unless something is in its way (`Obstacle`) it
submits the instructions of the plan in one transaction (`Placed`) and hands on the reply; there is never a second
one (`run_all_or_nothing`).
-/

namespace MintDrop.Mint

open Script

/-! ### What is asked before -/

section

variable (programs : Derivation) (record buyer : Address) (keys : ℕ → Keypair)

/-- Whether exchanges find out if the buyer has a token account for the whitelist of a record, with the answer. -/
inductive Checks (s : Settings) : List Exchange → Bool → Prop
  | unlisted : s.whitelist = none → Checks s [] false
  | listed {w : Whitelist} {found : Option Bytes} : s.whitelist = some w →
      Checks s [⟨.account (programs.holderAccount buyer w.mint), .ok found⟩] found.isSome

/-- Whether exchanges find out what a plan is made from, with the context that this is. -/
inductive Gathers : List Exchange → Context → Prop
  | intro {data : Bytes} {r : Record} {t : List Exchange} {present : Bool} {rent : UInt64} :
      Record.read record data = .ok r → Checks programs buyer (.ofRecord record r) t present →
      Gathers (⟨.account record, .ok (some data)⟩ :: t ++ [⟨.rent Token.mintSize, .ok rent⟩])
        ⟨.ofRecord record r, buyer, present, rent⟩

/-- What is in the way of a mint: the exchanges that show it, and the error that it is. -/
inductive Obstacle : List Exchange → Error → Prop
  | lookup {e : LedgerError} : Obstacle [⟨.account record, .error e⟩] (.ledger e)
  | absent : Obstacle [⟨.account record, .ok none⟩] (.recordNotFound record)
  | undecodable {data : Bytes} {e : LedgerError} : Record.read record data = .error e →
      Obstacle [⟨.account record, .ok (some data)⟩] (.ledger e)
  | whitelist {data : Bytes} {r : Record} {w : Whitelist} {e : LedgerError} : Record.read record data = .ok r →
      r.terms.whitelist = some w →
      Obstacle [⟨.account record, .ok (some data)⟩, ⟨.account (programs.holderAccount buyer w.mint), .error e⟩]
        (.ledger e)
  | rent {data : Bytes} {r : Record} {t : List Exchange} {present : Bool} {e : LedgerError} :
      Record.read record data = .ok r → Checks programs buyer (.ofRecord record r) t present →
      Obstacle (⟨.account record, .ok (some data)⟩ :: t ++ [⟨.rent Token.mintSize, .error e⟩]) (.ledger e)
  | encoding {t : List Exchange} {c : Context} {p : Plan} {e : LedgerError} : Gathers programs record buyer t c →
      planFresh programs c keys = .ok p → p.instructions = .error e → Obstacle t (.ledger e)

end

/-! ### What is submitted -/

/-- The instructions of a mint: they create an account, make it a mint, mint the one unit into the buyer's token account
and pass the mint to the record program, between the approvals and the revocations of them. -/
inductive Mints (programs : Derivation) (c : Context) (mint : Address) (parts : Parts) : List Instruction → Prop
  | intro {initialization minting invocation : Instruction} {grants withdrawals : List Instruction} :
      Token.initializeMint programs.tokenProgram mint c.buyer = .ok initialization →
      Token.mintTo programs.tokenProgram mint (programs.holderAccount c.buyer mint) c.buyer 1 = .ok minting →
      parts.approvals.mapM (fun a => Token.approve programs.tokenProgram a.source a.delegate c.buyer a.amount) =
        .ok grants →
      Record.mintItem programs.recordProgram (mintAccounts programs c mint)
        (programs.recordAuthority c.settings.record).2 (parts.remaining programs c) = .ok invocation →
      parts.approvals.mapM (fun a => Token.revoke programs.tokenProgram a.source c.buyer) = .ok withdrawals →
      Mints programs c mint parts
        (System.createAccount c.buyer mint c.mintRent (UInt64.ofNat Token.mintSize) programs.tokenProgram ::
          initialization :: Token.createHolderAccount programs.tokenProgram c.buyer c.buyer mint :: minting ::
          (grants ++ invocation :: withdrawals))

/-- Whether the account that was asked for because of a whitelist is the one that a plan shows first to the record
program, and the one whose token a one-time key may burn just if it is there. -/
structure Shows (programs : Derivation) (c : Context) (parts : Parts) (w : Whitelist) (account : Address)
    (found : Option Bytes) : Prop where
  present_eq : c.whitelistAccountExists = found.isSome
  head?_remaining : (parts.remaining programs c).head? = some (.writable account)
  isSome_burn : parts.burn.isSome ↔ w.mode = .burnEveryTime ∧ found.isSome
  source_eq : ∀ a ∈ parts.burn, a.source = account

/-- Whether a mint submits the plan of what it has gathered, with the reply to its transaction. -/
structure Placed (programs : Derivation) (record : Address) (buyer : Keypair) (keys : ℕ → Keypair)
    (t : List Exchange) (c : Context) (p : Plan) (parts : Parts) (tx : Transaction)
    (reply : Except LedgerError Signature) : Prop where
  trace_eq : ∃ gathered, Gathers programs record buyer.address gathered c ∧ t = gathered ++ [⟨.submit tx, reply⟩]
  submitted_eq : t.filterMap Exchange.submitted? = [tx]
  plan_eq : planFresh programs c keys = .ok p
  payer_eq : tx.payer = buyer.address
  signers_eq : tx.signers = p.signers buyer
  instructions_eq : p.instructions = .ok tx.instructions
  fit : parts.Fit programs c
  mints : Mints programs c p.mint.address parts tx.instructions
  shows : ∀ w, c.settings.whitelist = some w → ∃ account found,
    t[1]? = some ⟨.account account, .ok found⟩ ∧ Shows programs c parts w account found

section

variable {programs : Derivation} {record : Address} {buyer : Keypair} {keys : ℕ → Keypair} {c : Context}
  {t : List Exchange} {r : Except Error Receipt}

/-! ### Exchanges without a submission -/

theorem Checks.submitted_eq_nil {a : Address} {s : Settings} {present : Bool} (h : Checks programs a s t present) :
    t.filterMap Exchange.submitted? = [] := by
  cases h with
  | unlisted => rfl
  | listed => rfl

theorem Gathers.submitted_eq_nil {a : Address} (h : Gathers programs record a t c) :
    t.filterMap Exchange.submitted? = [] := by
  cases h with
  | intro _ hcheck =>
      rw [List.filterMap_append, List.filterMap_cons, hcheck.submitted_eq_nil]
      rfl

theorem Obstacle.submitted_eq_nil {a : Address} {e : Error} (h : Obstacle programs record a keys t e) :
    t.filterMap Exchange.submitted? = [] := by
  cases h with
  | lookup | absent | undecodable | whitelist => rfl
  | rent _ hcheck =>
      rw [List.filterMap_append, List.filterMap_cons, hcheck.submitted_eq_nil]
      rfl
  | encoding hgathers => exact hgathers.submitted_eq_nil

/-! ### The plan of a mint -/

theorem planFresh_eq (programs : Derivation) (c : Context) (keys : ℕ → Keypair) :
    planFresh programs c keys = .ok (planned programs (fun n => keys (n + 1)) c (keys 0)) := plan_eq _ _ _ _

theorem mints_of_instructions {mint : Keypair} {is : List Instruction}
    (h : (planned programs keys c mint).instructions = .ok is) :
    Mints programs c mint.address (partsOf programs c keys) is := by
  have hops : (planned programs keys c mint).ops =
      newTokenOps programs c mint.address ++ ((partsOf programs c keys).approvals.map (·.grant c.buyer) ++
        .invoke (mintAccounts programs c mint.address) (programs.recordAuthority c.settings.record).2
          ((partsOf programs c keys).remaining programs c) ::
            (partsOf programs c keys).approvals.map (·.withdrawal c.buyer)) := by
    rw [remaining_partsOf]
    exact List.append_assoc _ _ _
  rw [Plan.instructions, hops] at h
  obtain ⟨_, _, hnew, hrest, rfl⟩ := exists_of_mapM_append_eq_ok h
  obtain ⟨grants, _, hgrants, hinvoke, rfl⟩ := exists_of_mapM_append_eq_ok hrest
  obtain ⟨invocation, withdrawals, hinvocation, hwithdrawals, rfl⟩ := exists_of_mapM_cons_eq_ok hinvoke
  obtain ⟨_, _, hcreate, hnew₁, rfl⟩ := exists_of_mapM_cons_eq_ok hnew
  obtain ⟨_, _, hinit, hnew₂, rfl⟩ := exists_of_mapM_cons_eq_ok hnew₁
  obtain ⟨_, _, hholder, hnew₃, rfl⟩ := exists_of_mapM_cons_eq_ok hnew₂
  obtain ⟨_, _, hmint, hnil, rfl⟩ := exists_of_mapM_cons_eq_ok hnew₃
  obtain rfl := Except.ok.inj hcreate
  obtain rfl := Except.ok.inj hholder
  obtain rfl := Except.ok.inj hnil
  rw [List.mapM_map] at hgrants hwithdrawals
  exact .intro hinit hmint hgrants hinvocation hwithdrawals

/-- A plan cannot be written as instructions just if it is not for the token program. -/
theorem instructions_planned_eq_error_iff {mint : Keypair} :
    (∃ e, (planned programs keys c mint).instructions = .error e) ↔ programs.tokenProgram ≠ Address.tokenProgram := by
  constructor
  · rintro ⟨e, he⟩ htoken
    obtain ⟨is, his, -⟩ := exists_instructions (p := planned programs keys c mint) htoken
    rw [his] at he
    cases he
  · intro hforeign
    cases his : (planned programs keys c mint).instructions with
    | error e => exact ⟨e, rfl⟩
    | ok is =>
        cases mints_of_instructions his with
        | intro hinit => cases hinit.symm.trans (if_neg hforeign)

/-! ### The whitelist account -/

theorem Checks.exists_of_listed {a : Address} {s : Settings} {present : Bool} {w : Whitelist}
    (h : Checks programs a s t present) (hw : s.whitelist = some w) : ∃ found,
      t = [⟨.account (programs.holderAccount a w.mint), .ok found⟩] ∧ present = found.isSome := by
  cases h with
  | unlisted hnone => cases hnone.symm.trans hw
  | listed hsome =>
      obtain rfl := Option.some.inj (hsome.symm.trans hw)
      exact ⟨_, rfl, rfl⟩

theorem Gathers.exists_of_listed {a : Address} {w : Whitelist} (h : Gathers programs record a t c)
    (hw : c.settings.whitelist = some w) (e : Exchange) : ∃ found,
      (t ++ [e])[1]? = some ⟨.account (programs.holderAccount c.buyer w.mint), .ok found⟩ ∧
        c.whitelistAccountExists = found.isSome := by
  cases h with
  | intro _ hcheck =>
      obtain ⟨found, rfl, hpresent⟩ := hcheck.exists_of_listed hw
      exact ⟨found, rfl, hpresent⟩

theorem shows_of_fit {parts : Parts} {w : Whitelist} {found : Option Bytes} (hfit : parts.Fit programs c)
    (hw : c.settings.whitelist = some w) (hpresent : c.whitelistAccountExists = found.isSome) :
    Shows programs c parts w (programs.holderAccount c.buyer w.mint) found where
  present_eq := hpresent
  head?_remaining := by
    rw [Parts.remaining, hw]
    rfl
  isSome_burn := by
    constructor
    · intro hburn
      obtain ⟨a, ha⟩ := Option.isSome_iff_exists.1 hburn
      obtain ⟨hexists, w', _, hw', hmode, -⟩ := (hfit.burn_iff a).1 ha
      obtain rfl := Option.some.inj (hw.symm.trans hw')
      exact ⟨hmode, hpresent ▸ hexists⟩
    · rintro ⟨hmode, hfound⟩
      obtain ⟨key, hkey⟩ := Option.isSome_iff_exists.1 (hfit.burner_iff.2 ⟨w, hw, hmode⟩)
      exact Option.isSome_iff_exists.2 ⟨_, (hfit.burn_iff _).2 ⟨hpresent ▸ hfound, w, key, hw, hmode, hkey, rfl⟩⟩
  source_eq := by
    intro a ha
    obtain ⟨-, w', _, hw', -, -, rfl⟩ := (hfit.burn_iff a).1 ha
    obtain rfl := Option.some.inj (hw.symm.trans hw')
    rfl

/-! ### Runs -/

/-- The rest of a mint, once its context is known. -/
def place (programs : Derivation) (buyer : Keypair) (keys : ℕ → Keypair) (c : Context) :
    ExceptT Error Script Receipt := do
  let p ← Script.check (planFresh programs c keys) id
  let instructions ← Script.check p.instructions .ledger
  let signature ← Script.orElse (Script.submit ⟨buyer.address, p.signers buyer, instructions⟩) .ledger
  pure ⟨signature, p.mint.address⟩

/-- The rest of a mint, once it is known if the whitelist account is there. -/
def placeWith (programs : Derivation) (buyer : Keypair) (keys : ℕ → Keypair) (s : Settings) (present : Bool) :
    ExceptT Error Script Receipt := do
  let rent ← Script.orElse (Script.rent Token.mintSize) .ledger
  place programs buyer keys ⟨s, buyer.address, present, rent⟩

/-- The rest of a mint, once the record is read. -/
def placeFrom (programs : Derivation) (buyer : Keypair) (keys : ℕ → Keypair) (s : Settings) :
    ExceptT Error Script Receipt :=
  match s.whitelist with
  | none => placeWith programs buyer keys s false
  | some w => do
      let found ← Script.orElse (Script.account (programs.holderAccount buyer.address w.mint)) .ledger
      placeWith programs buyer keys s found.isSome

/-- The result of a mint whose transaction has this reply. -/
def receipt (p : Plan) (reply : Except LedgerError Signature) : Except Error Receipt :=
  (reply.map fun signature => ⟨signature, p.mint.address⟩).mapError .ledger

/-- How a mint comes to its result: something is in its way, or it submits the plan of what it has gathered. -/
inductive Ends (programs : Derivation) (record : Address) (buyer : Keypair) (keys : ℕ → Keypair) :
    List Exchange → Except Error Receipt → Prop
  | obstructed {t : List Exchange} {e : Error} : Obstacle programs record buyer.address keys t e →
      Ends programs record buyer keys t (.error e)
  | submitted {t : List Exchange} {c : Context} {p : Plan} {is : List Instruction}
      {reply : Except LedgerError Signature} : Gathers programs record buyer.address t c →
      planFresh programs c keys = .ok p → p.instructions = .ok is →
      Ends programs record buyer keys (t ++ [⟨.submit ⟨buyer.address, p.signers buyer, is⟩, reply⟩]) (receipt p reply)

theorem makes_place (h : Makes (place programs buyer keys c).run t (some r)) :
    ∃ p, planFresh programs c keys = .ok p ∧
      ((∃ e, t = [] ∧ r = .error (.ledger e) ∧ p.instructions = .error e) ∨
        ∃ is reply, p.instructions = .ok is ∧ t = [⟨.submit ⟨buyer.address, p.signers buyer, is⟩, reply⟩] ∧
          r = receipt p reply) := by
  refine ⟨_, planFresh_eq programs c keys, ?_⟩
  rcases makes_andThen h with ⟨⟨⟩, -⟩ | ⟨e, -, hplan⟩ | ⟨p, _, _, rfl, hplan, hencode⟩
  · obtain ⟨e', hfailed, -⟩ := (makes_check hplan).2.2 e rfl
    cases hfailed.symm.trans (planFresh_eq programs c keys)
  obtain ⟨rfl, hp, -⟩ := makes_check hplan
  obtain rfl := Except.ok.inj ((hp p rfl).symm.trans (planFresh_eq programs c keys))
  rcases makes_andThen hencode with ⟨⟨⟩, -⟩ | ⟨e, hr, hcheck⟩ | ⟨is, _, _, rfl, hcheck, hsubmit⟩
  · obtain ⟨rfl, -, hfailed⟩ := makes_check hcheck
    obtain ⟨e', he', rfl⟩ := hfailed e rfl
    exact Or.inl ⟨e', rfl, Option.some.inj hr, he'⟩
  obtain ⟨rfl, his, -⟩ := makes_check hcheck
  refine Or.inr ⟨is, ?_⟩
  rcases makes_andThen hsubmit with ⟨⟨⟩, -⟩ | ⟨e, hr, hrefused⟩ | ⟨signature, _, _, rfl, hconfirmed, hdone⟩
  · obtain ⟨e', rfl, hcall⟩ := makes_orElse_error hrefused
    obtain rfl := makes_ask_some (c := .submit _) rfl hcall
    exact ⟨.error e', his is rfl, rfl, Option.some.inj hr⟩
  · obtain rfl := makes_ask_some (c := .submit _) rfl (makes_orElse_ok hconfirmed)
    obtain ⟨rfl, hr | hr⟩ := makes_done hdone
    · cases hr
    · exact ⟨.ok signature, his is rfl, rfl, Option.some.inj hr⟩

theorem ends_of_placeWith {data : Bytes} {read : Record} {checked : List Exchange} {present : Bool}
    (hread : Record.read record data = .ok read)
    (hchecks : Checks programs buyer.address (.ofRecord record read) checked present)
    (h : Makes (placeWith programs buyer keys (.ofRecord record read) present).run t (some r)) :
    Ends programs record buyer keys (⟨.account record, .ok (some data)⟩ :: checked ++ t) r := by
  rcases makes_andThen h with ⟨⟨⟩, -⟩ | ⟨e, hr, hfailed⟩ | ⟨rent, _, t', rfl, hrent, hplace⟩
  · obtain ⟨e', rfl, hcall⟩ := makes_orElse_error hfailed
    obtain rfl := makes_ask_some (c := .rent _) rfl hcall
    obtain rfl := Option.some.inj hr
    exact .obstructed (.rent hread hchecks)
  obtain rfl := makes_ask_some (c := .rent _) rfl (makes_orElse_ok hrent)
  rw [← List.append_assoc]
  obtain ⟨p, hp, ⟨e, rfl, rfl, he⟩ | ⟨is, reply, his, rfl, rfl⟩⟩ := makes_place hplace
  · rw [List.append_nil]
    exact .obstructed (.encoding (.intro hread hchecks) hp he)
  · exact .submitted (.intro hread hchecks) hp his

theorem ends_of_placeFrom {data : Bytes} {read : Record} (hread : Record.read record data = .ok read)
    (h : Makes (placeFrom programs buyer keys (.ofRecord record read)).run t (some r)) :
    Ends programs record buyer keys (⟨.account record, .ok (some data)⟩ :: t) r := by
  rw [placeFrom] at h
  cases hw : (Settings.ofRecord record read).whitelist with
  | none =>
      rw [hw] at h
      exact ends_of_placeWith hread (.unlisted hw) h
  | some w =>
      rw [hw] at h
      rcases makes_andThen h with ⟨⟨⟩, -⟩ | ⟨e, hr, hfailed⟩ | ⟨found, _, t', rfl, hfound, hplace⟩
      · obtain ⟨e', rfl, hcall⟩ := makes_orElse_error hfailed
        obtain rfl := makes_ask_some (c := .account _) rfl hcall
        obtain rfl := Option.some.inj hr
        exact .obstructed (.whitelist hread hw)
      · obtain rfl := makes_ask_some (c := .account _) rfl (makes_orElse_ok hfound)
        exact ends_of_placeWith hread (.listed hw) hplace

theorem ends_of_makes (h : Makes (run programs record buyer keys).run t (some r)) :
    Ends programs record buyer keys t r := by
  rcases makes_andThen h with ⟨⟨⟩, -⟩ | ⟨e, hr, hfailed⟩ | ⟨found, _, t', rfl, hfound, hread⟩
  · obtain ⟨e', rfl, hcall⟩ := makes_orElse_error hfailed
    obtain rfl := makes_ask_some (c := .account _) rfl hcall
    obtain rfl := Option.some.inj hr
    exact .obstructed .lookup
  obtain rfl := makes_ask_some (c := .account _) rfl (makes_orElse_ok hfound)
  cases found with
  | none =>
      obtain ⟨rfl, hr | hr⟩ := makes_done hread
      · cases hr
      · obtain rfl := Option.some.inj hr
        exact .obstructed .absent
  | some data =>
      rcases makes_andThen hread with ⟨⟨⟩, -⟩ | ⟨e, hr, hcheck⟩ | ⟨read, _, _, rfl, hcheck, hplace⟩
      · obtain ⟨rfl, -, hfailed⟩ := makes_check hcheck
        obtain ⟨e', he', rfl⟩ := hfailed e rfl
        obtain rfl := Option.some.inj hr
        exact .obstructed (.undecodable he')
      · obtain ⟨rfl, hok, -⟩ := makes_check hcheck
        exact ends_of_placeFrom (hok read rfl) hplace

theorem placed_of_gathers {p : Plan} {is : List Instruction} (hgathers : Gathers programs record buyer.address t c)
    (hp : planFresh programs c keys = .ok p) (his : p.instructions = .ok is) (reply : Except LedgerError Signature) :
    Placed programs record buyer keys (t ++ [⟨.submit ⟨buyer.address, p.signers buyer, is⟩, reply⟩]) c p
      (partsOf programs c fun n => keys (n + 1)) ⟨buyer.address, p.signers buyer, is⟩ reply where
  trace_eq := ⟨t, hgathers, rfl⟩
  submitted_eq := by
    rw [List.filterMap_append, hgathers.submitted_eq_nil]
    rfl
  plan_eq := hp
  payer_eq := rfl
  signers_eq := rfl
  instructions_eq := his
  fit := fit_partsOf
  mints := by
    obtain rfl := Except.ok.inj ((planFresh_eq programs c keys).symm.trans hp)
    exact mints_of_instructions his
  shows w hw := by
    obtain ⟨found, hasked, hpresent⟩ := hgathers.exists_of_listed hw _
    exact ⟨_, found, hasked, shows_of_fit fit_partsOf hw hpresent⟩

end

/-- A mint submits one transaction or none, whatever the ledger replies.  It submits none, and fails, just if something
is in its way, which is the error then.  Else it submits its plan, and hands on the refusal or the signature with the
mint that the instructions make.  A plan cannot be written as instructions just if it is for another token program. -/
theorem run_all_or_nothing {σ : Type} (ledger : (c : Call) → StateM σ c.Reply) (state : σ) (programs : Derivation)
    (record : Address) (buyer : Keypair) (keys : ℕ → Keypair) :
    let (t, r) := transcript ledger (run programs record buyer keys).run state
    (t.filterMap Exchange.submitted?).length ≤ 1 ∧
      ((t.filterMap Exchange.submitted? = [] ∧ ∃ e, r = .error e) ↔
        ∃ e, Obstacle programs record buyer.address keys t e) ∧
      (∀ e, t.filterMap Exchange.submitted? = [] → r = .error e → Obstacle programs record buyer.address keys t e) ∧
      ((¬∃ e, Obstacle programs record buyer.address keys t e) → ∃ c p parts tx reply,
        Placed programs record buyer keys t c p parts tx reply ∧
          (∀ signature, reply = .ok signature → r = .ok ⟨signature, p.mint.address⟩) ∧
          ∀ e, reply = .error e → r = .error (.ledger e)) ∧
      ∀ c, ∃ p, planFresh programs c keys = .ok p ∧
        ((∃ e, p.instructions = .error e) ↔ programs.tokenProgram ≠ Address.tokenProgram) := by
  have hends := ends_of_makes (makes_transcript ledger (run programs record buyer keys).run state)
  generalize transcript ledger (run programs record buyer keys).run state = made at hends ⊢
  obtain ⟨t, r⟩ := made
  have hplan : ∀ c, ∃ p, planFresh programs c keys = .ok p ∧
      ((∃ e, p.instructions = .error e) ↔ programs.tokenProgram ≠ Address.tokenProgram) := fun c =>
    ⟨_, planFresh_eq programs c keys, instructions_planned_eq_error_iff⟩
  cases hends with
  | @obstructed t e hobstacle =>
      have hnone := hobstacle.submitted_eq_nil
      refine ⟨by simp [hnone], ⟨fun _ => ⟨e, hobstacle⟩, fun _ => ⟨hnone, e, rfl⟩⟩, ?_, ?_, hplan⟩
      · rintro e' - ⟨⟩
        exact hobstacle
      · exact fun hfree => absurd ⟨e, hobstacle⟩ hfree
  | @submitted _ _ _ _ reply hgathers hp his =>
      have hplaced := placed_of_gathers hgathers hp his reply
      have hone := hplaced.submitted_eq
      refine ⟨by simp [hone], ⟨fun hnone => ?_, fun hobstacle => ?_⟩, fun e hnone => ?_, fun _ => ?_, hplan⟩
      · cases hone.symm.trans hnone.1
      · obtain ⟨e, hobstacle⟩ := hobstacle
        cases hone.symm.trans hobstacle.submitted_eq_nil
      · cases hone.symm.trans hnone
      · refine ⟨_, _, _, _, _, hplaced, ?_, ?_⟩
        · rintro signature rfl
          rfl
        · rintro e rfl
          rfl

end MintDrop.Mint
