import MintDrop.Proofs.Trace
import MintDrop.Proofs.Withdraw.Charity

/-!
# Sweeps

A `Sweep.Verdict` is a record with the reply to the transaction that withdraws it.  A sweep submits the withdrawals of
the records that hold something one after another, whatever was replied before, and its report follows from the
verdicts (`makes_withdrawAll_iff`).  So each funded record has its own transaction (`each_funded_withdrawn`), and what
is donated is what a dry run adds up, but for the records that were refused (`donation_foretold`).
-/

namespace MintDrop

namespace Sweep

open Script

/-! ### The transaction of a record -/

/-- Whether a transaction withdraws a record: the withdrawal is its last instruction, before which there is just the
transfer of what the balance owes to charity, if it owes anything. -/
structure Withdraws (program : Address) (authority : Keypair) (charity : Option CharityShare) (r : OwnedRecord)
    (tx : Transaction) : Prop where
  payer : tx.payer = authority.address
  signers : tx.signers = [authority]
  last : tx.instructions.getLast? = some (Record.withdraw program r.address authority.address)
  unowed : owed charity r.lamports.toNat = 0 → tx.instructions.dropLast = []
  gift : 0 < owed charity r.lamports.toNat → ∃ c ∈ charity, ∃ amount : UInt64,
    tx.instructions.dropLast = [System.transfer authority.address c.address amount] ∧
      amount.toNat = owed charity r.lamports.toNat

theorem withdraws_transaction (program : Address) (authority : Keypair) (charity : Option CharityShare)
    (r : OwnedRecord) : Withdraws program authority charity r (transaction program authority charity r) := by
  have hdonation : owed charity r.lamports.toNat = (donation charity r.lamports).toNat := (toNat_donation _).symm
  have hpositive : 0 < donation charity r.lamports ↔ 0 < (donation charity r.lamports).toNat :=
    UInt64.lt_iff_toNat_lt
  refine ⟨rfl, rfl, List.getLast?_concat, fun hzero => ?_, fun hgift => ?_⟩
  · change List.dropLast (_ ++ [_]) = []
    rw [List.dropLast_concat]
    rw [hdonation] at hzero
    cases charity with
    | none => rfl
    | some c => exact if_neg fun hlt => Nat.lt_irrefl 0 (hzero ▸ hpositive.1 hlt)
  · rw [hdonation] at hgift ⊢
    cases charity with
    | none => cases hgift
    | some c =>
        refine ⟨c, rfl, donation (some c) r.lamports, ?_, rfl⟩
        change List.dropLast (_ ++ [_]) = _
        rw [List.dropLast_concat]
        exact if_pos (hpositive.2 hgift)

/-! ### Verdicts -/

/-- A record with the reply of the ledger to the transaction that withdraws it. -/
structure Verdict where
  record : OwnedRecord
  reply : Except LedgerError Signature

namespace Verdict

/-- The withdrawal with its reply. -/
def exchange (program : Address) (authority : Keypair) (charity : Option CharityShare) (v : Verdict) : Exchange :=
  ⟨.submit (transaction program authority charity v.record), v.reply⟩

/-- The failure that a refusal leads to. -/
def failure? (v : Verdict) : Option Failure :=
  match v.reply with
  | .ok _ => none
  | .error e => some ⟨v.record.address, e⟩

end Verdict

/-- What some records hold together. -/
def held (records : List OwnedRecord) : ℕ := (records.map (·.lamports.toNat)).sum

/-- What some verdicts owe to charity together. -/
def owedBy (charity : Option CharityShare) (vs : List Verdict) : ℕ :=
  (vs.map fun v => owed charity v.record.lamports.toNat).sum

/-- The donations that were made. -/
def donated (charity : Option CharityShare) (vs : List Verdict) : ℕ := owedBy charity (vs.filter (·.reply.isOk))

/-- The donations of the records that were refused. -/
def withheld (charity : Option CharityShare) (vs : List Verdict) : ℕ := owedBy charity (vs.filter (!·.reply.isOk))

theorem donated_add_withheld (charity : Option CharityShare) (vs : List Verdict) :
    donated charity vs + withheld charity vs = owedBy charity vs := by
  induction vs with
  | nil => rfl
  | cons v vs ih =>
      simp only [donated, withheld, owedBy] at ih ⊢
      cases hreply : v.reply.isOk <;> simp [hreply] <;> omega

/-! ### The report -/

/-- How the report of a sweep goes on from one report to another, if it withdraws some records with these verdicts. -/
@[mk_iff]
structure Tallied (charity : Option CharityShare) (rs : List OwnedRecord) (vs : List Verdict)
    (report final : Report) : Prop where
  dryRun : final.dryRun = report.dryRun
  recordCount : final.recordCount = report.recordCount
  total : final.total = report.total
  donation : final.donation = report.donation + UInt64.ofNat (donated charity vs)
  failures : final.failures = report.failures ++ vs.filterMap (·.failure?)
  counts : final.succeeded + final.failures.length = report.succeeded + report.failures.length + rs.length

/-- The report once a verdict is known. -/
def Report.heed (charity : Option CharityShare) (report : Report) (v : Verdict) : Report :=
  match v.reply with
  | .ok _ =>
      { report with
        succeeded := report.succeeded + 1
        donation := report.donation + Sweep.donation charity v.record.lamports }
  | .error e => { report with failures := report.failures ++ [⟨v.record.address, e⟩] }

section

variable {program : Address} {authority : Keypair} {charity : Option CharityShare} {r : OwnedRecord}
  {rs : List OwnedRecord} {v : Verdict} {vs : List Verdict} {report final : Report} {t : List Exchange}

theorem filter_cons_funded (h : r.lamports ≠ 0) :
    (r :: rs).filter (0 < ·.lamports) = r :: rs.filter (0 < ·.lamports) :=
  List.filter_cons_of_pos (decide_eq_true (UInt64.pos_iff_ne_zero.2 h))

theorem filter_cons_empty (h : r.lamports = 0) :
    (r :: rs).filter (0 < ·.lamports) = rs.filter (0 < ·.lamports) :=
  List.filter_cons_of_neg (by simp [h])

theorem tallied_nil_iff : Tallied charity [] [] report final ↔ final = report := by
  constructor
  · rintro ⟨hdry, hcount, htotal, hdonation, hfailures, hcounts⟩
    obtain ⟨_, _, _, _, _, _⟩ := report
    obtain ⟨_, _, _, _, _, _⟩ := final
    simp_all [donated, owedBy]
  · rintro rfl
    exact ⟨rfl, rfl, rfl, (UInt64.add_zero _).symm, (List.append_nil _).symm, rfl⟩

/-- A record that holds nothing is counted as drained. -/
theorem tallied_empty_iff : Tallied charity (r :: rs) vs report final ↔
    Tallied charity rs vs { report with succeeded := report.succeeded + 1 } final := by
  rw [tallied_iff, tallied_iff, List.length_cons]
  refine and_congr Iff.rfl (and_congr Iff.rfl (and_congr Iff.rfl (and_congr Iff.rfl (and_congr Iff.rfl ?_))))
  dsimp only
  omega

theorem tallied_verdict_iff : Tallied charity (r :: rs) (v :: vs) report final ↔
    Tallied charity rs vs (report.heed charity v) final := by
  obtain ⟨record, reply⟩ := v
  rw [tallied_iff, tallied_iff, List.length_cons]
  cases reply with
  | ok signature =>
      have hdonated : donated charity (⟨record, .ok signature⟩ :: vs) =
          owed charity record.lamports.toNat + donated charity vs := rfl
      refine and_congr Iff.rfl (and_congr Iff.rfl (and_congr Iff.rfl (and_congr ?_ (and_congr Iff.rfl ?_))))
      · rw [hdonated, UInt64.ofNat_add, ← UInt64.add_assoc, ← donation_eq_ofNat]
        rfl
      · dsimp only [Report.heed]
        omega
  | error e =>
      have hfailures : report.failures ++ ((⟨record, .error e⟩ : Verdict) :: vs).filterMap (·.failure?) =
          (report.failures ++ [⟨record.address, e⟩]) ++ vs.filterMap (·.failure?) :=
        (List.append_assoc report.failures [⟨record.address, e⟩] _).symm
      refine and_congr Iff.rfl (and_congr Iff.rfl (and_congr Iff.rfl (and_congr Iff.rfl (and_congr ?_ ?_))))
      · rw [hfailures]
        rfl
      · simp only [Report.heed, List.length_append, List.length_singleton]
        omega

/-- Any verdicts on the funded records of a list come to a report. -/
theorem exists_tallied (hvs : vs.map (·.record) = rs.filter (0 < ·.lamports)) :
    ∃ final, Tallied charity rs vs report final := by
  have hlength : (vs.filterMap (·.failure?)).length ≤ rs.length := by
    calc (vs.filterMap (·.failure?)).length
        ≤ vs.length := List.length_filterMap_le _ _
      _ = (rs.filter (0 < ·.lamports)).length := by rw [← hvs, List.length_map]
      _ ≤ rs.length := List.length_filter_le _ _
  refine ⟨{ report with
    donation := report.donation + UInt64.ofNat (donated charity vs)
    failures := report.failures ++ vs.filterMap (·.failure?)
    succeeded := report.succeeded + (rs.length - (vs.filterMap (·.failure?)).length) }, rfl, rfl, rfl, rfl, rfl, ?_⟩
  rw [List.length_append]
  dsimp only
  omega

/-! ### Traces of a sweep -/

/-- The next record is withdrawn whatever the reply is. -/
theorem withdrawAll_cons (h : r.lamports ≠ 0) : withdrawAll program authority charity (r :: rs) report =
    .call (.submit (transaction program authority charity r)) fun reply =>
      withdrawAll program authority charity rs (report.heed charity ⟨r, reply⟩) := by
  rw [withdrawAll, if_neg h]
  refine congrArg (Script.call _) (funext fun reply => ?_)
  cases reply <;> rfl

theorem makes_withdrawAll_iff : Makes (withdrawAll program authority charity rs report) t (some final) ↔
    ∃ vs : List Verdict, vs.map (·.record) = rs.filter (0 < ·.lamports) ∧
      t = vs.map (·.exchange program authority charity) ∧ Tallied charity rs vs report final := by
  induction rs generalizing report t with
  | nil =>
      rw [withdrawAll]
      constructor
      · intro h
        obtain ⟨rfl, hr | hr⟩ := makes_done h
        · cases hr
        · exact ⟨[], rfl, rfl, tallied_nil_iff.2 (Option.some.inj hr)⟩
      · rintro ⟨vs, hvs, rfl, htallied⟩
        obtain rfl := List.map_eq_nil_iff.1 hvs
        rw [tallied_nil_iff.1 htallied]
        exact .done report
  | cons r rs ih =>
      by_cases hempty : r.lamports = 0
      · rw [withdrawAll, if_pos hempty, ih, filter_cons_empty hempty]
        simp only [tallied_empty_iff]
      · rw [filter_cons_funded hempty]
        constructor
        · intro h
          rw [withdrawAll_cons hempty] at h
          rcases makes_call rfl h with ⟨-, hr⟩ | ⟨reply, t', rfl, hrest⟩
          · cases hr
          · obtain ⟨vs, hvs, rfl, htallied⟩ := ih.1 hrest
            exact ⟨⟨r, reply⟩ :: vs, congrArg (r :: ·) hvs, rfl, tallied_verdict_iff.2 htallied⟩
        · rintro ⟨vs, hvs, rfl, htallied⟩
          obtain ⟨⟨r', reply⟩, vs', rfl, rfl, hvs'⟩ := List.map_eq_cons_iff.1 hvs
          rw [withdrawAll_cons hempty]
          refine .call (c := .submit (transaction program authority charity r')) reply rfl ?_
          exact ih.2 ⟨vs', hvs', rfl, tallied_verdict_iff.1 htallied⟩

/-! ### Whole sweeps -/

/-- What the report of a sweep says of its records and of the verdicts on them. -/
structure Accounts (charity : Option CharityShare) (records : List OwnedRecord) (vs : List Verdict)
    (report : Report) : Prop where
  dryRun : report.dryRun = false
  recordCount : report.recordCount = records.length
  counts : report.succeeded + report.failures.length = report.recordCount
  failures : report.failures = vs.filterMap (·.failure?)
  total : report.total = UInt64.ofNat (held records)
  donation : report.donation = UInt64.ofNat (donated charity vs)
  /-- No sum is cut as long as the balances come to a number of 64 bits. -/
  uncut : held records < UInt64.size →
    report.total.toNat = held records ∧ report.donation.toNat = donated charity vs

/-- The report before the first withdrawal. -/
def opening (records : List OwnedRecord) : Report :=
  ⟨false, records.length, sum (records.map (·.lamports)), 0, 0, []⟩

/-- The report of a dry run. -/
def rehearsed (charity : Option CharityShare) (records : List OwnedRecord) : Report :=
  ⟨true, records.length, sum (records.map (·.lamports)), sum (records.map fun r => donation charity r.lamports),
    records.length, []⟩

/-- The records are looked up, then they are withdrawn. -/
theorem run_live (program : Address) (authority : Keypair) (charity : Option CharityShare) :
    (run program authority charity false).run = .call (.owned program authority.address)
      fun (reply : Except LedgerError (List OwnedRecord)) =>
        match reply with
        | .ok records => withdrawAll program authority charity records (opening records) >>= fun a => .done (.ok a)
        | .error e => .done (.error ⟨e⟩) := by
  refine congrArg (Script.call _) (funext fun reply => ?_)
  cases reply <;> rfl

theorem run_dry (program : Address) (authority : Keypair) (charity : Option CharityShare) :
    (run program authority charity true).run = .call (.owned program authority.address)
      fun (reply : Except LedgerError (List OwnedRecord)) =>
        match reply with
        | .ok records => .done (.ok (rehearsed charity records))
        | .error e => .done (.error ⟨e⟩) := by
  refine congrArg (Script.call _) (funext fun reply => ?_)
  cases reply <;> rfl

theorem makes_live_iff {result : Except Error Report} :
    Makes (run program authority charity false).run t (some result) ↔
      (∃ e, t = [⟨.owned program authority.address, .error e⟩] ∧ result = .error ⟨e⟩) ∨
        ∃ records vs report, vs.map (·.record) = records.filter (0 < ·.lamports) ∧
          t = ⟨.owned program authority.address, .ok records⟩ :: vs.map (·.exchange program authority charity) ∧
          result = .ok report ∧ Tallied charity records vs (opening records) report := by
  rw [run_live]
  constructor
  · intro h
    rcases makes_call rfl h with ⟨-, hr⟩ | ⟨reply, t', rfl, hrest⟩
    · cases hr
    cases reply with
    | error e =>
        obtain ⟨rfl, hr | hr⟩ := makes_done hrest
        · cases hr
        · exact Or.inl ⟨e, rfl, Option.some.inj hr⟩
    | ok records =>
        rcases makes_map hrest with ⟨hr, -⟩ | ⟨report, hr, hall⟩
        · cases hr
        · obtain ⟨vs, hvs, rfl, htallied⟩ := makes_withdrawAll_iff.1 hall
          exact Or.inr ⟨records, vs, report, hvs, rfl, Option.some.inj hr, htallied⟩
  · rintro (⟨e, rfl, rfl⟩ | ⟨records, vs, report, hvs, rfl, rfl, htallied⟩)
    · exact .call (c := .owned program authority.address) (.error e) rfl (.done _)
    · refine .call (c := .owned program authority.address) (.ok records) rfl ?_
      have hall : Makes (withdrawAll program authority charity records (opening records))
          (vs.map (·.exchange program authority charity)) (some report) :=
        makes_withdrawAll_iff.2 ⟨vs, hvs, rfl, htallied⟩
      have hdone := hall.bind (f := fun a => .done (.ok a : Except Error Report)) (.done _)
      rwa [List.append_nil] at hdone

/-- A dry run asks for the records and for nothing else. -/
theorem makes_dry {r : Option (Except Error Report)} (h : Makes (run program authority charity true).run t r) :
    t = [] ∨ ∃ reply : Except LedgerError (List OwnedRecord), t = [⟨.owned program authority.address, reply⟩] := by
  rw [run_dry] at h
  rcases makes_call rfl h with ⟨rfl, -⟩ | ⟨reply, t', rfl, hrest⟩
  · exact Or.inl rfl
  · cases reply <;> obtain ⟨rfl, -⟩ := makes_done hrest <;> exact Or.inr ⟨_, rfl⟩

theorem makes_dry_ok (program : Address) (authority : Keypair) (charity : Option CharityShare)
    (records : List OwnedRecord) : Makes (run program authority charity true).run
      [⟨.owned program authority.address, .ok records⟩] (some (.ok (rehearsed charity records))) := by
  rw [run_dry]
  exact .call (c := .owned program authority.address) (.ok records) rfl (.done _)

theorem eq_rehearsed {records : List OwnedRecord} (h : Makes (run program authority charity true).run
    (⟨.owned program authority.address, .ok records⟩ :: t) (some (.ok report))) :
    report = rehearsed charity records := by
  rw [run_dry] at h
  rcases makes_call rfl h with ⟨ht, -⟩ | ⟨reply, t', ht, hrest⟩
  · cases ht
  · cases ht
    obtain ⟨-, hr | hr⟩ := makes_done hrest
    · cases hr
    · exact Except.ok.inj (Option.some.inj hr)

theorem withheld_eq_zero (h : vs.filterMap (·.failure?) = []) : withheld charity vs = 0 := by
  have hnone : vs.filter (!·.reply.isOk) = [] := by
    refine List.filter_eq_nil_iff.2 fun v hv hrefused => ?_
    have hv' := List.filterMap_eq_nil_iff.1 h v hv
    obtain ⟨record, reply⟩ := v
    cases reply with
    | ok signature => cases hrefused
    | error e => cases hv'
  rw [withheld, hnone]
  rfl

/-- Records that hold nothing owe nothing. -/
theorem owedBy_eq_sum (hvs : vs.map (·.record) = rs.filter (0 < ·.lamports)) :
    owedBy charity vs = (rs.map fun r => owed charity r.lamports.toNat).sum := by
  have hmap : owedBy charity vs = ((vs.map (·.record)).map fun r => owed charity r.lamports.toNat).sum := by
    rw [List.map_map]
    rfl
  rw [hmap, hvs]
  clear hmap hvs
  induction rs with
  | nil => rfl
  | cons r rs ih =>
      by_cases hempty : r.lamports = 0
      · rw [filter_cons_empty hempty, ih, List.map_cons, List.sum_cons, hempty]
        change _ = owed charity 0 + _
        rw [owed_zero, Nat.zero_add]
      · rw [filter_cons_funded hempty, List.map_cons, List.map_cons, List.sum_cons, List.sum_cons, ih]

/-- What the records owe together is not more than the share of what they hold. -/
theorem sum_owed_le_held (charity : Option CharityShare) (rs : List OwnedRecord) :
    (rs.map fun r => owed charity r.lamports.toNat).sum ≤ owed charity (held rs) := by
  have hsum : ((rs.map (·.lamports.toNat)).map (owed charity)).sum ≤ owed charity (rs.map (·.lamports.toNat)).sum :=
    sum_owed_le _
  rw [List.map_map] at hsum
  exact hsum

/-- So no sum of donations is more than the records hold. -/
theorem donated_le_held (hvs : vs.map (·.record) = rs.filter (0 < ·.lamports)) : donated charity vs ≤ held rs := by
  calc donated charity vs
      ≤ owedBy charity vs := Nat.le.intro (donated_add_withheld charity vs)
    _ = (rs.map fun r => owed charity r.lamports.toNat).sum := owedBy_eq_sum hvs
    _ ≤ owed charity (held rs) := sum_owed_le_held charity rs
    _ ≤ held rs := owed_le _

theorem sum_lamports (rs : List OwnedRecord) : sum (rs.map (·.lamports)) = UInt64.ofNat (held rs) := by
  rw [sum_eq_ofNat, List.map_map]
  rfl

theorem Tallied.accounts (h : Tallied charity rs vs (opening rs) report)
    (hvs : vs.map (·.record) = rs.filter (0 < ·.lamports)) : Accounts charity rs vs report := by
  have htotal : report.total = UInt64.ofNat (held rs) := h.total.trans (sum_lamports rs)
  have hdonation : report.donation = UInt64.ofNat (donated charity vs) := by
    rw [h.donation, opening, UInt64.zero_add]
  refine
    { dryRun := h.dryRun
      recordCount := h.recordCount
      counts := ?counts
      failures := h.failures
      total := htotal
      donation := hdonation
      uncut := fun hheld => ⟨?total, ?donation⟩ }
  case counts =>
    have hcounts := h.counts
    rw [h.recordCount]
    simpa [opening] using hcounts
  case total => rw [htotal, UInt64.toNat_ofNat_of_lt' hheld]
  case donation =>
    rw [hdonation, UInt64.toNat_ofNat_of_lt' (Nat.lt_of_le_of_lt (donated_le_held hvs) hheld)]

theorem toNat_total_rehearsed (h : held rs < UInt64.size) : (rehearsed charity rs).total.toNat = held rs := by
  rw [rehearsed, sum_lamports, UInt64.toNat_ofNat_of_lt' h]

theorem toNat_donation_rehearsed (h : held rs < UInt64.size) :
    (rehearsed charity rs).donation.toNat = (rs.map fun r => owed charity r.lamports.toNat).sum := by
  have hmap : (rs.map fun r => donation charity r.lamports).map (·.toNat) =
      rs.map fun r => owed charity r.lamports.toNat := by
    rw [List.map_map]
    exact List.map_congr_left fun r _ => toNat_donation r.lamports
  have hle := Nat.le_trans (sum_owed_le_held charity rs) (owed_le _)
  change (sum (rs.map fun r => donation charity r.lamports)).toNat = _
  rw [sum_eq_ofNat, hmap, UInt64.toNat_ofNat_of_lt' (Nat.lt_of_le_of_lt hle h)]

end

/-- A sweep that is not a dry run ends at once if the records cannot be looked up.  Else it submits the withdrawal of
each record that holds something, in their order and whatever is replied, and its report accounts for the replies.  All
replies can occur, and each transaction withdraws its record after a gift of just what the balance owes. -/
theorem each_funded_withdrawn (program : Address) (authority : Keypair) (charity : Option CharityShare) :
    (∀ r, Withdraws program authority charity r (transaction program authority charity r)) ∧
      (∀ t result, Makes (run program authority charity false).run t (some result) →
        (∃ e, t = [⟨.owned program authority.address, .error e⟩] ∧ result = .error ⟨e⟩) ∨
          ∃ records vs report, vs.map (·.record) = records.filter (0 < ·.lamports) ∧
            t = ⟨.owned program authority.address, .ok records⟩ :: vs.map (·.exchange program authority charity) ∧
            result = .ok report ∧ Accounts charity records vs report) ∧
      ∀ records (vs : List Verdict), vs.map (·.record) = records.filter (0 < ·.lamports) →
        ∃ report, Accounts charity records vs report ∧
          Makes (run program authority charity false).run
            (⟨.owned program authority.address, .ok records⟩ :: vs.map (·.exchange program authority charity))
            (some (.ok report)) := by
  refine ⟨withdraws_transaction program authority charity, fun t result h => ?_, fun records vs hvs => ?_⟩
  · rcases makes_live_iff.1 h with hfailed | ⟨records, vs, report, hvs, ht, hresult, htallied⟩
    · exact Or.inl hfailed
    · exact Or.inr ⟨records, vs, report, hvs, ht, hresult, htallied.accounts hvs⟩
  · obtain ⟨report, htallied⟩ := exists_tallied hvs
    exact ⟨report, htallied.accounts hvs, makes_live_iff.2 (Or.inr ⟨records, vs, report, hvs, rfl, rfl, htallied⟩)⟩

/-- Four records, of which one is empty and one too small for a gift. -/
def fourRecords : List OwnedRecord := [⟨.zero, 10⟩, ⟨.zero, 0⟩, ⟨.zero, 1⟩, ⟨.zero, 7⟩]

/-- The first of the records is refused. -/
def fourVerdicts : List Verdict :=
  [⟨⟨.zero, 10⟩, .error (.transaction "refused")⟩, ⟨⟨.zero, 1⟩, .ok []⟩, ⟨⟨.zero, 7⟩, .ok []⟩]

theorem each_funded_withdrawn_fourRecords :
    ∃ t report records vs, Makes (run .zero default (some ⟨.zero, 5000, by decide⟩) false).run t (some (.ok report)) ∧
      report.succeeded = 3 ∧ report.failures.length = 1 ∧ report.total = 18 ∧ report.donation = 3 ∧
      t = ⟨.owned .zero (default : Keypair).address, .ok records⟩ ::
        vs.map (·.exchange .zero default (some ⟨.zero, 5000, by decide⟩)) ∧
      Accounts (some ⟨.zero, 5000, by decide⟩) records vs report := by
  obtain ⟨-, hall, hsome⟩ := each_funded_withdrawn .zero default (some ⟨.zero, 5000, by decide⟩)
  obtain ⟨report, haccounts, h⟩ := hsome fourRecords fourVerdicts rfl
  have hfailures : report.failures.length = 1 := by
    rw [haccounts.failures]
    rfl
  have hsucceeded : report.succeeded = 3 := by
    have hcounts := haccounts.counts
    rw [hfailures, haccounts.recordCount] at hcounts
    exact Nat.succ.inj hcounts
  rcases hall _ _ h with ⟨e, ht, -⟩ | ⟨records, vs, report', -, ht, hreport, haccounts'⟩
  · cases ht
  · obtain rfl := Except.ok.inj hreport
    exact ⟨_, report, records, vs, h, hsucceeded, hfailures, haccounts.total, haccounts.donation, ht, haccounts'⟩

/-- What a dry run says ahead of a sweep of the same records that makes the calls `t` after it has looked them up. -/
structure Foretells (program : Address) (authority : Keypair) (charity : Option CharityShare)
    (records : List OwnedRecord) (t : List Exchange) (dry live : Report) : Prop where
  recordCount : dry.recordCount = records.length ∧ live.recordCount = records.length
  total : dry.total.toNat = held records ∧ live.total = dry.total
  sum : dry.donation.toNat = (records.map fun r => owed charity r.lamports.toNat).sum
  share : dry.donation.toNat ≤ owed charity dry.total.toNat
  bounded : owed charity dry.total.toNat ≤ dry.total.toNat
  /-- What is missing are the donations of the records that were refused. -/
  refused : ∃ vs : List Verdict, vs.map (·.record) = records.filter (0 < ·.lamports) ∧
    t = vs.map (·.exchange program authority charity) ∧ live.failures = vs.filterMap (·.failure?) ∧
    live.donation.toNat + withheld charity vs = dry.donation.toNat
  le : live.donation ≤ dry.donation
  eq : live.success → live.donation = dry.donation

theorem foretells_rehearsed {program : Address} {authority : Keypair} {charity : Option CharityShare}
    {records : List OwnedRecord} {t : List Exchange} {live : Report} (hheld : held records < UInt64.size)
    (h : Makes (run program authority charity false).run (⟨.owned program authority.address, .ok records⟩ :: t)
      (some (.ok live))) : Foretells program authority charity records t (rehearsed charity records) live := by
  rcases makes_live_iff.1 h with ⟨e, ht, -⟩ | ⟨records', vs, report, hvs, ht, hresult, htallied⟩
  · cases ht
  obtain ⟨hcall, rfl⟩ := List.cons.inj ht
  cases hcall
  obtain rfl := Except.ok.inj hresult
  have haccounts := htallied.accounts hvs
  have hrefused : live.donation.toNat + withheld charity vs = (rehearsed charity records).donation.toNat := by
    rw [(haccounts.uncut hheld).2, donated_add_withheld, owedBy_eq_sum hvs, toNat_donation_rehearsed hheld]
  refine
    { recordCount := ⟨rfl, haccounts.recordCount⟩
      total := ⟨toNat_total_rehearsed hheld, htallied.total⟩
      sum := toNat_donation_rehearsed hheld
      share := ?share
      bounded := owed_le _
      refused := ⟨vs, hvs, rfl, haccounts.failures, hrefused⟩
      le := UInt64.le_iff_toNat_le.2 (Nat.le.intro hrefused)
      eq := fun hsuccess => UInt64.toNat_inj.1 ?eq }
  case share =>
    rw [toNat_donation_rehearsed hheld, toNat_total_rehearsed hheld]
    exact sum_owed_le_held charity records
  case eq =>
    have hfailures := List.isEmpty_iff.1 hsuccess
    rw [haccounts.failures] at hfailures
    rw [← hrefused, withheld_eq_zero hfailures, Nat.add_zero]

/-- A donation is the exact share of a balance rounded down and not more than the balance, and two donations are not
more than that of the balances together.  A dry run submits nothing and cannot fail once the records are looked up.  If
the balances come to a number of 64 bits, it adds up donations to no more than the share of the total; a sweep of the
same records donates as much, but for the donations of the records that are refused. -/
theorem donation_foretold (program : Address) (authority : Keypair) (charity : Option CharityShare) :
    (∀ (c : CharityShare) lamports, (c.donation lamports).toNat = lamports.toNat * c.basisPoints.toNat / 10000 ∧
      c.donation lamports ≤ lamports ∧ lamports.toNat * c.basisPoints.toNat < 2 ^ 128) ∧
    (∀ (c : CharityShare) (m n : UInt64), m.toNat + n.toNat < UInt64.size →
      (c.donation m).toNat + (c.donation n).toNat ≤ (c.donation (m + n)).toNat) ∧
    (∀ t r, Makes (run program authority charity true).run t r → t.filterMap Exchange.submitted? = []) ∧
    (∀ records, ∃ dry, Makes (run program authority charity true).run
      [⟨.owned program authority.address, .ok records⟩] (some (.ok dry))) ∧
    ∀ records t t' dry live, held records < UInt64.size →
      Makes (run program authority charity true).run (⟨.owned program authority.address, .ok records⟩ :: t)
        (some (.ok dry)) →
      Makes (run program authority charity false).run (⟨.owned program authority.address, .ok records⟩ :: t')
        (some (.ok live)) →
      Foretells program authority charity records t' dry live := by
  refine ⟨fun c lamports => ⟨c.toNat_donation lamports, c.donation_le lamports, c.product_lt lamports⟩,
    fun c m n h => c.donation_add_le h, fun t r h => ?_, fun records => ?_,
    fun records t t' dry live hheld hdry hlive => ?_⟩
  · rcases makes_dry h with rfl | ⟨reply, rfl⟩ <;> rfl
  · exact ⟨_, makes_dry_ok program authority charity records⟩
  · rw [eq_rehearsed hdry]
    exact foretells_rehearsed hheld hlive

/-- Of the eight lamports that a dry run adds up, the refused record keeps five. -/
theorem donation_foretold_fourRecords :
    ∃ dry live, Makes (run .zero default (some ⟨.zero, 5000, by decide⟩) true).run
        [⟨.owned .zero (default : Keypair).address, .ok fourRecords⟩] (some (.ok dry)) ∧
      Makes (run .zero default (some ⟨.zero, 5000, by decide⟩) false).run
        (⟨.owned .zero (default : Keypair).address, .ok fourRecords⟩ ::
          fourVerdicts.map (·.exchange .zero default (some ⟨.zero, 5000, by decide⟩))) (some (.ok live)) ∧
      dry.donation = 8 ∧ live.donation = 3 ∧
      Foretells .zero default (some ⟨.zero, 5000, by decide⟩) fourRecords
        (fourVerdicts.map (·.exchange .zero default (some ⟨.zero, 5000, by decide⟩))) dry live := by
  obtain ⟨-, -, -, hsome, hforetells⟩ := donation_foretold .zero default (some ⟨.zero, 5000, by decide⟩)
  obtain ⟨dry, hdry⟩ := hsome fourRecords
  obtain ⟨live, htallied⟩ : ∃ live, Tallied (some ⟨.zero, 5000, by decide⟩) fourRecords fourVerdicts
    (opening fourRecords) live := exists_tallied rfl
  have hlive : Makes (run .zero default (some ⟨.zero, 5000, by decide⟩) false).run
      (⟨.owned .zero (default : Keypair).address, .ok fourRecords⟩ ::
        fourVerdicts.map (·.exchange .zero default (some ⟨.zero, 5000, by decide⟩))) (some (.ok live)) :=
    makes_live_iff.2 (Or.inr ⟨fourRecords, fourVerdicts, live, rfl, rfl, rfl, htallied⟩)
  have h := hforetells fourRecords _ _ dry live (by decide) hdry hlive
  have hdonation : dry.donation = 8 := UInt64.toNat_inj.1 h.sum
  exact ⟨dry, live, hdry, hlive, hdonation, (htallied.accounts rfl).donation, h⟩

end Sweep

end MintDrop
