/-
The persistent replay guard, sql_store_federation_replay.go: claims of incoming PDUs in the table
federation_replay_guard under the key (origin, pdu_id). `ClaimFederationPDU` is one serializable
transaction and the other two are one statement each. The columns keep the driver's text of a
`time.Time`, which compares like the instant (`Store.timeString_lt_iff`), so the model keeps
instants.
-/
import GaiaCom.Lib.Table
import GaiaCom.Store.Time

namespace GaiaCom.Federation

open Lib Store

/-- A row of federation_replay_guard: a claim with the end of its lease, or a finished PDU. -/
inductive GuardRow where
  | processing (leaseUntil : Nat)
  | completed (processedAt : Nat)
  deriving DecidableEq, Repr

namespace GuardRow

/-- `status = 'completed' AND processed_at < now - 2h`. -/
def outdated (now : Nat) : GuardRow → Bool
  | .processing _ => false
  | .completed processedAt => processedAt + 2 * hour < now

/-- `status = 'processing' AND lease_until < now`. -/
def abandoned (now : Nat) : GuardRow → Bool
  | .processing leaseUntil => leaseUntil < now
  | .completed _ => false

/-- `status = 'processing'`. -/
def isProcessing : GuardRow → Bool
  | .processing _ => true
  | .completed _ => false

end GuardRow

/-- The primary key (origin, pdu_id). -/
abbrev GuardKey := String × String

/-- The table federation_replay_guard. -/
abbrev Guard := Table GuardKey GuardRow

/-- `ClaimFederationPDU` at clock `now`; the flag says whether the claim was made. -/
def claimFederationPDU (g : Guard) (key : GuardKey) (leaseUntil now : Nat) : Guard × Bool :=
  let g := g.deleteWhere fun _ r => r.outdated now
  if (g.get? key).isNone then (g.insertOrIgnore key (.processing leaseUntil), true)
  else
    (g.updateWhere (fun k r => k = key && r.abandoned now) fun _ => .processing leaseUntil,
      g.countWhere (fun k r => k = key && r.abandoned now) == 1)

/-- `CompleteFederationPDU`; the flag is false for `sql.ErrNoRows`. -/
def completeFederationPDU (g : Guard) (key : GuardKey) (processedAt : Nat) : Guard × Bool :=
  (g.updateWhere (fun k r => k = key && r.isProcessing) fun _ => .completed processedAt,
    g.countWhere (fun k r => k = key && r.isProcessing) == 1)

/-- `ReleaseFederationPDU`. -/
def releaseFederationPDU (g : Guard) (key : GuardKey) : Guard :=
  g.deleteWhere fun k r => k = key && r.isProcessing

/-! ## Specifications -/

def claimable (now : Nat) : Option GuardRow → Bool
  | none => true
  | some r => r.outdated now || r.abandoned now

theorem claimFederationPDU_snd (g : Guard) (key : GuardKey) (leaseUntil now : Nat) :
    (claimFederationPDU g key leaseUntil now).2 = claimable now (g.get? key) := by
  simp only [claimFederationPDU, Table.get?_deleteWhere]
  cases hg : g.get? key with
  | none => rfl
  | some r =>
    cases ho : r.outdated now with
    | true => simp [ho, claimable]
    | false =>
      simp only [Option.filter, ho, Bool.not_false, if_true, Option.isNone_some, Bool.false_eq_true, if_false,
        Table.countWhere_key, Table.get?_deleteWhere, hg, claimable, Bool.false_or, Option.any_some]
      cases r.abandoned now <;> rfl

/-- After a claim: the claimed key is in processing, every other row is as it was, outdated
records apart. -/
theorem get?_claimFederationPDU (g : Guard) (key : GuardKey) (leaseUntil now : Nat) (k : GuardKey) :
    (claimFederationPDU g key leaseUntil now).1.get? k =
      if k = key ∧ claimable now (g.get? key) = true then some (.processing leaseUntil)
      else (g.get? k).filter fun r => !r.outdated now := by
  simp only [claimFederationPDU, Table.get?_deleteWhere]
  cases hg : g.get? key with
  | none =>
    by_cases hk : k = key
    · subst hk; simp [hg, claimable]
    · simp [hk]
  | some r =>
    cases ho : r.outdated now with
    | true =>
      by_cases hk : k = key
      · subst hk; simp [hg, ho, claimable, Option.filter]
      · simp [ho, hk]
    | false =>
      simp only [Option.filter, ho, Bool.not_false, if_true, Option.isNone_some, Bool.false_eq_true, if_false,
        Table.get?_updateWhere, Table.get?_deleteWhere, claimable, Bool.false_or]
      by_cases hk : k = key
      · subst hk
        simp only [hg, ho, Bool.not_false, if_true, Option.map_some, decide_true, Bool.true_and, true_and]
        split <;> simp_all
      · simp only [hk, decide_false, Bool.false_and, Bool.false_eq_true, if_false, false_and, Option.map_id']

theorem completeFederationPDU_snd (g : Guard) (key : GuardKey) (processedAt : Nat) :
    (completeFederationPDU g key processedAt).2 = (g.get? key).any GuardRow.isProcessing := by
  simp only [completeFederationPDU, Table.countWhere_key]
  cases (g.get? key).any GuardRow.isProcessing <;> rfl

theorem get?_completeFederationPDU (g : Guard) (key : GuardKey) (processedAt : Nat) (k : GuardKey) :
    (completeFederationPDU g key processedAt).1.get? k =
      (g.get? k).map fun r => if k = key ∧ r.isProcessing = true then .completed processedAt else r := by
  simp [completeFederationPDU]

theorem get?_releaseFederationPDU (g : Guard) (key k : GuardKey) :
    (releaseFederationPDU g key).get? k = (g.get? k).filter fun r => !(k = key && r.isProcessing) := by
  simp [releaseFederationPDU]

end GaiaCom.Federation
