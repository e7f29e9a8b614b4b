/-
# A start that works

A server that names and sends the genesis header of the node's network passes all checks. The network
must have no transaction to look for, and nothing is to be subscribed again.
-/

import HeaderFollower.Proofs.Node.Checks
import HeaderFollower.Proofs.Sync.Honest

namespace HeaderFollower

open Dialogue

/-- A request on an open connection may be answered with any result. -/
theorem Link.leads_ask {α : Type} (call : ServerCall α) (j : Json) :
    (({} : Link).ask call).Leads [.asked call.method call.params ⟨.ok j, true⟩]
      (call.decode j, {}) := by
  rw [Link.ask, if_pos rfl]
  exact .ask (.done _)

namespace Node

variable {n : Node}

/-- A check that asks once leads where the answer leads. -/
theorem leads_bind_ask {α : Type} {call : ServerCall α} {j : Json} {a : α}
    (hdecode : call.decode j = .ok a)
    {f : Except ClientError α × Link → Dialogue (Except NodeError Unit × Link)}
    (hf : f (.ok a, {}) = .done (.ok (), {})) :
    ∃ said, ((({} : Link).ask call).bind f).Leads said (.ok (), {}) := by
  refine ⟨_, leads_bind_iff.2 ⟨_, _, [], rfl, Link.leads_ask call j, ?_⟩⟩
  rw [hdecode, hf]
  exact .done _

/-- Checks that pass one by one pass in turn. -/
theorem leads_inTurn {checks : List ServerCheck} {c : Link}
    (h : ∀ check ∈ checks, ∃ said, (check c).Leads said (.ok (), c)) :
    ∃ said, (inTurn checks c).Leads said (.ok (), c) := by
  induction checks with
  | nil => exact ⟨[], .done _⟩
  | cons check rest ih =>
    obtain ⟨before, hcheck⟩ := h check List.mem_cons_self
    obtain ⟨behind, hrest⟩ := ih fun other hother => h other (List.mem_cons_of_mem _ hother)
    exact ⟨before ++ behind, leads_bind_iff.2 ⟨_, before, behind, rfl, hcheck, hrest⟩⟩

theorem leads_checkVersion (n : Node) :
    ∃ said, (n.checkVersion {}).Leads said (.ok (), {}) :=
  leads_bind_ask (j := .array [.string "", .string ""]) (a := ("", "")) rfl rfl

theorem leads_checkFeatures (n : Node) :
    ∃ said, (n.checkFeatures {}).Leads said (.ok (), {}) := by
  refine leads_bind_ask (j := .object [("genesis_hash", .string n.network.genesisHash)])
    (a := ⟨n.network.genesisHash, none, none, none, none, none⟩) rfl ?_
  dsimp only
  rw [if_pos]
  · rfl
  · exact beq_self_eq_true _

theorem leads_checkGenesis (n : Node) :
    ∃ said, (n.checkGenesis {}).Leads said (.ok (), {}) := by
  refine leads_bind_ask (j := .string n.network.genesis.toHex) (a := n.network.genesis.toHex) rfl ?_
  have hread : BlockHeader.ofHex n.network.headerSize n.network.genesis.toHex =
      .ok n.network.genesis := n.network.genesis.ofHex_toHex
  have hfault : n.genesisFault? n.network.genesis.toHex = none := by
    rw [genesisFault?, hread]
    exact if_pos rfl
  dsimp only
  rw [hfault]
  rfl

/-- A start fails if no connection is made. -/
theorem leads_start_of_refused (hgoes : n.stopped = false) (e : ConnectError) :
    n.start.Leads [.dialled n.address (.error e)] (.error (.client (.connect e)), n.disconnect) := by
  rw [start, hgoes, if_neg Bool.false_ne_true]
  exact .dial (.done _)

/-- A transaction without a fault passes its check. -/
theorem leads_checkTransaction {txid text : String} (h : canaryFault? txid text = none) :
    ∃ said, (checkTransaction txid {}).Leads said (.ok (), {}) := by
  refine leads_bind_ask (j := .string text) (a := text) rfl ?_
  dsimp only
  rw [h]
  rfl

/-- All checks can be passed, if there is a transaction to show where one is asked for. -/
theorem leads_checks (hcanary : ∀ txid, n.network.canary? = some txid →
      ∃ text, canaryFault? txid text = none) :
    ∃ said, (inTurn n.checks {}).Leads said (.ok (), {}) := by
  refine leads_inTurn fun check hcheck => ?_
  rcases mem_checks_iff.1 hcheck with rfl | rfl | rfl | ⟨-, txid, htxid, rfl⟩
  · exact leads_checkVersion _
  · exact leads_checkFeatures _
  · exact leads_checkGenesis _
  · obtain ⟨text, htext⟩ := hcanary txid htxid
    exact leads_checkTransaction htext

/-- A start goes on once the checks are passed. -/
theorem leads_start_of_checks (hgoes : n.stopped = false) {talk again : List Exchange} {c d : Link}
    {r : Except NodeError Unit} (hchecks : (inTurn n.disconnect.checks {}).Leads talk (.ok (), c))
    (hagain : (resubscribe n.watched c).Leads again (r, d)) :
    n.start.Leads (.dialled n.address (.ok ()) :: (talk ++ again))
      (r, { n.disconnect with connection := some d, tipsWaiting := true }) := by
  rw [start, hgoes, if_neg Bool.false_ne_true]
  exact .dial (leads_bind_iff.2 ⟨_, talk, again, rfl, hchecks,
    leads_bind_iff.2 ⟨_, again, [], (List.append_nil _).symm, hagain, .done _⟩⟩)

/-- **A start can work.** -/
theorem leads_start (hgoes : n.stopped = false) (hwatched : n.watched = [])
    (hcanary : n.network.canary? = none) :
    ∃ said, n.start.Leads said
      (.ok (), { n.disconnect with connection := some {}, tipsWaiting := true }) := by
  obtain ⟨talk, hchecks⟩ := leads_checks (n := n.disconnect) fun txid htxid => by
    cases hcanary.symm.trans htxid
  have hagain : (resubscribe n.watched {}).Leads [] (.ok (), {}) := by
    rw [hwatched]
    exact .done _
  exact ⟨_, leads_start_of_checks hgoes hchecks hagain⟩

end Node
end HeaderFollower
