import Rollout.Proofs.Outage

/-!
# What a client remembers

The only thing that a client learns from the node and keeps is the number of the chain. Whatever is
done for it, it knows this number once a query for it was not refused, and each transaction that is
completed bears the number that it knows (`Client.Recalls`); meanwhile the node counts its accesses
and the transactions that it takes.
-/

namespace Rollout

open Rollout.Action

variable {s s' mid : Session} {contract : Contract} {named : Option Contract}

/-- The number of the chain in the transaction that a deed completes. -/
def Deed.chain? : Deed → Option Int
  | access _ (.build _ _ chain _) => some chain
  | _ => none

/-- A deed asks for the number of the chain, or completes or broadcasts a transaction. -/
def Deed.isMemorable : Deed → Bool
  | access _ .chainId | access _ (.build _ _ _ _) | access _ (.send _) => true
  | _ => false

theorem Deed.step?_of_not_isMemorable {deed : Deed} (h : deed.isMemorable = false) :
    deed.step? ≠ some .chainId ∧ deed.chain? = none := by
  cases deed with
  | access named event =>
    revert h
    cases event <;> simp [isMemorable, step?, chain?]
  | _ => exact ⟨(Option.some_ne_none Chain.Step.chainId).symm, rfl⟩

theorem Deed.length_send? (deed : Deed) :
    ([deed].filterMap send?).length = if deed.step? = some .send then 1 else 0 := by
  cases deed with
  | access named event => cases event <;> rfl
  | _ => rfl

namespace Chain.Node

variable {node : Node} {deeds more : List Deed}

/-- The deeds that a node does not refuse, in order. -/
def accepted (node : Node) : List Deed → List Deed
  | [] => []
  | deed :: rest =>
    if node.refusal? deed = none then deed :: (node.afterDeed deed).accepted rest
    else (node.afterDeed deed).accepted rest

theorem accepted_append (node : Node) (deeds more : List Deed) :
    node.accepted (deeds ++ more) = node.accepted deeds ++ (node.afterDeeds deeds).accepted more := by
  induction deeds generalizing node with
  | nil => rfl
  | cons deed rest ih =>
    rw [List.cons_append, accepted, accepted, ih, afterDeeds, afterDeeds, List.foldl_cons]
    split <;> rfl

theorem accepted_singleton (node : Node) (deed : Deed) :
    node.accepted [deed] = if node.refusal? deed = none then [deed] else [] := rfl

theorem accepted_sublist (node : Node) (deeds : List Deed) : (node.accepted deeds).Sublist deeds := by
  induction deeds generalizing node with
  | nil => exact .slnil
  | cons deed rest ih =>
    rw [accepted]
    split
    · exact (ih _).cons_cons deed
    · exact (ih _).cons deed

theorem afterDeed_eq (node : Node) (deed : Deed) :
    node.afterDeed deed = { node with
      sent := node.sent + ((node.accepted [deed]).filterMap Deed.send?).length
      accesses := node.accesses ++ [deed].filterMap Deed.step? } := by
  rw [accepted_singleton]
  cases hstep : deed.step? with
  | none =>
    have hsend : ([deed].filterMap Deed.send?).length = 0 := by
      rw [Deed.length_send?, hstep, if_neg nofun]
    rw [afterDeed_of_none hstep]
    split <;> simp [hstep, hsend]
  | some step =>
    by_cases htaken : node.refusal? deed = none
    · rw [if_pos htaken, Deed.length_send?, hstep]
      by_cases hsend : step = .send
      · subst hsend
        rw [afterDeed_of_send hstep, if_pos htaken]
        simp [accessed, hstep]
      · rw [afterDeed_of_ne hstep hsend]
        simp [accessed, hstep, hsend]
    · have hrefused : node.afterDeed deed = node.accessed step := by
        rw [afterDeed, hstep]
        exact if_neg fun h => htaken h.2
      rw [if_neg htaken, hrefused]
      simp [accessed, hstep]

/-- A node counts its accesses and the transactions that it takes, and is otherwise as it was. -/
theorem afterDeeds_eq (node : Node) (deeds : List Deed) :
    node.afterDeeds deeds = { node with
      sent := node.sent + ((node.accepted deeds).filterMap Deed.send?).length
      accesses := node.accesses ++ deeds.filterMap Deed.step? } := by
  induction deeds generalizing node with
  | nil => simp [afterDeeds, accepted]
  | cons deed rest ih =>
    have hsplit := accepted_append node [deed] rest
    have hfirst : node.afterDeeds [deed] = node.afterDeed deed := rfl
    have hsteps : (deed :: rest).filterMap Deed.step? =
        [deed].filterMap Deed.step? ++ rest.filterMap Deed.step? := by
      rw [← List.filterMap_append, List.singleton_append]
    rw [List.singleton_append, hfirst] at hsplit
    rw [afterDeeds, List.foldl_cons, ← afterDeeds, ih, hsplit, List.filterMap_append,
      List.length_append, ← Nat.add_assoc, hsteps, ← List.append_assoc]
    rw [afterDeed_eq]

/-- The number of the chain, if deeds ask a node for it and are not refused. -/
def toldChainId? (node : Node) (deeds : List Deed) : Option Int :=
  if (node.accepted deeds).any fun deed => deed.step? = some .chainId then some node.chainId else none

theorem toldChainId?_append (node : Node) (deeds more : List Deed) :
    node.toldChainId? (deeds ++ more) =
      (node.toldChainId? deeds).or ((node.afterDeeds deeds).toldChainId? more) := by
  have hchain : (node.afterDeeds deeds).chainId = node.chainId := by rw [afterDeeds_eq]
  rw [toldChainId?, toldChainId?, toldChainId?, accepted_append, List.any_append, hchain]
  cases (node.accepted deeds).any fun deed => deed.step? = some .chainId <;> rfl

/-- Deeds that do not ask for the number of the chain are not told it. -/
theorem toldChainId?_singleton {deed : Deed} (h : deed.step? ≠ some .chainId) (node : Node) :
    node.toldChainId? [deed] = none := by
  rw [toldChainId?, accepted_singleton]
  split <;> simp [h]

end Chain.Node

namespace Client

/-- From one session to another, some deeds were done: the node has counted the transactions that it
took, and the client knows the number of the chain if it did so before or was told it. -/
structure Recalled (s s' : Session) (added : List Deed) : Prop where
  deeds : s'.deeds = s.deeds ++ added
  node : s'.node = s.node.afterDeeds added
  client : s'.client =
    { s.client with chainId := s.client.chainId.or (s.node.toldChainId? added) }
  /-- Each transaction that was completed bears the number that the client knows. -/
  builds : ∀ deed ∈ added, ∀ chain, deed.chain? = some chain → s'.client.chainId = some chain

/-- The client remembers what it was told. -/
def Recalls (s s' : Session) : Prop := ∃ added, Recalled s s' added

instance : Follows Recalls where
  refl s := ⟨[], by simp, rfl, by simp [Chain.Node.toldChainId?, Chain.Node.accepted], by simp⟩
  trans := by
    rintro s mid s' ⟨first, h⟩ ⟨second, h'⟩
    refine ⟨first ++ second, ?_, ?_, ?_, fun deed hdeed chain hchain => ?_⟩
    · rw [h'.deeds, h.deeds, List.append_assoc]
    · rw [h'.node, h.node, Chain.Node.afterDeeds_append]
    · rw [h'.client, h.node, h.client, Chain.Node.toldChainId?_append, Option.or_assoc]
    · rcases List.mem_append.1 hdeed with hdeed | hdeed
      · rw [h'.client, h.builds deed hdeed chain hchain]
        rfl
      · exact h'.builds deed hdeed chain hchain

/-- Other deeds leave nothing to remember. -/
theorem recalls_of_deed {deed : Deed} (hdeeds : s'.deeds = s.deeds ++ [deed])
    (hnode : s'.node = s.node.afterDeed deed) (hclient : s'.client = s.client)
    (h : deed.isMemorable = false) : Recalls s s' := by
  obtain ⟨hchain, hbuild⟩ := Deed.step?_of_not_isMemorable h
  refine ⟨[deed], hdeeds, hnode, ?_, fun other hother chain hother' => ?_⟩
  · rw [Chain.Node.toldChainId?_singleton hchain, Option.or_none]
    exact hclient
  · obtain rfl := List.mem_singleton.1 hother
    rw [hbuild] at hother'
    cases hother'

theorem recalls_of_eq (hdeeds : s'.deeds = s.deeds) (hnode : s'.node = s.node)
    (hclient : s'.client = s.client) : Recalls s s' := by
  refine ⟨[], by simp [hdeeds], hnode, ?_, by simp⟩
  rw [hclient]
  simp [Chain.Node.toldChainId?, Chain.Node.accepted]

theorem recalls_of_onlyConverses (h : OnlyConverses s s') : Recalls s s' := by
  rw [OnlyConverses] at h
  exact recalls_of_eq (by rw [h]) (by rw [h]) (by rw [h])

theorem access_recalls {step : Chain.Step} {event : Event}
    (hstep : (Deed.access named event).step? = some step) (hsend : step ≠ .send)
    (h : (Deed.access named event).isMemorable = false) :
    Keeps Recalls (access named step event) := by
  intro s
  rw [access_after]
  exact recalls_of_deed rfl (Chain.Node.afterDeed_of_ne hstep hsend).symm rfl h

/-! ## Asking for the number of the chain -/

theorem queryChainId_of_some {number : Int} (h : s.client.chainId = some number) :
    queryChainId named s = .ok number s := by
  refine (bind_of_ok rfl).trans ?_
  rw [h]
  rfl

theorem queryChainId_of_refused {fault : Fault} (h : s.client.chainId = none)
    (hrefused : s.node.outage? .chainId = some fault) :
    queryChainId named s =
      .error (told .chainUnknown none fault) (accessing named .chainId .chainId s) := by
  have hquery : naming .chainUnknown none (access named .chainId .chainId) s =
      .error (told .chainUnknown none fault) (accessing named .chainId .chainId s) :=
    tryCatch_of_error (access_of_some hrefused)
  refine (bind_of_ok rfl).trans ?_
  rw [h]
  exact bind_of_error hquery

theorem queryChainId_of_none (h : s.client.chainId = none)
    (htaken : s.node.outage? .chainId = none) : queryChainId named s =
      .ok s.node.chainId
        { accessing named .chainId .chainId s with client.chainId := some s.node.chainId } := by
  have hquery : naming .chainUnknown none (access named .chainId .chainId) s =
      .ok () (accessing named .chainId .chainId s) := naming_eq_ok.2 (access_of_none htaken)
  refine (bind_of_ok rfl).trans ?_
  rw [h]
  exact (bind_of_ok hquery).trans rfl

/-- The number that is answered is the one that the client knows, or that the node tells. -/
theorem queryChainId_answer {chain : Int} (h : queryChainId named s = .ok chain s') :
    chain = s.client.chainId.getD s.node.chainId ∧
      s'.client = { s.client with chainId := some chain } := by
  cases hknown : s.client.chainId with
  | some number =>
    rw [queryChainId_of_some hknown] at h
    cases h
    exact ⟨rfl, by rw [← hknown]⟩
  | none =>
    cases hrefused : s.node.outage? .chainId with
    | some fault =>
      rw [queryChainId_of_refused hknown hrefused] at h
      cases h
    | none =>
      rw [queryChainId_of_none hknown hrefused] at h
      cases h
      exact ⟨rfl, rfl⟩

/-- The number of the chain is known once the query for it was not refused. -/
theorem queryChainId_recalls (named : Option Contract) : Keeps Recalls (queryChainId named) := by
  intro s
  have hcounted : s.node.afterDeed (.access named .chainId) = s.node.accessed .chainId :=
    Chain.Node.afterDeed_of_ne rfl (by decide)
  cases hknown : s.client.chainId with
  | some number =>
    rw [after_of_ok (queryChainId_of_some hknown)]
    exact Follows.refl s
  | none =>
    cases hrefused : s.node.outage? .chainId with
    | some fault =>
      have hrefusal : s.node.refusal? (.access named .chainId) = some fault := hrefused
      rw [after_of_error (queryChainId_of_refused hknown hrefused)]
      refine ⟨[.access named .chainId], rfl, ?_, ?_, by simp [Deed.chain?]⟩
      · exact hcounted.symm
      · rw [Chain.Node.toldChainId?, Chain.Node.accepted_singleton, hrefusal, if_neg nofun,
          Option.or_none]
        rfl
    | none =>
      have htaken : s.node.refusal? (.access named .chainId) = none := hrefused
      rw [after_of_ok (queryChainId_of_none hknown hrefused)]
      refine ⟨[.access named .chainId], rfl, ?_, ?_, by simp [Deed.chain?]⟩
      · exact hcounted.symm
      · rw [Chain.Node.toldChainId?, Chain.Node.accepted_singleton, htaken, hknown]
        rfl

/-! ## Transactions -/

theorem send_recalls (named : Option Contract) (nonce : Int) : Keeps Recalls (send named nonce) := by
  intro s
  have hchain : (Deed.access named (.send nonce)).step? ≠ some .chainId := nofun
  rw [send_after]
  refine ⟨[.access named (.send nonce)], rfl, rfl, ?_, by simp [Deed.chain?]⟩
  rw [Chain.Node.toldChainId?_singleton hchain, Option.or_none]

/-- A transaction is completed with the number of the chain that the client knows. -/
theorem build_recalls {account : String} {nonce chain : Int} {data : Octets}
    (hknown : s.client.chainId = some chain) :
    Recalls s ((access named .build (.build account nonce chain data)).after s) := by
  have hchain : (Deed.access named (.build account nonce chain data)).step? ≠ some .chainId := nofun
  have hcounted : s.node.afterDeed (.access named (.build account nonce chain data)) =
      s.node.accessed .build := Chain.Node.afterDeed_of_ne rfl (by decide)
  rw [access_after]
  refine ⟨[.access named (.build account nonce chain data)], rfl, ?_, ?_, ?_⟩
  · exact hcounted.symm
  · rw [Chain.Node.toldChainId?_singleton hchain, Option.or_none]
    rfl
  · intro deed hdeed other hother
    obtain rfl := List.mem_singleton.1 hdeed
    cases hother
    exact hknown

theorem broadcast_recalls (contract : Contract) (data : Octets) :
    Keeps Recalls (broadcast contract data) := by
  refine keeps_get.bind fun session => ?_
  refine (access_recalls rfl (by decide) rfl).bind fun _ => keeps_get.bind fun session s => ?_
  refine after_bind (queryChainId_recalls _ s) fun chain mid hchain => ?_
  have hknown : mid.client.chainId = some chain := by rw [(queryChainId_answer hchain).2]
  refine after_bind (build_recalls hknown) fun _ built _ => ?_
  rw [← bind_assoc]
  refine (send_recalls _ _).bind (fun _ => keeps_get.bind fun session => ?_) built
  exact Keeps.bind (fun s => recalls_of_eq rfl rfl rfl) fun _ => keeps_pure _

theorem transact_recalls (contract : Contract) (interface : Value) (bytecode : Octets)
    (arguments : List Value) : Keeps Recalls (transact contract interface bytecode arguments) := by
  refine Keeps.bind ?_ fun data => (broadcast_recalls contract data).bind fun hash => ?_
  · refine Keeps.bind (fun s => ?_) fun _ => (keeps_ofExcept _).bind fun data => ?_
    · exact recalls_of_deed rfl rfl rfl rfl
    · exact (access_recalls rfl (by decide) rfl).bind fun _ => keeps_pure _
  · refine Keeps.bind ?_ fun receipt => keeps_pure _
    refine keeps_get.bind fun session => (access_recalls rfl (by decide) rfl).bind fun _ => ?_
    refine keeps_get.bind fun waited => ?_
    cases waited.node.receipt? hash with
    | some receipt => exact keeps_pure receipt
    | none => exact keeps_throw _

/-- **What a creation leaves to remember.** However the creation of a contract ends, the client
remembers the number of the chain if it was told it. -/
theorem deploy_recalls (contract : Contract) (interface : Value) (bytecode : Octets)
    (arguments : List Value) : Keeps Recalls (deploy contract interface bytecode arguments) := by
  rw [deploy_eq]
  refine keeps_get.bind fun session => ?_
  refine ((notice_keeps _).mono recalls_of_onlyConverses).bind fun _ => ?_
  refine ((consent_keeps _ _ _).mono recalls_of_onlyConverses).bind fun _ => ?_
  refine (keeps_ofExcept _).bind fun _ => Keeps.bind (fun s => ?_) fun result s => ?_
  · rw [naming_after]
    exact transact_recalls contract interface bytecode arguments s
  · rw [conclude_after]
    exact recalls_of_eq rfl rfl rfl

end Client

end Rollout
