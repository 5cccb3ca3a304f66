import Rollout.Proofs.Client

/-!
# Outages

An access is refused by the node during an outage, and the beginning of a transaction is refused if
the constructor does not take the arguments. What is refused is the last thing that an action does:
the action ends with the fault that is told of the refusal (`Action.Heeds`). While a contract is
created, an error of the network is told as a failure of its transaction, but where the number of the
chain is asked for, no contract is told (`Client.deploy_heeds`).
-/

namespace Rollout

open Rollout.Action

variable {α β : Type} {s s' : Session} {contract : Contract} {named : Option Contract}

/-! ## Refusals -/

/-- The step at which a deed accesses the node, if it does. -/
def Deed.step? : Deed → Option Chain.Step
  | access _ (.constructor _) => some .constructor
  | access _ (.nonce _) => some .nonce
  | access _ .chainId => some .chainId
  | access _ (.build _ _ _ _) => some .build
  | access _ (.send _) => some .send
  | access _ (.receipt _ _) => some .receipt
  | access _ (.code _) => some .code
  | _ => none

theorem Deed.access_of_step? {deed : Deed} {step : Chain.Step} (h : deed.step? = some step) :
    ∃ named event, deed = .access named event ∧ event.outline named = .access named step := by
  cases deed with
  | access named event =>
    refine ⟨named, event, rfl, ?_⟩
    cases event <;> cases h <;> rfl
  | _ => cases h

/-- The contract for which a deed is done, if it is done for one. -/
def Deed.contract? : Deed → Option Contract
  | access contract _ => contract
  | began contract _ _ _ | called contract | answered contract _ | found contract _
  | recorded contract _ => some contract

/-- Nothing can refuse a deed: it is a request to the web, or tells how a resolution goes. -/
def Deed.isSilent : Deed → Bool
  | access _ (.request _ _) | called _ | answered _ _ | found _ _ | recorded _ _ => true
  | _ => false

theorem Deed.step?_of_isSilent {deed : Deed} (h : deed.isSilent) : deed.step? = none := by
  cases deed with
  | access named event => cases event <;> first | rfl | cases h
  | _ => rfl

namespace Chain.Node

/-- The fault with which a deed is refused, if it is. -/
def refusal? (node : Node) : Deed → Option Fault
  | .began _ interface bytecode arguments =>
    match Abi.creationData interface bytecode arguments with
    | .ok _ => none
    | .error fault => some fault
  | deed => deed.step?.bind node.outage?

theorem refusal?_access (node : Node) (named : Option Contract) (event : Event) :
    node.refusal? (.access named event) = (Deed.access named event).step?.bind node.outage? := rfl

theorem refusal?_of_isSilent {deed : Deed} (h : deed.isSilent) (node : Node) :
    node.refusal? deed = none := by
  cases deed with
  | access named event => rw [refusal?_access, Deed.step?_of_isSilent h, Option.bind_none]
  | began contract interface bytecode arguments => cases h
  | _ => rfl

/-- A node after a deed: an access is counted, and so is a transaction that the node takes. -/
def afterDeed (node : Node) (deed : Deed) : Node :=
  match deed.step? with
  | none => node
  | some step =>
    if step = .send ∧ node.refusal? deed = none then
      { node.accessed step with sent := node.sent + 1 }
    else node.accessed step

/-- A node after deeds. -/
def afterDeeds (node : Node) (deeds : List Deed) : Node := deeds.foldl afterDeed node

variable {node : Node} {deeds : List Deed}

theorem afterDeed_of_none {deed : Deed} (h : deed.step? = none) : node.afterDeed deed = node := by
  rw [afterDeed, h]

theorem afterDeed_of_ne {deed : Deed} {step : Step} (h : deed.step? = some step)
    (hsend : step ≠ .send) : node.afterDeed deed = node.accessed step := by
  rw [afterDeed, h]
  exact if_neg fun hand => hsend hand.1

theorem afterDeed_of_send {deed : Deed} (h : deed.step? = some .send) :
    node.afterDeed deed =
      if node.refusal? deed = none then { node.accessed .send with sent := node.sent + 1 }
      else node.accessed .send := by
  rw [afterDeed, h]
  simp only [true_and]

theorem afterDeeds_append (node : Node) (deeds more : List Deed) :
    node.afterDeeds (deeds ++ more) = (node.afterDeeds deeds).afterDeeds more :=
  List.foldl_append

theorem afterDeed_of_isSilent {deed : Deed} (h : deed.isSilent) : node.afterDeed deed = node :=
  afterDeed_of_none (Deed.step?_of_isSilent h)

theorem afterDeeds_of_isSilent (h : ∀ deed ∈ deeds, deed.isSilent) :
    node.afterDeeds deeds = node := by
  induction deeds with
  | nil => rfl
  | cons deed rest ih =>
    have hfirst : node.afterDeed deed = node := afterDeed_of_isSilent (h deed List.mem_cons_self)
    rw [afterDeeds, List.foldl_cons, hfirst]
    exact ih fun other hother => h other (List.mem_cons_of_mem _ hother)

end Chain.Node

namespace Action

variable {x : Action α} {f : α → Action β} {tell tell' : Deed → Fault → Fault}

/-- An action adds deeds that the node counts. One that is refused is the last of them, and the action
ends with the fault that is told of the refusal. -/
structure Stops (tell : Deed → Fault → Fault) (x : Action α) (s : Session) (added : List Deed) :
    Prop where
  deeds : (x.after s).deeds = s.deeds ++ added
  node : (x.after s).node = s.node.afterDeeds added
  refused : ∀ {before deed after fault}, added = before ++ deed :: after →
    (s.node.afterDeeds before).refusal? deed = some fault →
      after = [] ∧ x s = .error (tell deed fault) (x.after s)

/-- An action stops where something is refused. -/
def Heeds (tell : Deed → Fault → Fault) (x : Action α) (s : Session) : Prop :=
  ∃ added, Stops tell x s added

/-- An action that nothing can refuse has nothing to heed. -/
theorem heeds_of_silent (added : List Deed) (hdeeds : (x.after s).deeds = s.deeds ++ added)
    (hnode : (x.after s).node = s.node) (hsilent : ∀ deed ∈ added, deed.isSilent) :
    Heeds tell x s := by
  refine ⟨added, hdeeds, ?_, fun hsplit hrefused => ?_⟩
  · rw [hnode, Chain.Node.afterDeeds_of_isSilent hsilent]
  · have hdeed := hsilent _ (hsplit ▸ List.mem_append_right _ List.mem_cons_self)
    rw [Chain.Node.refusal?_of_isSilent hdeed] at hrefused
    cases hrefused

theorem heeds_of_eq (hdeeds : (x.after s).deeds = s.deeds) (hnode : (x.after s).node = s.node) :
    Heeds tell x s :=
  heeds_of_silent [] (by simp [hdeeds]) hnode (by simp)

theorem heeds_pure (a : α) (s : Session) : Heeds tell (pure a : Action α) s := heeds_of_eq rfl rfl

theorem heeds_ofExcept (r : Except Fault α) (s : Session) : Heeds tell (ofExcept r) s :=
  heeds_of_eq (by rw [ofExcept_after]) (by rw [ofExcept_after])

/-- In a sequence the second part is not done where the first one has stopped. -/
theorem Heeds.bind (hx : Heeds tell x s) (hf : ∀ a mid, x s = .ok a mid → Heeds tell (f a) mid) :
    Heeds tell (x >>= f) s := by
  obtain ⟨first, hfirst⟩ := hx
  cases h : x s with
  | error fault mid =>
    have hmid := after_of_error h
    have hbind := bind_of_error (f := f) h
    refine ⟨first, ?_, ?_, fun hsplit hrefused => ?_⟩
    · rw [after_of_error hbind, ← hmid, hfirst.deeds]
    · rw [after_of_error hbind, ← hmid, hfirst.node]
    · obtain ⟨hlast, herror⟩ := hfirst.refused hsplit hrefused
      rw [h] at herror
      cases herror
      exact ⟨hlast, by rw [hbind, after_of_error hbind, hmid]⟩
  | ok a mid =>
    have hmid := after_of_ok h
    have hbind : (x >>= f) s = f a mid := bind_of_ok h
    have hafter : (x >>= f).after s = (f a).after mid := by rw [after, hbind]; rfl
    have hdeeds := hfirst.deeds
    have hnode := hfirst.node
    rw [hmid] at hdeeds hnode
    -- the first part ended with a result, so nothing in it was refused
    have hclean : ∀ before deed after fault, first = before ++ deed :: after →
        (s.node.afterDeeds before).refusal? deed ≠ some fault := by
      intro before deed after fault hsplit hrefused
      have herror := (hfirst.refused hsplit hrefused).2
      rw [h] at herror
      cases herror
    obtain ⟨second, hsecond⟩ := hf a mid h
    refine ⟨first ++ second, ?_, ?_, fun {before deed after fault} hsplit hrefused => ?_⟩
    · rw [hafter, hsecond.deeds, hdeeds, List.append_assoc]
    · rw [hafter, hsecond.node, hnode, Chain.Node.afterDeeds_append]
    · rw [hafter, hbind]
      rcases List.append_eq_append_iff.1 hsplit with ⟨rest, rfl, hrest⟩ | ⟨rest, hcut, hrest⟩
      · rw [Chain.Node.afterDeeds_append, ← hnode] at hrefused
        exact hsecond.refused hrest hrefused
      · cases rest with
        | nil =>
          rw [List.append_nil] at hcut
          rw [← hcut, ← hnode] at hrefused
          have hfirst' : second = [] ++ deed :: after := hrest.symm
          exact hsecond.refused hfirst' hrefused
        | cons other rest =>
          obtain ⟨rfl, -⟩ := List.cons.inj hrest
          exact absurd hrefused (hclean _ _ _ _ hcut)

theorem Heeds.congr {y : Action α} (hx : Heeds tell x s) (hrun : y s = x s) : Heeds tell y s := by
  obtain ⟨added, hstops⟩ := hx
  have hafter : y.after s = x.after s := by rw [after, after, hrun]
  exact ⟨added, hafter ▸ hstops.deeds, hafter ▸ hstops.node,
    fun hsplit hrefused => hrun ▸ hafter ▸ hstops.refused hsplit hrefused⟩

theorem heeds_get {f : Session → Action β} (h : Heeds tell (f s) s) : Heeds tell (get >>= f) s :=
  h.congr rfl

/-- What is told of a refusal matters only for what is done. -/
theorem Heeds.mono (h : Heeds tell x s) (hsame : ∀ added, (x.after s).deeds = s.deeds ++ added →
    ∀ deed ∈ added, ∀ node fault, Chain.Node.refusal? node deed = some fault →
      tell deed fault = tell' deed fault) : Heeds tell' x s := by
  obtain ⟨added, hstops⟩ := h
  refine ⟨added, hstops.deeds, hstops.node, fun hsplit hrefused => ?_⟩
  have hmem := hsplit ▸ List.mem_append_right _ List.mem_cons_self
  rw [← hsame added hstops.deeds _ hmem _ _ hrefused]
  exact hstops.refused hsplit hrefused

/-- A fault that is handled is told otherwise. -/
theorem Heeds.tryCatch (hx : Heeds tell x s) {handle : Fault → Action α} {retell : Fault → Fault}
    (hhandle : ∀ fault mid, ∃ at', handle fault mid = .error (retell fault) at' ∧
      at'.deeds = mid.deeds ∧ at'.node = mid.node) :
    Heeds (fun deed fault => retell (tell deed fault)) (tryCatchThe Fault x handle) s := by
  obtain ⟨added, hstops⟩ := hx
  have hdeeds := hstops.deeds
  have hnode := hstops.node
  cases h : x s with
  | ok a mid =>
    have hcatch : tryCatchThe Fault x handle s = .ok a mid := tryCatch_of_ok h
    rw [after_of_ok h] at hdeeds hnode
    refine ⟨added, ?_, ?_, fun hsplit hrefused => ?_⟩
    · rw [after_of_ok hcatch, hdeeds]
    · rw [after_of_ok hcatch, hnode]
    · have herror := (hstops.refused hsplit hrefused).2
      rw [h] at herror
      cases herror
  | error fault mid =>
    obtain ⟨at', hretold, hsame, hsame'⟩ := hhandle fault mid
    have hcatch := (tryCatch_of_error h).trans hretold
    rw [after_of_error h] at hdeeds hnode
    refine ⟨added, ?_, ?_, fun hsplit hrefused => ?_⟩
    · rw [after_of_error hcatch, hsame, hdeeds]
    · rw [after_of_error hcatch, hsame', hnode]
    · obtain ⟨hlast, herror⟩ := hstops.refused hsplit hrefused
      rw [h] at herror
      cases herror
      exact ⟨hlast, by rw [hcatch, after_of_error hcatch]⟩

/-- An action that does one thing stops at the refusal of it. -/
theorem heeds_of_deed (deed : Deed) (hdeeds : (x.after s).deeds = s.deeds ++ [deed])
    (hnode : (x.after s).node = s.node.afterDeed deed)
    (hrefused : ∀ fault, s.node.refusal? deed = some fault →
      x s = .error (tell deed fault) (x.after s)) : Heeds tell x s := by
  refine ⟨[deed], hdeeds, hnode, fun {before _ after fault} hsplit hrefusal => ?_⟩
  cases before with
  | nil =>
    obtain ⟨rfl, rfl⟩ := List.cons.inj hsplit
    exact ⟨rfl, hrefused fault hrefusal⟩
  | cons first rest => simp at hsplit

/-- The beginning of a transaction is refused if there are no data for it. -/
theorem heeds_began {interface : Value} {bytecode : Octets} {arguments : List Value}
    (htell : ∀ fault, tell (.began contract interface bytecode arguments) fault = fault)
    (s : Session) : Heeds tell (log (.began contract interface bytecode arguments) >>= fun _ =>
      ofExcept (Abi.creationData interface bytecode arguments)) s := by
  refine heeds_of_deed (.began contract interface bytecode arguments) ?_ ?_ fun fault hrefused => ?_
  · cases Abi.creationData interface bytecode arguments <;> rfl
  · rw [Chain.Node.afterDeed_of_none rfl]
    cases Abi.creationData interface bytecode arguments <;> rfl
  · rw [htell]
    rw [Chain.Node.refusal?] at hrefused
    cases hdata : Abi.creationData interface bytecode arguments with
    | ok data =>
      rw [hdata] at hrefused
      cases hrefused
    | error refused =>
      rw [hdata] at hrefused
      cases hrefused
      rfl

theorem heeds_access {step : Chain.Step} {event : Event}
    (hstep : (Deed.access named event).step? = some step) (hsend : step ≠ .send)
    (htell : ∀ fault, tell (.access named event) fault = fault) (s : Session) :
    Heeds tell (access named step event) s := by
  refine heeds_of_deed (.access named event) ?_ ?_ fun fault hrefused => ?_
  · rw [access_after, accessing_deeds]
  · rw [access_after, accessing_node, Chain.Node.afterDeed_of_ne hstep hsend]
  · rw [Chain.Node.refusal?_access, hstep] at hrefused
    rw [htell, access_after]
    exact access_of_some hrefused

/-- Broadcasting a transaction, which is counted once the node has taken it. -/
def send (named : Option Contract) (nonce : Int) : Action Unit := do
  access named .send (.send nonce)
  modify fun session => { session with node.sent := session.node.sent + 1 }

/-- However a broadcast ends, it is kept as a deed, and the node counts the transaction if it has taken
it. -/
theorem send_after (named : Option Contract) (nonce : Int) (s : Session) :
    (send named nonce).after s = { s with
      deeds := s.deeds ++ [.access named (.send nonce)]
      node := s.node.afterDeed (.access named (.send nonce)) } := by
  cases h : s.node.outage? .send with
  | some fault =>
    have hrefusal : s.node.refusal? (.access named (.send nonce)) = some fault := h
    have hsend : send named nonce s = .error fault _ := bind_of_error (access_of_some h)
    rw [after_of_error hsend, Chain.Node.afterDeed_of_send rfl, if_neg (by simp [hrefusal])]
    rfl
  | none =>
    have hrefusal : s.node.refusal? (.access named (.send nonce)) = none := h
    have hsend : send named nonce s = .ok () _ := (bind_of_ok (access_of_none h)).trans rfl
    rw [after_of_ok hsend, Chain.Node.afterDeed_of_send rfl, if_pos hrefusal]
    rfl

theorem heeds_send {nonce : Int} (htell : ∀ fault, tell (.access named (.send nonce)) fault = fault)
    (s : Session) : Heeds tell (send named nonce) s := by
  refine heeds_of_deed (.access named (.send nonce)) ?_ ?_ fun fault hrefused => ?_
  · rw [send_after]
  · rw [send_after]
  · have hsend : send named nonce s = .error fault _ := bind_of_error (access_of_some hrefused)
    rw [htell, after_of_error hsend, hsend]

end Action

namespace Client

/-- An error of the network, told as a cause at a contract; any other fault is told as it is. -/
def told (cause : String → Cause) (named : Option Contract) (fault : Fault) : Fault :=
  if fault.isNetworkError then .deployment (cause fault.text) named else fault

/-- What is told once as a cause is not told otherwise. -/
theorem told_told (cause cause' : String → Cause) (named named' : Option Contract) (fault : Fault) :
    told cause' named' (told cause named fault) = told cause named fault := by
  by_cases h : fault.isNetworkError
  · have htold : told cause named fault = .deployment (cause fault.text) named := if_pos h
    rw [htold]
    rfl
  · have htold : told cause named fault = fault := if_neg h
    rw [htold]
    exact if_neg h

theorem heeds_naming {x : Action α} {tell : Deed → Fault → Fault} {cause : String → Cause}
    (h : Heeds tell x s) :
    Heeds (fun deed fault => told cause named (tell deed fault)) (naming cause named x) s :=
  h.tryCatch fun _ mid => ⟨mid, rfl, rfl, rfl⟩

/-- What is told of a refusal within a transaction. -/
def blameWithin : Deed → Fault → Fault
  | .access _ .chainId, fault => told .chainUnknown none fault
  | _, fault => fault

/-- What is told of a refusal. The number of the chain and the code at an address are asked for
without telling for which contract. -/
def blame : Deed → Fault → Fault
  | .began contract _ _ _, fault => told .transactionFailed (some contract) fault
  | .access _ .chainId, fault => told .chainUnknown none fault
  | .access _ (.code address), fault => told (.codeUnknown address) none fault
  | .access named _, fault => told .transactionFailed named fault
  | _, fault => fault

theorem heeds_of_conversation {x : Action α} {tell : Deed → Fault → Fault}
    (h : Keeps OnlyConverses x) (s : Session) : Heeds tell x s :=
  heeds_of_eq (by rw [h s]) (by rw [h s])

/-- A query whose refusal is told as a cause stops at it. -/
theorem query_heeds {tell : Deed → Fault → Fault} {cause : String → Cause}
    {culprit : Option Contract} {step : Chain.Step} {event : Event}
    (hstep : (Deed.access named event).step? = some step) (hsend : step ≠ .send)
    (htell : ∀ fault, tell (.access named event) fault = told cause culprit fault) (s : Session) :
    Heeds tell (naming cause culprit (access named step event)) s := by
  have haccess : Heeds (fun _ fault => fault) (access named step event) s :=
    heeds_access hstep hsend (fun _ => rfl) s
  refine (heeds_naming haccess).mono fun added hadded deed hdeed _ fault _ => ?_
  rw [naming_after, access_after, accessing_deeds] at hadded
  obtain rfl := List.append_cancel_left hadded
  obtain rfl := List.mem_singleton.1 hdeed
  exact (htell fault).symm

theorem queryChainId_heeds (named : Option Contract) (s : Session) :
    Heeds blameWithin (queryChainId named) s := by
  refine heeds_get ?_
  cases s.client.chainId with
  | some number => exact heeds_pure number s
  | none =>
    refine (query_heeds rfl (by decide) (fun _ => rfl) s).bind fun _ mid _ => heeds_get ?_
    exact heeds_of_eq rfl rfl

theorem queryCode_heeds (address : String) (s : Session) : Heeds blame (queryCode address) s := by
  refine (query_heeds rfl (by decide) (fun _ => rfl) s).bind fun _ mid _ => ?_
  exact heeds_get (heeds_pure _ mid)

theorem broadcast_heeds (contract : Contract) (data : Octets) (s : Session) :
    Heeds blameWithin (broadcast contract data) s := by
  refine heeds_get ((heeds_access rfl (by decide) (fun _ => rfl) s).bind fun _ mid _ => ?_)
  refine heeds_get ((queryChainId_heeds _ mid).bind fun chain mid _ => ?_)
  refine (heeds_access rfl (by decide) (fun _ => rfl) mid).bind fun _ mid _ => ?_
  rw [← bind_assoc]
  exact (heeds_send (fun _ => rfl) mid).bind fun _ mid _ => heeds_of_eq rfl rfl

theorem transact_heeds (contract : Contract) (interface : Value) (bytecode : Octets)
    (arguments : List Value) (s : Session) :
    Heeds blameWithin (transact contract interface bytecode arguments) s := by
  refine Heeds.bind ?_ fun data mid _ => (broadcast_heeds contract data mid).bind fun hash mid _ => ?_
  · rw [assemble, ← bind_assoc]
    refine (heeds_began (fun _ => rfl) s).bind fun data mid _ => ?_
    exact (heeds_access rfl (by decide) (fun _ => rfl) mid).bind fun _ mid _ => heeds_pure data mid
  · refine Heeds.bind (heeds_get ?_) fun receipt mid _ => heeds_pure _ mid
    refine (heeds_access rfl (by decide) (fun _ => rfl) mid).bind fun _ mid _ => heeds_get ?_
    cases mid.node.receipt? hash with
    | some receipt => exact heeds_pure receipt mid
    | none => exact heeds_ofExcept (.error _) mid

theorem conclude_heeds {tell : Deed → Fault → Fault} (contract : Contract) (hash : Octets)
    (receipt : Chain.Receipt) (s : Session) : Heeds tell (conclude contract hash receipt) s :=
  heeds_of_eq (by rw [conclude_after]) (by rw [conclude_after])

theorem mem_creationScript {outline : Outline} {known : Bool}
    (h : outline ∈ creationScript contract known) :
    ∃ step, step ≠ .code ∧ outline = .access (some contract) step := by
  revert h outline
  cases known <;> simp [creationScript]

/-- **What becomes of an outage while a contract is created.** The creation stops where something is
refused. An error of the network is told as a failure of the contract's transaction, but where the
number of the chain is asked for, no contract is told. -/
theorem deploy_heeds (contract : Contract) (interface : Value) (bytecode : Octets)
    (arguments : List Value) (s : Session) :
    Heeds blame (deploy contract interface bytecode arguments) s := by
  rw [deploy_eq]
  refine heeds_get ((heeds_of_conversation (notice_keeps _) s).bind fun _ mid _ => ?_)
  refine (heeds_of_conversation (consent_keeps _ _ _) mid).bind fun _ mid _ => ?_
  refine (heeds_ofExcept _ mid).bind fun _ mid _ => ?_
  refine Heeds.bind ?_ fun result mid _ => conclude_heeds contract result.1 result.2 mid
  refine (heeds_naming (transact_heeds contract interface bytecode arguments mid)).mono ?_
  intro added hadded deed hdeed node fault hrefused
  cases deed with
  | began other interface' bytecode' arguments' =>
    obtain ⟨done, hdone, hfor⟩ :=
      (onlyDoneFor_kept contract).toKeptByTransaction.transact interface bytecode arguments mid
    rw [naming_after] at hadded
    obtain rfl := List.append_cancel_left (hadded.symm.trans hdone)
    cases hfor _ hdeed
    rfl
  | access named event =>
    -- each access is made for the contract that is created, and none is for code
    have hscript : Scripted (naming .transactionFailed (some contract)
        (transact contract interface bytecode arguments)) mid _ :=
      scripted_naming (transact_scripted contract interface bytecode arguments mid)
    obtain ⟨step, hstep, -⟩ := Option.bind_eq_some_iff.1 hrefused
    obtain ⟨_, _, hsame, houtline⟩ := Deed.access_of_step? hstep
    obtain ⟨rfl, rfl⟩ := Deed.access.inj hsame
    obtain ⟨step', hne, houtline'⟩ :=
      mem_creationScript (hscript.mem hadded hdeed (congrArg some houtline))
    obtain ⟨rfl, rfl⟩ := Outline.access.inj houtline'
    cases event with
    | chainId => exact told_told _ _ _ _ fault
    | code address => exact absurd (Option.some.inj hstep.symm) hne
    | _ => rfl
  | _ => cases hrefused

end Client

end Rollout
