import Rollout.Proofs.Client.Plan

/-!
# One client, many requests

A client is asked for the number of the chain, for the code at addresses, and to create contracts, one
request after another (`Turns`); in between the node may change as it likes, and any of its answers may
be a refusal. What is done for a request follows a plan up to the first refusal, which ends the
request. The number of the chain is asked for until it is told once, and every transaction bears it.
The transactions that the node takes are numbered without a gap (`turns_disciplined`).
-/

namespace Rollout.Client

open Rollout.Action

variable {s s' : Session} {creation : Creation} {deed : Deed} {performed : List Deed}

/-! ## Plans of creations -/

/-- What stands in the first part of a plan has behind it all that the plan has before. -/
theorem mem_of_prefix {before after : List Deed} {other : Deed}
    (hplan : performed <+: before ++ other :: after) (hdeed : deed ∈ performed)
    (hnot : deed ∉ before) : other ∈ performed := by
  obtain ⟨rest, hrest⟩ := hplan
  rcases List.append_eq_append_iff.1 hrest with ⟨more, rfl, -⟩ | ⟨more, rfl, hmore⟩
  · exact absurd (List.mem_append_left _ hdeed) hnot
  · cases more with
    | nil => exact absurd (by simpa using hdeed) hnot
    | cons first more =>
      obtain ⟨rfl, -⟩ := List.cons.inj hmore
      exact List.mem_append_right _ List.mem_cons_self

namespace Creation

/-- One transaction at most is broadcast, with the number that the node answers with. -/
theorem plan_sends (creation : Creation) (s : Session) :
    (creation.plan s).filterMap Deed.send? = [] ∨
      (creation.plan s).filterMap Deed.send? =
        [(some creation.contract, s.node.transactionCount)] := by
  rw [plan]
  cases Abi.creationData creation.interface creation.bytecode creation.arguments with
  | error fault => exact .inl rfl
  | ok data =>
    refine .inr ?_
    cases hknown : s.client.chainId <;> simp only [events, broadcastEvents, hknown] <;> rfl

/-- A transaction is broadcast only after the node was asked for its number. -/
theorem nonce_mem_of_send (hplan : performed <+: creation.plan s) (hdeed : deed ∈ performed)
    (hsend : deed.send?.isSome) :
    .access (some creation.contract) (.nonce s.client.account) ∈ performed := by
  rw [plan] at hplan
  cases hdata : Abi.creationData creation.interface creation.bytecode creation.arguments with
  | error fault =>
    rw [hdata] at hplan
    obtain rfl := List.mem_singleton.1 (hplan.subset hdeed)
    cases hsend
  | ok data =>
    rw [hdata] at hplan
    have hsplit : creation.beginning ::
        (creation.events data s).map (Deed.access (some creation.contract)) =
      [creation.beginning, .access (some creation.contract) (.constructor creation.arguments)]
        ++ .access (some creation.contract) (.nonce s.client.account)
          :: ((broadcastEvents data s).tail.map (.access (some creation.contract))
            ++ [.access (some creation.contract) (.receipt
              (Chain.hashOf s.node.sent) s.client.receiptTimeout)]) := by
      simp [events, broadcastEvents]
    refine mem_of_prefix (hsplit ▸ hplan) hdeed fun hmem => ?_
    simp only [List.mem_cons, List.not_mem_nil, or_false] at hmem
    obtain rfl | rfl := hmem <;> cases hsend

theorem Agreed.congr (h : creation.Agreed s) (hclient : s'.client = s.client)
    (hinput : s'.input = s.input) : creation.Agreed s' := by
  cases h with
  | signs hsigns => exact .signs (hclient ▸ hsigns)
  | answers hsigns hparameters hreads hall hconsents =>
    exact .answers (hclient ▸ hsigns) hparameters (hinput ▸ hreads) hall hconsents

/-- Whether a creation succeeds depends on the node, the client and the input. -/
theorem Succeeds.congr {address : Address} (h : creation.Succeeds s address)
    (hnode : s'.node = s.node) (hclient : s'.client = s.client) (hinput : s'.input = s.input) :
    creation.Succeeds s' address where
  agreed := h.agreed.congr hclient hinput
  creatable := h.creatable
  encodes := h.encodes
  allowed := by
    rw [plan_congr hnode hclient, hnode]
    exact h.allowed
  succeeded := hnode ▸ h.succeeded
  names := hnode ▸ h.names

end Creation

/-! ## Requests -/

/-- What a client can be asked for. -/
inductive Request where
  /-- The number of the chain. -/
  | chainId
  /-- The code at an address. -/
  | code (address : String)
  /-- The creation of a contract. -/
  | create (creation : Creation)
  /-- The creation of a contract from its bytecode alone. -/
  | createFromBytecode (contract : Contract) (bytecode : Octets)
  /-- The creation of a contract from its artifact. -/
  | createFromArtifact (contract : Contract) (arguments : List Value)

/-- What a client answers. -/
inductive Answer where
  /-- The number of the chain. -/
  | number (chain : Int)
  /-- The code at an address. -/
  | code (code : Octets)
  /-- The address of a contract that was created. -/
  | address (address : Address)

namespace Request

/-- What is done at a request. -/
def act : Request → Action Answer
  | chainId => do return .number (← queryChainId)
  | code address => do return .code (← queryCode address)
  | create creation => do return .address (← creation.run)
  | createFromBytecode contract bytecode => do
    return .address (← deployBytecode contract bytecode)
  | createFromArtifact contract arguments => do
    return .address (← deployArtifact contract arguments)

/-- The contract that is to be created for a request, if there is one, and its artifact can be used.
-/
def creation? (s : Session) : Request → Option Creation
  | create creation => some creation
  | createFromBytecode contract bytecode => some ⟨contract, .list [], bytecode, []⟩
  | createFromArtifact contract arguments => do
    let (artifact, _) ← (s.artifacts.get s.files contract).toOption
    let bytecode ← (artifact.bytecode.link []).toOption
    return ⟨contract, artifact.interface, bytecode, arguments⟩
  | _ => none

/-- The deeds that are done for a request, if nothing is refused. -/
def plan (s : Session) : Request → List Deed
  | chainId => if s.client.chainId.isSome then [] else [.access none .chainId]
  | code address => [.access none (.code address)]
  | request => ((request.creation? s).map fun creation => creation.plan s).getD []

variable {request : Request} {contract : Contract} {arguments : List Value}

/-- A contract is created from its artifact if this can be found and needs no library. -/
theorem createFromArtifact_cases (contract : Contract) (arguments : List Value) (s : Session) :
    ((createFromArtifact contract arguments).creation? s = none ∧
      ∃ fault artifacts, deployArtifact contract arguments s = .error fault { s with artifacts }) ∨
    ∃ creation artifacts, (createFromArtifact contract arguments).creation? s = some creation ∧
      deployArtifact contract arguments s = creation.run { s with artifacts } := by
  cases hget : s.artifacts.get s.files contract with
  | error fault =>
    refine .inl ⟨by rw [creation?, hget]; rfl, fault, s.artifacts, ?_⟩
    exact bind_of_error (artifact_of_error hget)
  | ok found =>
    obtain ⟨artifact, store⟩ := found
    have hartifact := artifact_of_get hget
    cases hlink : artifact.bytecode.link [] with
    | error fault =>
      refine .inl ⟨by simp [creation?, hget, hlink, Except.toOption], fault, store, ?_⟩
      rw [deployArtifact, bind_of_ok hartifact, hlink]
      rfl
    | ok bytecode =>
      refine .inr ⟨⟨contract, artifact.interface, bytecode, arguments⟩, store, ?_, ?_⟩
      · simp [creation?, hget, hlink, Except.toOption]
      · rw [deployArtifact, bind_of_ok hartifact, hlink]
        rfl

/-- Where a contract can be created for a request, that is what is done, but that its artifact may be
read before. Where none can be, the request fails. -/
theorem act_cases (request : Request) (s : Session) :
    (request = chainId ∨ ∃ address, request = code address) ∨
    (request.creation? s = none ∧ ∃ fault artifacts,
      request.act s = .error fault { s with artifacts }) ∨
    ∃ creation artifacts, request.creation? s = some creation ∧
      request.act s = (creation.run >>= fun address => pure (Answer.address address))
        { s with artifacts } := by
  cases request with
  | chainId => exact .inl (.inl rfl)
  | code address => exact .inl (.inr ⟨address, rfl⟩)
  | create creation => exact .inr (.inr ⟨creation, s.artifacts, rfl, rfl⟩)
  | createFromBytecode contract bytecode => exact .inr (.inr ⟨_, s.artifacts, rfl, rfl⟩)
  | createFromArtifact contract arguments =>
    refine .inr ((createFromArtifact_cases contract arguments s).imp ?_ ?_)
    · rintro ⟨hnone, fault, artifacts, hdeploy⟩
      exact ⟨hnone, fault, artifacts, bind_of_error hdeploy⟩
    · rintro ⟨creation, artifacts, hsome, hdeploy⟩
      refine ⟨creation, artifacts, hsome, ?_⟩
      exact bind_eq_bind hdeploy

/-- A request is given up before anything is done, or its plan is carried out. -/
theorem act_attempts (request : Request) (s : Session) :
    Attempts request.act s (request.plan s) := by
  obtain (rfl | ⟨address, rfl⟩) | ⟨-, fault, artifacts, hact⟩ | ⟨creation, artifacts, hsome, hact⟩ :=
    request.act_cases s
  · exact .inr ((queryChainId_executes none s).toPerforms.map Answer.number)
  · exact .inr ((queryCode_executes address s).toPerforms.map Answer.code)
  · exact .inl ⟨fault, _, hact, rfl, rfl⟩
  · have hplan : request.plan s = creation.plan s := by
      cases request with
      | chainId => cases hsome
      | code address => cases hsome
      | _ => simp [plan, hsome]
    rw [hplan]
    exact ((creation.run_attempts { s with artifacts }).map Answer.address).congr hact rfl rfl

/-- A request ends with the address of a contract exactly if the contract is created there. -/
theorem act_eq_ok_address {address : Address} :
    (∃ s', request.act s = .ok (.address address) s') ↔
      ∃ creation, request.creation? s = some creation ∧ creation.Succeeds s address := by
  obtain (rfl | ⟨address, rfl⟩) | ⟨hnone, fault, artifacts, hact⟩ |
    ⟨creation, artifacts, hsome, hact⟩ := request.act_cases s
  · refine iff_of_false ?_ nofun
    rintro ⟨s', hact⟩
    obtain ⟨number, mid, -, hpure⟩ := bind_eq_ok.1 hact
    cases hpure
  · refine iff_of_false ?_ nofun
    rintro ⟨s', hact⟩
    obtain ⟨code, mid, -, hpure⟩ := bind_eq_ok.1 hact
    cases hpure
  · rw [hact, hnone]
    refine iff_of_false ?_ nofun
    rintro ⟨s', hok⟩
    cases hok
  · rw [hact, hsome]
    constructor
    · rintro ⟨s', hok⟩
      obtain ⟨created, mid, hrun, hpure⟩ := bind_eq_ok.1 hok
      cases hpure
      have hready := Creation.run_eq_ok_iff.1 ⟨_, hrun⟩
      exact ⟨creation, rfl, hready.congr rfl rfl rfl⟩
    · rintro ⟨_, ⟨⟩, hsucceeds⟩
      have hready : creation.Succeeds { s with artifacts } address := hsucceeds.congr rfl rfl rfl
      obtain ⟨s', hrun⟩ := Creation.run_eq_ok_iff.2 hready
      exact ⟨s', bind_of_ok hrun⟩

/-- What a request leaves to remember, however it ends. -/
theorem act_recalls (request : Request) : Keeps Recalls request.act := by
  cases request with
  | chainId => exact (queryChainId_recalls none).bind fun _ => keeps_pure _
  | code address =>
    refine Keeps.bind (fun s => ?_) fun _ => keeps_pure _
    rw [queryCode_after]
    exact recalls_of_deed rfl rfl rfl rfl
  | create creation => exact (deploy_recalls _ _ _ _).bind fun _ => keeps_pure _
  | createFromBytecode contract bytecode =>
    exact (deploy_recalls _ _ _ _).bind fun _ => keeps_pure _
  | createFromArtifact contract arguments =>
    refine Keeps.bind (fun s => ?_) fun _ => keeps_pure _
    obtain ⟨-, fault, artifacts, hdeploy⟩ | ⟨creation, artifacts, -, hdeploy⟩ :=
      createFromArtifact_cases contract arguments s
    · rw [after_of_error hdeploy]
      exact recalls_of_eq rfl rfl rfl
    · have hafter : (deployArtifact contract arguments).after s =
          creation.run.after { s with artifacts } := by rw [after, hdeploy]; rfl
      have hread : Recalls s { s with artifacts } := recalls_of_eq rfl rfl rfl
      exact hafter ▸ Follows.trans hread (deploy_recalls _ _ _ _ { s with artifacts })

/-- Nothing is broadcast for a request, or its plan is that of the creation of a contract. -/
theorem plan_cases (request : Request) (s : Session) :
    (request.plan s).filterMap Deed.send? = [] ∨
      ∃ creation : Creation, request.plan s = creation.plan s := by
  cases request with
  | chainId =>
    rw [plan]
    split <;> exact .inl rfl
  | code address => exact .inl rfl
  | create creation => exact .inr ⟨creation, rfl⟩
  | createFromBytecode contract bytecode => exact .inr ⟨_, rfl⟩
  | createFromArtifact contract arguments =>
    cases hcreation : (createFromArtifact contract arguments).creation? s with
    | none => exact .inl (by simp [plan, hcreation])
    | some creation => exact .inr ⟨creation, by simp [plan, hcreation]⟩

/-- Whatever is broadcast for a request bears the number with which the node answers, and the node was
asked for it before. -/
theorem plan_signs {request : Request} {named : Option Contract} {nonce : Int}
    (hperformed : performed <+: request.plan s) (hdeed : deed ∈ performed)
    (hsend : deed.send? = some (named, nonce)) :
    nonce = s.node.transactionCount ∧ .access named (.nonce s.client.account) ∈ performed := by
  have hmem : (named, nonce) ∈ (request.plan s).filterMap Deed.send? :=
    List.mem_filterMap.2 ⟨deed, hperformed.subset hdeed, hsend⟩
  obtain hnone | ⟨creation, hplan⟩ := request.plan_cases s
  · rw [hnone] at hmem
    cases hmem
  · rw [hplan] at hmem hperformed
    have hnonce := Creation.nonce_mem_of_send hperformed hdeed (hsend ▸ rfl)
    obtain hnone | hone := creation.plan_sends s
    · rw [hnone] at hmem
      cases hmem
    · rw [hone] at hmem
      obtain ⟨rfl, rfl⟩ := Prod.mk.inj (List.mem_singleton.1 hmem)
      exact ⟨rfl, hnonce⟩

theorem plan_once (request : Request) (s : Session) :
    ((request.plan s).filterMap Deed.send?).length ≤ 1 := by
  obtain hnone | ⟨creation, hplan⟩ := request.plan_cases s
  · simp [hnone]
  · rw [hplan]
    obtain hnone | hone := creation.plan_sends s
    · simp [hnone]
    · simp [hone]

end Request

/-! ## One request after another -/

/-- A request, with the session in which it is made. -/
structure Turn where
  /-- The request. -/
  request : Request
  /-- The session in which it is made. -/
  ready : Session

namespace Turn

/-- The session that a turn leaves. -/
def done (turn : Turn) : Session := turn.request.act.after turn.ready

/-- What is done in a turn. -/
def deeds (turn : Turn) : List Deed := turn.done.deeds.drop turn.ready.deeds.length

/-- The number of the chain, if the node tells it in a turn. -/
def chainId? (turn : Turn) : Option Int := turn.ready.node.toldChainId? turn.deeds

/-- The numbers of the transactions that the node takes in a turn. -/
def sent (turn : Turn) : List Int :=
  ((turn.ready.node.accepted turn.deeds).filterMap Deed.send?).map Prod.snd

/-- What a turn keeps to, whatever the node refuses. -/
structure Orderly (turn : Turn) : Prop where
  /-- What is done is a first part of what is planned. -/
  order : turn.deeds <+: turn.request.plan turn.ready
  /-- A request that is answered has its whole plan carried out. -/
  completes : ∀ answer s', turn.request.act turn.ready = .ok answer s' →
    turn.deeds = turn.request.plan turn.ready
  /-- What is refused is the last thing that is done, and the request fails. -/
  stops : ∀ {before deed after fault}, turn.deeds = before ++ deed :: after →
    (turn.ready.node.afterDeeds before).refusal? deed = some fault →
      after = [] ∧ ∃ fault s', turn.request.act turn.ready = .error fault s'
  /-- At most one transaction is broadcast. -/
  once : (turn.deeds.filterMap Deed.send?).length ≤ 1
  /-- It bears the number with which the node answers in this turn. -/
  signs : ∀ deed ∈ turn.deeds, ∀ named nonce, deed.send? = some (named, nonce) →
    nonce = turn.ready.node.transactionCount ∧
      .access named (.nonce turn.ready.client.account) ∈ turn.deeds
  /-- An address is answered exactly if a contract is created there. -/
  creates : ∀ address, (∃ s', turn.request.act turn.ready = .ok (.address address) s') ↔
    ∃ creation, turn.request.creation? turn.ready = some creation ∧
      creation.Succeeds turn.ready address

variable {turn : Turn}

theorem deeds_of_append {added : List Deed} (h : turn.done.deeds = turn.ready.deeds ++ added) :
    turn.deeds = added := by
  rw [deeds, h, List.drop_left]

/-- What is done in a turn is known from its plan. -/
theorem deeds_cases (turn : Turn) :
    (turn.deeds = [] ∧ ∃ fault s', turn.request.act turn.ready = .error fault s') ∨
      turn.deeds = turn.ready.node.performed (turn.request.plan turn.ready) ∧
        ((∃ answer s', turn.request.act turn.ready = .ok answer s') →
          turn.ready.node.Allows (turn.request.plan turn.ready)) := by
  obtain ⟨fault, s', hact, hdeeds, -⟩ | hperforms := turn.request.act_attempts turn.ready
  · have hdone : turn.done.deeds = turn.ready.deeds ++ [] := by
      rw [done, after_of_error hact, hdeeds, List.append_nil]
    exact .inl ⟨deeds_of_append hdone, fault, s', hact⟩
  · exact .inr ⟨deeds_of_append hperforms.deeds, hperforms.allows⟩

theorem orderly (turn : Turn) : turn.Orderly := by
  obtain ⟨hdeeds, fault, s', hact⟩ | ⟨hdeeds, hallows⟩ := turn.deeds_cases
  · refine ⟨?_, ?_, ?_, ?_, ?_, fun address => turn.request.act_eq_ok_address⟩
    · exact hdeeds ▸ List.nil_prefix
    · intro answer s' hok
      rw [hact] at hok
      cases hok
    · intro before deed after fault hsplit
      simp [hdeeds] at hsplit
    · simp [hdeeds]
    · simp [hdeeds]
  · have hbegun := turn.ready.node.performed_prefix (turn.request.plan turn.ready)
    rw [← hdeeds] at hbegun
    refine ⟨hbegun, ?_, ?_, ?_, ?_, fun address => turn.request.act_eq_ok_address⟩
    · intro answer s' hok
      rw [hdeeds, Chain.Node.performed_of_allows (hallows ⟨answer, s', hok⟩)]
    · intro before deed after fault hsplit hrefused
      obtain ⟨hlast, hforbidden⟩ := Chain.Node.performed_stops (hdeeds ▸ hsplit) hrefused
      refine ⟨hlast, ?_⟩
      cases hact : turn.request.act turn.ready with
      | ok answer s' => exact absurd (hallows ⟨answer, s', hact⟩) hforbidden
      | error fault s' => exact ⟨fault, s', rfl⟩
    · exact Nat.le_trans (hbegun.filterMap Deed.send?).length_le (turn.request.plan_once turn.ready)
    · exact fun deed hdeed named nonce hsend => Request.plan_signs hbegun hdeed hsend

/-- What the client remembers of a turn. -/
theorem recalled (turn : Turn) : Recalled turn.ready turn.done turn.deeds := by
  obtain ⟨added, hrecalled⟩ := turn.request.act_recalls turn.ready
  exact deeds_of_append hrecalled.deeds ▸ hrecalled

/-- In a turn the node takes one transaction at most, with the number that it answers with. -/
theorem sent_cases (turn : Turn) :
    turn.sent = [] ∨ turn.sent = [turn.ready.node.transactionCount] := by
  have horderly := turn.orderly
  have hsublist := turn.ready.node.accepted_sublist turn.deeds
  have honce := Nat.le_trans (hsublist.filterMap Deed.send?).length_le horderly.once
  rw [sent]
  match hsent : (turn.ready.node.accepted turn.deeds).filterMap Deed.send? with
  | [] => exact .inl rfl
  | [(named, nonce)] =>
    have hmem : (named, nonce) ∈ (turn.ready.node.accepted turn.deeds).filterMap Deed.send? := by
      rw [hsent]
      exact List.mem_singleton_self _
    obtain ⟨deed, hdeed, hsend⟩ := List.mem_filterMap.1 hmem
    obtain ⟨rfl, -⟩ := horderly.signs deed (hsublist.subset hdeed) named nonce hsend
    exact .inr rfl
  | _ :: _ :: _ =>
    rw [hsent] at honce
    simp at honce

end Turn

/-- The number of the chain that the node told first in turns. -/
def chainIdOf? (turns : List Turn) : Option Int := turns.findSome? Turn.chainId?

/-- The numbers of the transactions that the node took in turns. -/
def sentIn (turns : List Turn) : List Int := turns.flatMap Turn.sent

theorem sentIn_cons (turn : Turn) (rest : List Turn) :
    sentIn (turn :: rest) = turn.sent ++ sentIn rest := List.flatMap_cons

/-- The numbers from a start on, one after another. -/
def numbersFrom (start : Int) : Nat → List Int
  | 0 => []
  | count + 1 => start :: numbersFrom (start + 1) count

/-- Between two turns anything can change but the client, and nothing is done. -/
def Idles (s s' : Session) : Prop := s'.client = s.client ∧ s'.deeds = s.deeds

/-- From one session to another, a client takes its turns, each of which ends with an answer or a
fault. -/
inductive Turns : Session → List Turn → Session → Prop where
  /-- Nothing is requested. -/
  | nil (s : Session) : Turns s [] s
  /-- A request is made, and then others are. -/
  | cons {s s' : Session} {turn : Turn} {rest : List Turn} :
    Idles s turn.ready → Turns turn.done rest s' → Turns s (turn :: rest) s'

variable {turns : List Turn}

theorem chainIdOf?_cons (turn : Turn) (rest : List Turn) :
    chainIdOf? (turn :: rest) = turn.chainId?.or (chainIdOf? rest) := by
  rw [chainIdOf?, chainIdOf?, List.findSome?_cons]
  cases turn.chainId? <;> rfl

/-- The client remembers the first number of the chain that it was told. -/
theorem Turns.chainId_eq (h : Turns s turns s') :
    s'.client.chainId = s.client.chainId.or (chainIdOf? turns) := by
  induction h with
  | nil s => exact Option.or_none.symm
  | @cons s s' turn rest hidles _ ih =>
    have hturn : turn.done.client.chainId = turn.ready.client.chainId.or turn.chainId? := by
      rw [turn.recalled.client]
      rfl
    rw [ih, hturn, hidles.1, Option.or_assoc, chainIdOf?_cons]

/-- A sequence of turns is cut before each of them. -/
theorem Turns.split {before after : List Turn} {turn : Turn}
    (h : Turns s (before ++ turn :: after) s') :
    ∃ mid, Turns s before mid ∧ Idles mid turn.ready ∧ Turns turn.done after s' := by
  induction before generalizing s with
  | nil =>
    cases h with
    | cons hidles hrest => exact ⟨s, .nil s, hidles, hrest⟩
  | cons first rest ih =>
    cases h with
    | cons hidles hrest =>
      obtain ⟨mid, hbefore, hafter⟩ := ih hrest
      exact ⟨mid, .cons hidles hbefore, hafter⟩

/-- What the client knows before a turn is what it was told first in the turns before. -/
theorem Turns.knows {before after : List Turn} {turn : Turn}
    (h : Turns s (before ++ turn :: after) s') :
    turn.ready.client.chainId = s.client.chainId.or (chainIdOf? before) := by
  obtain ⟨mid, hbefore, hidles, -⟩ := h.split
  rw [hidles.1, hbefore.chainId_eq]

/-- Each transaction that is completed bears the number of the chain that the client was told first. -/
theorem Turns.builds (h : Turns s turns s') {turn : Turn} (hturn : turn ∈ turns)
    (hdeed : deed ∈ turn.deeds) {chain : Int} (hchain : deed.chain? = some chain) :
    s.client.chainId.or (chainIdOf? turns) = some chain := by
  obtain ⟨before, after, rfl⟩ := List.append_of_mem hturn
  obtain ⟨mid, -, -, hafter⟩ := h.split
  have hknown := turn.recalled.builds deed hdeed chain hchain
  -- what is known after the turn is known in the end
  have hend := hafter.chainId_eq
  rw [hknown, Option.some_or] at hend
  rw [← h.chainId_eq, hend]

/-- The transactions that the node takes are numbered without a gap if it answers with the number of
those that it took before, counted from some start. -/
theorem sentIn_eq {start : Int} (hcounts : ∀ before turn after, turns = before ++ turn :: after →
      turn.ready.node.transactionCount = start + (sentIn before).length) :
    sentIn turns = numbersFrom start (sentIn turns).length := by
  induction turns generalizing start with
  | nil => rfl
  | cons turn rest ih =>
    have hcount : turn.ready.node.transactionCount = start := by
      simpa [sentIn] using hcounts [] turn rest rfl
    have hcountsRest : ∀ before other after, rest = before ++ other :: after →
        other.ready.node.transactionCount =
          start + turn.sent.length + (sentIn before).length := by
      intro before other after hsplit
      rw [hcounts (turn :: before) other after (by rw [hsplit]; rfl), sentIn_cons,
        List.length_append]
      omega
    have hrest := ih hcountsRest
    obtain hnone | hone := turn.sent_cases
    · rw [hnone] at hrest
      rw [sentIn_cons, hnone, List.nil_append]
      simpa using hrest
    · have hnext : sentIn rest = numbersFrom (start + 1) (sentIn rest).length := by
        simpa [hone] using hrest
      rw [sentIn_cons, hone, hcount, List.singleton_append, List.length_cons, numbersFrom, ← hnext]

/-- What the turns of a client keep to. -/
structure Disciplined (s : Session) (turns : List Turn) (s' : Session) : Prop where
  orderly : ∀ turn ∈ turns, turn.Orderly
  /-- Before each turn the client knows what it knew at first, or else was told first. -/
  knows : ∀ before turn after, turns = before ++ turn :: after →
    turn.ready.client.chainId = s.client.chainId.or (chainIdOf? before)
  /-- In the end, too, and each transaction that is completed bears this number. -/
  remembers : s'.client.chainId = s.client.chainId.or (chainIdOf? turns)
  builds : ∀ turn ∈ turns, ∀ deed ∈ turn.deeds, ∀ chain, deed.chain? = some chain →
    s'.client.chainId = some chain
  /-- If the node answers with the number of transactions that it took before, counted from some
  start, then those that it takes are numbered without a gap. -/
  numbers : ∀ start : Int, (∀ before turn after, turns = before ++ turn :: after →
      turn.ready.node.transactionCount = start + (sentIn before).length) →
    sentIn turns = numbersFrom start (sentIn turns).length

/-- **Discipline.** Whatever a client is asked for, and whatever the node refuses or answers, each
request is carried out in the order of its plan up to the first refusal, and a contract is created
exactly where its creation succeeds. The number of the chain is asked for until it is told, and no
longer. The transactions that the node takes are numbered one after another. -/
theorem turns_disciplined (h : Turns s turns s') : Disciplined s turns s' where
  orderly turn _ := turn.orderly
  knows before turn after hsplit := by
    subst hsplit
    exact h.knows
  remembers := h.chainId_eq
  builds turn hturn deed hdeed chain hchain := by
    rw [h.chainId_eq]
    exact h.builds hturn hdeed hchain
  numbers start hcounts := sentIn_eq hcounts

/-- The node does not tell the number of the chain. -/
def untold : Session :=
  { node.outages := [{ step := .chainId, fault := .report .chainError "refused" }] }

/-- The number of the chain is asked for in vain. -/
def unanswered : Turn := ⟨.chainId, untold⟩

/-- The number of the chain is asked for while a contract is created. -/
def created : Turn := ⟨.createFromBytecode .hotShot [0x60], { unanswered.done with node := {} }⟩

/-- The number of the chain is known, and another contract is created. -/
def createdNext : Turn := ⟨.createFromBytecode .plonkVerifier [0x60], created.done⟩

/-- After a query that was refused, a creation asks for the number of the chain, and the next one does
not. -/
theorem turns_disciplined_of_untold :
    Turns untold [unanswered, created, createdNext] createdNext.done ∧
      Disciplined untold [unanswered, created, createdNext] createdNext.done ∧
      chainIdOf? [unanswered, created, createdNext] = some 31337 ∧
      sentIn [unanswered, created, createdNext] = [7, 8] := by
  have hturns : Turns untold [unanswered, created, createdNext] createdNext.done :=
    .cons ⟨rfl, rfl⟩ (.cons ⟨rfl, rfl⟩ (.cons ⟨rfl, rfl⟩ (.nil _)))
  exact ⟨hturns, turns_disciplined hturns, by rfl, by rfl⟩

end Rollout.Client
