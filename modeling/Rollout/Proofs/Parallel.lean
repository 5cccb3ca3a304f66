import Rollout.Proofs.Consent
import Rollout.Proofs.Resolution.Steps

/-!
# Two runs of one action

An action that is run in two sessions ends alike in both if it looks only at what they have in common:
with the same result or the same fault, and with the two sessions related as before
(`Action.Mirrored`). A relation that lets two sessions agree on what the creation of a contract looks
at, and that lasts while the same is done in both (`Client.MirrorsCreation`), makes every creation end alike.
If the sessions agree on the registry too (`Resolution.MirrorsRecording`), a resolution ends alike as soon
as the procedures do that it calls; with all that a resolution looks at (`Resolution.MirrorsResolving`),
every resolution ends alike.
-/

namespace Rollout

namespace Action

variable {α β : Type} {R : Session → Session → Prop} {s t : Session}

/-! ## Ending alike -/

/-- Two actions end alike: with the same result or the same fault, and in related sessions. -/
inductive Alike (R : Session → Session → Prop) :
    EStateM.Result Fault Session α → EStateM.Result Fault Session α → Prop where
  /-- Both end with a result. -/
  | ok {s t : Session} (a : α) : R s t → Alike R (.ok a s) (.ok a t)
  /-- Both end with a fault. -/
  | error {s t : Session} (fault : Fault) : R s t → Alike R (.error fault s) (.error fault t)

theorem Alike.cases {x y : Action α} (h : Alike R (x s) (y t)) :
    (∃ a mid mid', x s = .ok a mid ∧ y t = .ok a mid' ∧ R mid mid') ∨
    (∃ fault mid mid', x s = .error fault mid ∧ y t = .error fault mid' ∧ R mid mid') := by
  generalize hx : x s = result at h
  generalize hy : y t = other at h
  cases h with
  | ok a hmid => exact Or.inl ⟨a, _, _, rfl, rfl, hmid⟩
  | error fault hmid => exact Or.inr ⟨fault, _, _, rfl, rfl, hmid⟩

theorem Alike.bind {x y : Action α} {f g : α → Action β} (hx : Alike R (x s) (y t))
    (hf : ∀ a {mid mid'}, R mid mid' → Alike R (f a mid) (g a mid')) :
    Alike R ((x >>= f) s) ((y >>= g) t) := by
  rcases hx.cases with ⟨a, mid, mid', hs, ht, hmid⟩ | ⟨fault, mid, mid', hs, ht, hmid⟩
  · rw [bind_of_ok hs, bind_of_ok ht]
    exact hf a hmid
  · rw [bind_of_error hs, bind_of_error ht]
    exact .error fault hmid

/-- An action ends alike in any two related sessions. -/
def Mirrored (R : Session → Session → Prop) (x : Action α) : Prop :=
  ∀ ⦃s t⦄, R s t → Alike R (x s) (x t)

theorem Mirrored.bind {x : Action α} {f : α → Action β} (hx : Mirrored R x)
    (hf : ∀ a, Mirrored R (f a)) : Mirrored R (x >>= f) :=
  fun _ _ h => (hx h).bind fun a _ _ hmid => hf a hmid

theorem mirrored_pure (a : α) : Mirrored R (pure a : Action α) := fun _ _ h => .ok a h

theorem mirrored_throw (fault : Fault) : Mirrored R (throw fault : Action α) :=
  fun _ _ h => .error fault h

theorem mirrored_ofExcept (r : Except Fault α) : Mirrored R (ofExcept r) := by
  cases r with
  | ok a => exact mirrored_pure a
  | error fault => exact mirrored_throw fault

theorem mirrored_modify {g : Session → Session} (hg : ∀ {s t}, R s t → R (g s) (g t)) :
    Mirrored R (modify g) := fun _ _ h => .ok () (hg h)

/-- What is looked at must be the same in both sessions; so it is for each use of the session to show
that both runs go on in the same way. -/
theorem mirrored_get {f : Session → Action α} (hf : ∀ {s t}, R s t → Alike R (f s s) (f t t)) :
    Mirrored R (get >>= f) := fun _ _ h => hf h

theorem mirrored_ite {c : Prop} [Decidable c] {x y : Action α} (hx : Mirrored R x)
    (hy : Mirrored R y) : Mirrored R (if c then x else y) := by
  split
  · exact hx
  · exact hy

theorem Mirrored.tryCatch {x : Action α} {handle : Fault → Action α} (hx : Mirrored R x)
    (hh : ∀ fault, Mirrored R (handle fault)) : Mirrored R (tryCatch x handle) := by
  intro s t h
  show Alike R (tryCatchThe Fault x handle s) (tryCatchThe Fault x handle t)
  rcases (hx h).cases with ⟨a, mid, mid', hs, ht, hmid⟩ | ⟨fault, mid, mid', hs, ht, hmid⟩
  · rw [tryCatch_of_ok hs, tryCatch_of_ok ht]
    exact .ok a hmid
  · rw [tryCatch_of_error hs, tryCatch_of_error ht]
    exact hh fault hmid

theorem mirrored_mapM {items : List α} {act : α → Action β}
    (h : ∀ item ∈ items, Mirrored R (act item)) : Mirrored R (items.mapM act) := by
  induction items with
  | nil => exact mirrored_pure []
  | cons item rest ih =>
    rw [List.mapM_cons]
    refine (h item List.mem_cons_self).bind fun first => ?_
    exact (ih fun other hother => h other (List.mem_cons_of_mem _ hother)).bind fun others =>
      mirrored_pure _

theorem mirrored_forIn (items : List α) {body : α → β → Action (ForInStep β)}
    (h : ∀ item b, Mirrored R (body item b)) (b : β) : Mirrored R (forIn items b body) := by
  induction items generalizing b with
  | nil => exact mirrored_pure b
  | cons item rest ih =>
    rw [List.forIn_cons]
    refine (h item b).bind fun next => ?_
    cases next with
    | done b => exact mirrored_pure b
    | yield b => exact ih b

end Action

open Rollout.Action

/-! ## Nodes -/

namespace Chain.Node

/-- Two nodes answer alike unless code is asked for: they differ at most in the accesses that they have
counted, and of these only in the ones to code. -/
structure Matches (node other : Node) : Prop where
  rest : other = { node with accesses := other.accesses }
  counts : ∀ step, step ≠ .code → other.accesses.count step = node.accesses.count step

variable {node other : Node}

theorem matches_of_eq (h : other = node) : node.Matches other :=
  ⟨by rw [h], by simp [h]⟩

theorem Matches.outage? (h : node.Matches other) {step : Step} (hstep : step ≠ .code) :
    other.outage? step = node.outage? step := by
  rw [Node.outage?, Node.outage?, h.counts step hstep, h.rest]
  rfl

theorem Matches.accessed (h : node.Matches other) (step : Step) :
    (node.accessed step).Matches (other.accessed step) where
  rest := by
    rw [h.rest]
    rfl
  counts other hother := by
    simp only [Node.accessed, List.count_append, h.counts other hother]

theorem Matches.counted (h : node.Matches other) :
    Matches { node with sent := node.sent + 1 } { other with sent := other.sent + 1 } where
  rest := by rw [h.rest]
  counts := h.counts

end Chain.Node

variable {R : Session → Session → Prop} {contract : Contract}

/-! ## Creating contracts -/

namespace Client

/-- Related sessions agree on what the creation of a contract looks at, and stay related while the same
is done in both. -/
structure MirrorsCreation (R : Session → Session → Prop) : Prop where
  input : ∀ {s t}, R s t → t.input = s.input
  node : ∀ {s t}, R s t → s.node.Matches t.node
  client : ∀ {s t}, R s t → t.client = s.client
  /-- Adding to the notices. -/
  tells : ∀ {s t} (text : String), R s t →
    R { s with notices := s.notices ++ text } { t with notices := t.notices ++ text }
  /-- Keeping a deed. -/
  logs : ∀ {s t} (deed : Deed), R s t →
    R { s with deeds := s.deeds ++ [deed] } { t with deeds := t.deeds ++ [deed] }
  /-- Taking a line from the input. -/
  hears : ∀ {s t} (input : List Char), R s t → R { s with input } { t with input }
  /-- Counting an access. -/
  accesses : ∀ {s t} (step : Chain.Step), R s t →
    R { s with node := s.node.accessed step } { t with node := t.node.accessed step }
  /-- Counting the transaction that was broadcast. -/
  counts : ∀ {s t}, R s t →
    R { s with node.sent := s.node.sent + 1 } { t with node.sent := t.node.sent + 1 }
  /-- Keeping the number of the chain. -/
  learns : ∀ {s t} (number : Int), R s t →
    R { s with client.chainId := some number } { t with client.chainId := some number }
  /-- Keeping that a contract was created. -/
  concludes : ∀ {s t} (creation : Contract × Address), R s t →
    R { s with creations := s.creations ++ [creation] } { t with creations := t.creations ++ [creation] }

namespace MirrorsCreation

theorem notice (h : MirrorsCreation R) (text : String) : Mirrored R (Action.notice text) :=
  mirrored_modify (h.tells (text ++ "\n"))

theorem access (h : MirrorsCreation R) (named : Option Contract) {step : Chain.Step} (event : Event)
    (hstep : step ≠ .code) : Mirrored R (Action.access named step event) := by
  intro s t hR
  have hdone : R (accessing named step event s) (accessing named step event t) :=
    h.accesses step (h.logs (.access named event) hR)
  have hsame := (h.node hR).outage? hstep
  cases houtage : s.node.outage? step with
  | none =>
    rw [access_of_none houtage, access_of_none (hsame.trans houtage)]
    exact .ok () hdone
  | some fault =>
    rw [access_of_some houtage, access_of_some (hsame.trans houtage)]
    exact .error fault hdone

theorem naming {α : Type} {x : Action α} (hx : Mirrored R x) (cause : String → Cause)
    (named : Option Contract) : Mirrored R (Client.naming cause named x) :=
  hx.tryCatch fun _ => mirrored_throw _

theorem readLine (h : MirrorsCreation R) : Mirrored R Action.readLine := by
  intro s t hR
  cases hline : Consent.firstLine? s.input with
  | none =>
    have hline' : Consent.firstLine? t.input = none := h.input hR ▸ hline
    rw [(Consent.readLine_of_none hline).1, (Consent.readLine_of_none hline').1]
    exact .error _ hR
  | some found =>
    have hline' : Consent.firstLine? t.input = some (found.1, found.2) := h.input hR ▸ hline
    rw [Consent.readLine_of_some hline, Consent.readLine_of_some hline']
    exact .ok _ (h.hears found.2 hR)

theorem ask (h : MirrorsCreation R) (question : String) : Mirrored R (Consent.ask question) := by
  refine (mirrored_modify (h.tells _)).bind fun _ => h.readLine.bind fun answer => ?_
  exact mirrored_ite ((h.notice _).bind fun _ => mirrored_throw _) (mirrored_pure ())

theorem askCreation (h : MirrorsCreation R) (name : String) (parameters : Abi.Parameters) :
    Mirrored R (Consent.askCreation name parameters) := by
  refine Mirrored.bind (mirrored_ite (h.notice _) ?_) fun _ => (h.ask _).bind fun _ => ?_
  · refine (h.notice _).bind fun _ => (mirrored_forIn _ (fun pair b => ?_) _).bind fun _ => ?_
    · exact (h.notice _).bind fun _ => mirrored_pure _
    · exact mirrored_pure _
  · exact mirrored_ite (h.ask _) (mirrored_pure ())

theorem consent (h : MirrorsCreation R) (contract : Contract) (interface : Value) (arguments : List Value) :
    Mirrored R (Client.consent contract interface arguments) := by
  refine mirrored_get fun {s t} hR => ?_
  rw [h.client hR]
  refine mirrored_ite (mirrored_pure ()) ?_ hR
  exact (mirrored_ofExcept _).bind fun parameters => h.askCreation _ parameters

theorem queryChainId (h : MirrorsCreation R) (named : Option Contract) :
    Mirrored R (Client.queryChainId named) := by
  refine mirrored_get fun {s t} hR => ?_
  rw [h.client hR]
  cases s.client.chainId with
  | some number => exact mirrored_pure number hR
  | none =>
    refine ((naming (h.access _ _ (by decide)) _ _).bind fun _ =>
      mirrored_get fun {s t} hmid => ?_) hR
    rw [(h.node hmid).rest]
    exact ((mirrored_modify (h.learns _)).bind fun _ => mirrored_pure _) hmid

theorem broadcast (h : MirrorsCreation R) (contract : Contract) (data : Octets) :
    Mirrored R (Client.broadcast contract data) := by
  refine mirrored_get fun {s t} hR => ?_
  rw [h.client hR]
  refine ((h.access _ _ (by decide)).bind fun _ => mirrored_get fun {s t} hmid => ?_) hR
  rw [(h.node hmid).rest]
  refine ((h.queryChainId _).bind fun chain => (h.access _ _ (by decide)).bind fun _ =>
    (h.access _ _ (by decide)).bind fun _ => (mirrored_modify h.counts).bind fun _ =>
      mirrored_get fun {s t} hsent => ?_) hmid
  rw [(h.node hsent).rest]
  exact ((h.notice _).bind fun _ => mirrored_pure _) hsent

theorem awaitReceipt (h : MirrorsCreation R) (contract : Contract) (hash : Octets) :
    Mirrored R (Client.awaitReceipt contract hash) := by
  refine mirrored_get fun {s t} hR => ?_
  rw [h.client hR]
  refine ((h.access _ _ (by decide)).bind fun _ => mirrored_get fun {s t} hmid => ?_) hR
  have hsame : t.node.receipt? hash = s.node.receipt? hash := by
    rw [(h.node hmid).rest]
    rfl
  rw [hsame]
  cases s.node.receipt? hash with
  | some receipt => exact mirrored_pure receipt hmid
  | none => exact mirrored_throw _ hmid

theorem conclude (h : MirrorsCreation R) (contract : Contract) (hash : Octets)
    (receipt : Chain.Receipt) : Mirrored R (Client.conclude contract hash receipt) :=
  (mirrored_ofExcept _).bind fun address =>
    (mirrored_modify (h.concludes (contract, address))).bind fun _ => mirrored_pure address

theorem transact (h : MirrorsCreation R) (contract : Contract) (interface : Value) (bytecode : Octets)
    (arguments : List Value) :
    Mirrored R (Client.transact contract interface bytecode arguments) := by
  refine Mirrored.bind ?_ fun data => (h.broadcast contract data).bind fun hash => ?_
  · refine (mirrored_modify (h.logs _)).bind fun _ => (mirrored_ofExcept _).bind fun data => ?_
    exact (h.access _ _ (by decide)).bind fun _ => mirrored_pure data
  · exact (h.awaitReceipt contract hash).bind fun receipt => mirrored_pure _

/-- The creation of a contract ends alike in related sessions. -/
theorem deploy (h : MirrorsCreation R) (contract : Contract) (interface : Value) (bytecode : Octets)
    (arguments : List Value) :
    Mirrored R (Client.deploy contract interface bytecode arguments) := by
  rw [deploy_eq]
  refine mirrored_get fun {s t} hR => ?_
  rw [h.client hR]
  refine ((h.notice _).bind fun _ => (h.consent contract interface arguments).bind fun _ => ?_) hR
  refine (mirrored_ofExcept _).bind fun _ => Mirrored.bind ?_ fun result => h.conclude contract _ _
  exact naming (h.transact contract interface bytecode arguments) _ _

end MirrorsCreation

end Client

/-! ## Resolving contracts -/

namespace Resolution

/-- Related sessions agree on the web and on the source of the genesis state, and stay related while
the same is learned from them in both. -/
structure MirrorsFetching (R : Session → Session → Prop) : Prop extends Client.MirrorsCreation R where
  web : ∀ {s t}, R s t → t.web = s.web
  source : ∀ {s t}, R s t → t.genesis = s.genesis
  /-- Sending a request. -/
  requests : ∀ {s t} (web : Web), R s t → R { s with web } { t with web }
  /-- Keeping the genesis state. -/
  keeps : ∀ {s t} (genesis : GenesisSource), R s t → R { s with genesis } { t with genesis }

theorem MirrorsFetching.request (h : MirrorsFetching R) (url : String) (timeout : Int) :
    Mirrored R (Action.request url timeout) := by
  intro s t hR
  show Alike R (.ok s.web.answer _) (.ok t.web.answer _)
  rw [h.web hR]
  exact .ok _ (h.requests _ (h.logs (.access none (.request url timeout)) hR))

theorem MirrorsFetching.genesis (h : MirrorsFetching R) : Mirrored R Action.genesis := by
  refine mirrored_get fun {s t} hR => ?_
  rw [h.source hR]
  cases s.genesis.fetched with
  | some genesis => exact mirrored_pure genesis hR
  | none =>
    refine ((h.notice _).bind fun _ => (h.request _ _).bind fun answer => ?_) hR
    refine (mirrored_ofExcept _).bind fun genesis => Mirrored.bind ?_ fun _ => mirrored_pure genesis
    refine mirrored_modify fun {s t} hmid => ?_
    have hkept := h.keeps { s.genesis with fetched := some genesis } hmid
    rwa [← h.source hmid] at hkept ⊢

/-- Related sessions agree on the registry, and stay related while the same addresses are recorded in
both. -/
structure MirrorsRecording (R : Session → Session → Prop) : Prop extends Client.MirrorsCreation R where
  registry : ∀ {s t}, R s t → t.registry = s.registry
  /-- Recording an address. -/
  records : ∀ {s t contract value address registry}, R s t →
    s.registry.record contract value = .ok (address, registry) →
    R { s with registry } { t with registry }

namespace MirrorsRecording

theorem recordValue (h : MirrorsRecording R) (contract : Contract) (value : Value) :
    Mirrored R (Registry.recordValue contract value) := by
  intro s t hR
  cases hrecord : s.registry.record contract value with
  | error fault =>
    have hrecord' : t.registry.record contract value = .error fault := h.registry hR ▸ hrecord
    rw [Registry.recordValue_of_error hrecord, Registry.recordValue_of_error hrecord']
    exact .error fault hR
  | ok found =>
    have hrecord' : t.registry.record contract value = .ok (found.1, found.2) :=
      h.registry hR ▸ hrecord
    rw [Registry.recordValue_of_ok hrecord, Registry.recordValue_of_ok hrecord']
    exact .ok found.1 (h.logs _ (h.records hR hrecord))

theorem settle (h : MirrorsRecording R) (contract : Contract) (value : Value) :
    Mirrored R (Registry.settle contract value) := by
  refine (mirrored_modify (h.logs _)).bind fun _ => (h.recordValue contract value).bind ?_
  exact fun address => (h.toMirrorsCreation.notice _).bind fun _ => mirrored_pure address

/-- A resolution ends alike in related sessions if the procedures do of those contracts for which it
calls them: `concerned` tells the contracts that it comes to. -/
theorem resolve (h : MirrorsRecording R) {concerned : Contract → Prop} {contract : Contract}
    (hcalled : ∀ {s t contract}, R s t → concerned contract → s.registry.get? contract = none →
      (∀ dependency ∈ contract.dependencies, concerned dependency) ∧
        ∀ dependencies, Mirrored R (Resolution.deploy contract dependencies))
    (hconcerned : concerned contract) : Mirrored R (Resolution.resolve contract) := by
  intro s t hR
  rw [resolve_eq]
  cases hget : s.registry.get? contract with
  | some address =>
    have hget' : t.registry.get? contract = some address := h.registry hR ▸ hget
    rw [Registry.resolve_of_some hget, Registry.resolve_of_some hget']
    exact .ok address (h.logs _ (h.tells _ hR))
  | none =>
    have hget' : t.registry.get? contract = none := h.registry hR ▸ hget
    rw [Registry.resolve_of_none hget, Registry.resolve_of_none hget']
    obtain ⟨hbelow, hdeploy⟩ := hcalled hR hconcerned hget
    have hopened := h.logs (.called contract)
      (h.tells ("\nDeploying " ++ contract.name ++ "..." ++ "\n") hR)
    refine Mirrored.bind ?_ (fun value => h.settle contract value) hopened
    refine Mirrored.bind (mirrored_mapM fun dependency _ => ?_) fun dependencies => ?_
    · -- a dependency stands lower than the contract
      have hresolve := MirrorsRecording.resolve h hcalled (hbelow dependency.1 dependency.2)
      exact hresolve.bind fun _ => mirrored_pure _
    · exact (hdeploy dependencies).bind fun _ => mirrored_pure _
termination_by contract.height
decreasing_by exact Contract.height_lt_of_mem_dependencies dependency.2

end MirrorsRecording

/-- Related sessions agree on what a resolution looks at, and stay related while the same is done in
both. -/
structure MirrorsResolving (R : Session → Session → Prop) : Prop extends MirrorsRecording R where
  /-- Reading the artifact of a contract. -/
  reads : ∀ contract, Mirrored R (Action.artifact contract)
  /-- Getting the genesis state. -/
  fetches : Mirrored R Action.genesis

namespace MirrorsResolving

theorem deployArtifact (h : MirrorsResolving R) (contract : Contract) (arguments : List Value) :
    Mirrored R (Client.deployArtifact contract arguments) :=
  (h.reads contract).bind fun artifact => (mirrored_ofExcept _).bind fun code =>
    h.toMirrorsCreation.deploy contract artifact.interface code arguments

theorem deploy (h : MirrorsResolving R) (contract : Contract) (dependencies : List (Contract × Address)) :
    Mirrored R (Resolution.deploy contract dependencies) := by
  cases contract with
  | lightClient =>
    exact (h.reads .lightClient).bind fun artifact => (mirrored_ofExcept _).bind fun code =>
      h.toMirrorsCreation.deploy .lightClient (.list []) code []
  | lightClientProxy =>
    cases dependencies with
    | nil => exact h.deployArtifact .lightClientProxy []
    | cons entry rest =>
      refine (h.reads .lightClient).bind fun artifact => h.fetches.bind fun genesis => ?_
      refine (mirrored_ofExcept _).bind fun call => (h.toMirrorsCreation.notice _).bind fun _ => ?_
      exact h.deployArtifact .lightClientProxy _
  | hotShot => exact h.deployArtifact .hotShot []
  | plonkVerifier => exact h.deployArtifact .plonkVerifier []
  | lightClientStateUpdateVK => exact h.deployArtifact .lightClientStateUpdateVK []

/-- Every resolution ends alike in related sessions. -/
theorem resolve (h : MirrorsResolving R) (contract : Contract) : Mirrored R (Resolution.resolve contract) :=
  h.toMirrorsRecording.resolve (fun _ _ _ => ⟨fun _ _ => trivial, h.deploy _⟩) (trivial : True)

end MirrorsResolving

end Resolution

end Rollout
