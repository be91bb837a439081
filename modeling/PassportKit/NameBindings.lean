import PassportKit.AgentLinking

/-! Who a name is bound to, over sequences of requests. A label names whatever is left of
it, and the parent's controller binds a name again without looking: a name stays with the
identity it was provisioned for unless a request for another one reaches a block. -/
namespace PassportKit.Hero
open Evm Eip712 OpenZeppelin Interaction Runs
open Js (JsString text)
open Refusals (Thrown)

variable {Hash : Type} [Crypto Hash] [DecidableEq Hash]

inductive HeroRequest where
  | provisionUser (wallet : Address) (label : JsString)
  | linkAgent (params : LinkAgentParams)
  deriving DecidableEq

/-- A name, and whose it is. -/
structure Binding where
  node : Bytes32
  identity : Address
  deriving DecidableEq

/-- What a request answers about a name. -/
def HeroRequest.handler (self : HeroService) (lib : HeroLibrary) : HeroRequest → Handler Binding
  | .provisionUser wallet label => do
    let result ← self.provisionUser lib wallet label
    pure { node := lib.namehash result.ensName, identity := result.identity }
  | .linkAgent params => do
    let result ← self.linkAgent lib params
    pure { node := lib.namehash result.agentEnsName, identity := result.personIdentity }

/-- The name a request is for. -/
def HeroRequest.node (self : HeroService) (lib : HeroLibrary) : HeroRequest → Bytes32
  | .provisionUser _ label => lib.namehash (self.ensName (normalized lib label))
  | .linkAgent params => self.agentNode lib params

/-- What the factory answers about a wallet. -/
def answered : Entry (Chain Hash) Exchange → Option Address
  | ⟨_, ⟨.identityOfWallet _ _, answer⟩, _⟩ => (show Except Thrown Address from answer).toOption
  | _ => none

/-- The identity a request is for: the person's, or the first that the factory names. -/
def HeroRequest.identity (log : List (Entry (Chain Hash) Exchange)) : HeroRequest → Option Address
  | .provisionUser _ _ => (log.filterMap answered).find? fun identity => identity ≠ 0
  | .linkAgent params => some params.personIdentity

/-- The transaction that binds a name. -/
def naming (self : HeroService) (lib : HeroLibrary) (account : Caller) (node : Bytes32) (identity : Address) :
    Transaction :=
  .writeContract account self.resolver (.setIdentity node (self.parentNode lib) identity) (some WRITE_GAS)

/-- The chain, and the names that requests answered with when they were bound. -/
structure Session (Hash : Type) where
  chain : Chain Hash
  granted : List Binding

/-- A request, with what it passed: it may fail, or be cut off, anywhere. -/
structure Served (Hash : Type) where
  request : HeroRequest
  log : List (Entry (Chain Hash) Exchange)

/-- Nobody else writes to the resolver. -/
def HeroService.LeavesNames (self : HeroService) (input : World.Input) : Prop :=
  match input.action with
  | .deploy created _ => created ≠ self.resolver
  | .call target _ => target ≠ self.resolver
  | _ => True

/-- A request that answers with a name that is bound grants it. -/
def grant (self : HeroService) (c : Chain Hash) (granted : List Binding) : Handler Binding → List Binding
  | .done binding =>
    if c.boundTo self.resolver binding.node = some binding.identity then binding :: granted else granted
  | _ => granted

def Session.Serves (self : HeroService) (lib : HeroLibrary) (before : Session Hash) (event : Served Hash)
    (after : Session Hash) : Prop :=
  ∃ later, (event.request.handler self lib).Passes (Chain.Serves self.LeavesNames) before.chain event.log later
      after.chain ∧ after.granted = grant self after.chain before.granted later

/-- Every name is still bound to the identity it was granted to. -/
def Session.Kept (self : HeroService) (session : Session Hash) : Prop :=
  ∀ binding ∈ session.granted, session.chain.boundTo self.resolver binding.node = some binding.identity

/-- A request binds its name: a block includes the transaction, and it is the controller's. -/
def Binds (self : HeroService) (lib : HeroLibrary) (before : Chain Hash) (served : Served Hash) (identity : Address) :
    Prop :=
  ∃ account contract, self.account = some account ∧ before.resolverAt self.resolver = some contract ∧
    account = (contract.tenantOf (self.parentNode lib)).controller ∧
    served.request.identity served.log = some identity ∧
    blocks (naming self lib account (served.request.node self lib) identity) served.log ≠ []

/-- A request that binds its name is for the identity the name was granted to, if it was. -/
def Agrees (self : HeroService) (lib : HeroLibrary) (entry : Entry (Session Hash) (Served Hash)) : Prop :=
  ∀ identity, Binds self lib entry.before.chain entry.event identity → ∀ binding ∈ entry.before.granted,
    binding.node = entry.event.request.node self lib → binding.identity = identity

/-! ## What reaches the resolver -/

/-- The transaction binds a name, somewhere. -/
def Names (transaction : Transaction) : Prop :=
  ∃ account address node parentNode identity gas,
    transaction = .writeContract account address (.setIdentity node parentNode identity) gas

section Resolver
variable {self : HeroService} {lib : HeroLibrary} {account : Caller} {node : Bytes32} {identity : Address}
  {c next : Chain Hash} {inputs : List World.Input} {transaction : Transaction}
    {log : List (Entry (Chain Hash) Exchange)}

/-- A transaction of the deployment leaves a resolver it does not call or deploy. -/
theorem resolverAt_step {world next : World Hash} {input : World.Input} {address : Address}
    (deploys : ∀ request, input.action ≠ .deploy address request)
    (calls : ∀ call, input.action ≠ .call address (.resolver call)) (done : World.step world input = .ok next) :
    (c.withWorld next).resolverAt address = (c.withWorld world).resolverAt address := by
  simp only [Chain.resolverAt, Chain.withWorld]
  rcases World.step_surface done address with same | ⟨request, _, deployed, -⟩ |
      ⟨request, surface, changed, called, there, accepted, now⟩
  · rw [same]
  · exact absurd deployed (deploys request)
  · rw [there, now]
    cases surface with
    | resolver contract =>
      cases request with
      | resolver call => exact absurd called (calls call)
      | _ => simp [Surface.call] at accepted
    | _ => cases request <;> simp [Surface.call, bind_eq_ok] at accepted <;> grind

theorem resolverAt_meanwhile (others : ∀ input ∈ inputs, self.LeavesNames input) :
    (c.meanwhile inputs).resolverAt self.resolver = c.resolverAt self.resolver := by
  have kept (world : World Hash) (input : World.Input) (next : World Hash)
      (held : (c.withWorld world).resolverAt self.resolver = c.resolverAt self.resolver)
      (other : self.LeavesNames input) (done : World.step world input = .ok next) :
      (c.withWorld next).resolverAt self.resolver = c.resolverAt self.resolver := by
    rw [← held]
    obtain ⟨sender, action⟩ := input
    refine resolverAt_step ?_ ?_ done
    · rintro request rfl
      exact other rfl
    · rintro call rfl
      exact other rfl
  exact exec_preserves_of_forall kept rfl others

/-- Only a binding reaches a resolver. -/
theorem resolverAt_transact {created : Address} (silent : ¬ Names transaction) :
    (settle (fun block created => Chain.transact block created transaction) c created).resolverAt self.resolver =
      c.resolverAt self.resolver := by
  cases outcome : c.transact created transaction with
  | error error => rw [settle_error outcome]
  | ok next =>
    rw [settle_ok outcome]
    cases transaction with
    | sendTransaction account recipient value =>
      cases outcome
      rfl
    | writeContract account address function gas =>
      cases function with
      | setIdentity node parentNode identity => exact absurd ⟨_, _, _, _, _, _, rfl⟩ silent
      | setScore agent score =>
        simp only [Chain.transact, bind_eq_ok, pure_outcome, Except.ok.injEq] at outcome
        obtain ⟨-, -, scores, -, rfl⟩ := outcome
        rfl
      | _ =>
        simp only [Chain.transact, Chain.worldAction, bind_eq_ok, pure_outcome, Except.ok.injEq] at outcome
        obtain ⟨action, acts, world, stepped, rfl⟩ := outcome
        refine resolverAt_step ?_ ?_ stepped <;> grind

theorem resolverAt_mine (inclusion : Inclusion) (hash : JsString)
    (others : ∀ input ∈ inclusion.meanwhile, self.LeavesNames input) :
    (¬ Names transaction → (c.mine hash inclusion transaction).resolverAt self.resolver =
      c.resolverAt self.resolver) ∧
      (c.mine hash inclusion (naming self lib account node identity)).resolverAt self.resolver =
        (c.resolverAt self.resolver).map (Parts.boundResolver · account node (self.parentNode lib) identity) := by
  constructor
  · intro silent
    obtain ⟨status, same⟩ := @Chain.mine_eq _ _ _ c transaction hash inclusion
    rw [same]
    exact (resolverAt_transact silent).trans (resolverAt_meanwhile others)
  · obtain ⟨status, same⟩ := @Chain.mine_eq _ _ _ c (naming self lib account node identity) hash inclusion
    have before := @resolverAt_meanwhile _ _ _ self c _ others
    rw [same, ← before]
    generalize c.meanwhile inclusion.meanwhile = block
    have acts : block.worldAction self.resolver inclusion.created (.setIdentity node (self.parentNode lib) identity) =
        .ok (.call self.resolver (.resolver (.setIdentity node (self.parentNode lib) identity))) := rfl
    obtain ⟨called, absent⟩ := @Chain.settle_resolver_call _ _ _ block self.resolver account
      (.setIdentity node (self.parentNode lib) identity)
    rw [naming, Chain.settle_transact acts]
    cases found : block.resolverAt self.resolver with
    | some contract =>
      rw [called contract found]
      exact (@Chain.tokenAt_setResolver _ block self.resolver self.resolver contract
        (Parts.boundResolver contract account node (self.parentNode lib) identity) found).2
    | none =>
      rw [absent found]
      exact found

end Resolver

section Runs
variable {self : HeroService} {lib : HeroLibrary} {account : Caller} {node : Bytes32} {identity : Address}
  {c next : Chain Hash} {transaction : Transaction} {log : List (Entry (Chain Hash) Exchange)}

/-- **The resolver, after a run that binds one name at most**: bound, if a block includes
the transaction, and as it was otherwise. -/
theorem resolver_of_run (trace : Trace (Chain.Serves self.LeavesNames) c log next)
    (only : ∀ entry ∈ log, ∀ sending, entry.event.1 = .send sending → Names sending →
      sending = naming self lib account node identity) :
    (blocks (naming self lib account node identity) log ≠ [] → next.resolverAt self.resolver =
        (c.resolverAt self.resolver).map (Parts.boundResolver · account node (self.parentNode lib) identity)) ∧
      (blocks (naming self lib account node identity) log = [] →
        next.resolverAt self.resolver = c.resolverAt self.resolver) := by
  have effects (entry : Entry (Chain Hash) Exchange) (member : entry ∈ log) :
      blockOf (naming self lib account node identity) entry ≠ none ∧ entry.after.resolverAt self.resolver =
          (entry.before.resolverAt self.resolver).map
            (Parts.boundResolver · account node (self.parentNode lib) identity) ∨
        blockOf (naming self lib account node identity) entry = none ∧
          entry.after.resolverAt self.resolver = entry.before.resolverAt self.resolver := by
    rcases entries_of_sends trace only entry member with
      ⟨sending, only, sent, inclusion, event, included, others, same⟩ | ⟨none, inputs, others, same⟩
    · obtain ⟨still, binds⟩ :=
        @resolverAt_mine _ _ _ self lib account node identity entry.before sending inclusion sent.hash others
      by_cases names : Names sending
      · obtain rfl := only names
        exact .inl ⟨by rw [blockOf_landed event included]; simp, by rw [same, binds]⟩
      · refine .inr ⟨?_, by rw [same, still names]⟩
        obtain ⟨before, event', after⟩ := entry
        cases event
        have apart : sending ≠ naming self lib account node identity := by
          rintro rfl
          exact names ⟨_, _, _, _, _, _, rfl⟩
        simp [blockOf, apart]
    · exact .inr ⟨none _, by rw [same, resolverAt_meanwhile others]⟩
  constructor
  · intro some
    obtain ⟨entry, member, here⟩ := blocks_ne_nil.mp some
    refine @Trace.settles _ _ _ _ _ _ _ (·.resolverAt self.resolver)
      (Option.map (Parts.boundResolver · account node (self.parentNode lib) identity)) (fun part => ?_) trace
      (fun entry member => ((effects entry member).imp And.right And.right).symm)
      ⟨entry, member, ((effects entry member).resolve_right fun other => here other.1).2⟩
    rw [Option.map_map]
    congr 1
    exact funext Parts.boundResolver_boundResolver
  · intro none
    refine @Trace.ends_eq _ _ _ _ _ _ _ (·.resolverAt self.resolver) trace fun entry member => ?_
    refine ((effects entry member).resolve_left fun other => other.1 ?_).2
    exact List.filterMap_eq_nil_iff.mp none entry member

end Runs

section Requests
variable {self : HeroService} {lib : HeroLibrary} {account : Caller} {params : LinkAgentParams} {wallet : Address}
  {label : JsString} {node : Bytes32} {identity : Address} {c next : Chain Hash}
  {log : List (Entry (Chain Hash) Exchange)} {May : World.Input → Prop}

/-- No name is bound but this one, to this identity. -/
def OnlyNames (self : HeroService) (lib : HeroLibrary) (node : Bytes32) (identity : Address) (request : ViemCall) :
    Prop :=
  ∀ sending, request = .send sending → Names sending →
    ∃ account, self.account = some account ∧ sending = naming self lib account node identity

theorem onlyNames_passive : Passive (OnlyNames self lib node identity) :=
  fun _ passive sending same => absurd same (passive sending)

theorem write_onlyNames {address : Address} {function : Except Thrown ContractFunction}
    (silent : ∀ account encoded, function = .ok encoded →
      ¬ Names (.writeContract account address encoded (some WRITE_GAS))) :
    (self.write address function).Calls (OnlyNames self lib node identity) := by
  refine write_calls onlyNames_passive ?_
  rintro account encoded - same sending sends names
  cases sends
  exact absurd names (silent account encoded same)

theorem gasDrip_onlyNames : (self.gasDrip wallet).Calls (OnlyNames self lib node identity) := by
  refine gasDrip_calls onlyNames_passive ?_
  rintro account - sending sends ⟨_, _, _, _, _, _, names⟩
  cases sends
  cases names

theorem bindSubname_onlyNames {name : JsString} :
    (self.bindSubname lib name identity).Calls (OnlyNames self lib (lib.namehash name) identity) := by
  refine write_calls onlyNames_passive ?_
  rintro account encoded configured same sending sends -
  cases same
  cases sends
  exact ⟨account, configured, rfl⟩

theorem linkAgent_onlyNames :
    (self.linkAgent lib params).Calls (OnlyNames self lib (self.agentNode lib params) params.personIdentity) := by
  refine .ofExcept_bind fun account _ => .ofExcept_bind fun label normal => ?_
  obtain rfl := normalizeLabel_eq_ok normal
  refine (linkUnlessLinked_calls onlyNames_passive ?_).bind fun _ => bindSubname_onlyNames.bind fun _ =>
    (write_onlyNames ?_).bind fun _ => gasDrip_onlyNames.bind fun _ => (write_onlyNames ?_).bind fun _ => trivial
  · rintro account - sending sends ⟨_, _, _, _, _, _, names⟩
    cases sends
    cases names
  · rintro account encoded same ⟨_, _, _, _, _, _, names⟩
    cases names
    cases encodes : lib.encodeUint256 params.requestedScore <;> rw [encodes] at same <;> cases same
  · rintro account encoded same ⟨_, _, _, _, _, _, names⟩
    cases same
    cases names

/-- Until the identity is known, no name is bound. -/
theorem createIdentity_onlyNames : (self.createIdentity lib wallet).Calls (OnlyNames self lib node identity) := by
  refine createIdentity_calls onlyNames_passive ?_
  rintro account - sending sends ⟨_, _, _, _, _, _, names⟩
  cases sends
  cases names

omit [Crypto Hash] [DecidableEq Hash] in
theorem answered_quiet {α : Type} {program later : Handler α}
    {Serves : Chain Hash → Exchange → Chain Hash → Prop}
    (calls : program.Calls fun request => ∀ factory wallet, request ≠ .identityOfWallet factory wallet)
    (passes : program.Passes Serves c log later next) : log.filterMap answered = [] := by
  refine List.filterMap_eq_nil_iff.mpr fun entry member => ?_
  have other := calls.of_passes passes entry member
  obtain ⟨before, ⟨request, answer⟩, after⟩ := entry
  cases request with
  | identityOfWallet factory wallet => exact absurd rfl (other factory wallet)
  | _ => rfl

/-- The identity is the first that the factory names. -/
theorem createIdentity_answered {created : CreateIdentityResult}
    (passes : (self.createIdentity lib wallet).Passes (Chain.Serves May) c log (.done created) next) :
    ((log.filterMap answered).find? fun identity => identity ≠ 0) = some created.identity := by
  have reads {c next : Chain Hash} {log : List (Entry (Chain Hash) Exchange)} {identity : Address}
      (passes : (identityOfWallet self.factory wallet).Passes (Chain.Serves May) c log (.done identity) next) :
      log.filterMap answered = [identity] := by
    obtain ⟨answer, middle, rest, rfl, -, answers⟩ := Program.passes_call.mp passes
    obtain ⟨rfl, rfl, -⟩ := Program.passes_ofExcept.mp answers
    rfl
  rw [HeroService.createIdentity] at passes
  split at passes
  · cases (Program.reaches_fail.mp passes.2).2
  obtain ⟨one, two, existing, middle, rfl, first, rest⟩ := Program.passes_bind_done.mp passes
  rw [List.filterMap_append, reads first]
  split at rest
  · rename_i used
    obtain ⟨-, same, -⟩ := Program.passes_done.mp rest
    cases same
    simp [used]
  · rename_i unused
    obtain ⟨three, _, account, _, rfl, client, rest⟩ := Program.passes_bind_done.mp rest
    obtain ⟨five, _, hash, _, rfl, sends, rest⟩ := Program.passes_bind_done.mp rest
    obtain ⟨seven, _, status, _, rfl, waits, rest⟩ := Program.passes_bind_done.mp rest
    obtain ⟨nine, _, identity, _, rfl, second, rest⟩ := Program.passes_bind_done.mp rest
    split at rest
    · cases (Program.reaches_fail.mp rest.2).2
    · rename_i nonzero
      obtain ⟨rfl, same, -⟩ := Program.passes_done.mp rest
      cases same
      have waiting : (waitForTransactionReceipt hash).Calls fun request =>
          ∀ factory wallet, request ≠ .identityOfWallet factory wallet :=
        ⟨by simp, fun answer => Program.calls_ofExcept answer⟩
      have none := answered_quiet walletClient_calls client
      have sent := answered_quiet (send_calls (by simp)) sends
      have waited := answered_quiet waiting waits
      simp only [List.filterMap_append, none, sent, waited, reads second]
      simp [unused, nonzero]

/-- A request binds its own name only, and to its own identity. -/
def SendsOnly (self : HeroService) (lib : HeroLibrary) (request : HeroRequest)
    (log : List (Entry (Chain Hash) Exchange)) :
    Prop :=
  (∀ entry ∈ log, ∀ sending, entry.event.1 = .send sending → ¬ Names sending) ∨
    ∃ identity, request.identity log = some identity ∧
      ∀ entry ∈ log, OnlyNames self lib (request.node self lib) identity entry.event.1

omit [Crypto Hash] [DecidableEq Hash] in
/-- What binds no name of any identity binds none. -/
theorem silent_of_onlyNames (node : Bytes32)
    (only : ∀ identity, ∀ entry ∈ log, OnlyNames self lib node identity entry.event.1) :
    ∀ entry ∈ log, ∀ sending, entry.event.1 = .send sending → ¬ Names sending := by
  intro entry member sending sends names
  obtain ⟨account, -, zero⟩ := only 0 entry member sending sends names
  obtain ⟨other, -, one⟩ := only 1 entry member sending sends names
  cases zero.symm.trans one

theorem provisionUser_sends {later : Handler ProvisionResult}
    (passes : (self.provisionUser lib wallet label).Passes (Chain.Serves May) c log later next) :
    SendsOnly self lib (.provisionUser wallet label) log := by
  rcases Program.passes_ofExcept_bind passes with rfl | ⟨account, -, passes⟩
  · exact .inl (by simp)
  rcases Program.passes_ofExcept_bind passes with rfl | ⟨label', normal, passes⟩
  · exact .inl (by simp)
  obtain rfl := normalizeLabel_eq_ok normal
  rcases Program.passes_bind.mp passes with ⟨_, inside, -⟩ | ⟨one, two, created, middle, rfl, creates, rest⟩
  · exact .inl (silent_of_onlyNames 0 fun identity => createIdentity_onlyNames.of_passes inside)
  have named : ((HeroRequest.provisionUser wallet label).identity (one ++ two)) = some created.identity := by
    rw [HeroRequest.identity, List.filterMap_append, List.find?_append, createIdentity_answered creates]
    rfl
  refine .inr ⟨_, named, fun entry member => ?_⟩
  rcases List.mem_append.mp member with early | late
  · exact createIdentity_onlyNames.of_passes creates entry early
  · refine Program.Calls.of_passes (gasDrip_onlyNames.bind fun _ => ?_) rest entry late
    exact bindSubname_onlyNames.bind fun _ => trivial

/-- **What a request sends.** -/
theorem request_sends {request : HeroRequest} {later : Handler Binding}
    (passes : (request.handler self lib).Passes (Chain.Serves May) c log later next) :
    SendsOnly self lib request log := by
  cases request with
  | linkAgent params =>
    have calls : ((HeroRequest.linkAgent params).handler self lib).Calls
        (OnlyNames self lib (self.agentNode lib params) params.personIdentity) :=
      linkAgent_onlyNames.bind fun _ => trivial
    exact .inr ⟨_, rfl, calls.of_passes passes⟩
  | provisionUser wallet label =>
    rcases Program.passes_bind.mp passes with ⟨_, inside, -⟩ | ⟨one, two, result, middle, rfl, inside, rest⟩
    · exact provisionUser_sends inside
    · obtain ⟨rfl, -⟩ := Program.passes_done.mp rest
      rw [List.append_nil]
      exact provisionUser_sends inside

end Requests

/-! ## Whose a name is -/

section Sessions
variable {self : HeroService} {lib : HeroLibrary} {session last before after : Session Hash} {served : Served Hash}
  {log : List (Entry (Session Hash) (Served Hash))}

/-- What a request binds its name to, if a block includes that. -/
theorem naming_of_sends {request : HeroRequest} {log : List (Entry (Chain Hash) Exchange)}
    (sends : SendsOnly self lib request log) : ∃ account identity,
      (∀ entry ∈ log, ∀ sending, entry.event.1 = .send sending → Names sending →
        sending = naming self lib account (request.node self lib) identity) ∧
      (blocks (naming self lib account (request.node self lib) identity) log ≠ [] →
        self.account = some account ∧ request.identity log = some identity) := by
  have silent (none : ∀ entry ∈ log, ∀ sending, entry.event.1 = .send sending → ¬ Names sending) :
      ∃ account identity,
        (∀ entry ∈ log, ∀ sending, entry.event.1 = .send sending → Names sending →
          sending = naming self lib account (request.node self lib) identity) ∧
        (blocks (naming self lib account (request.node self lib) identity) log ≠ [] →
        self.account = some account ∧ request.identity log = some identity) := by
    refine ⟨⟨1, by decide⟩, 0, fun entry member sending sent names =>
      absurd names (none entry member sending sent), ?_⟩
    intro some
    refine absurd (blocks_quiet fun entry member sent => ?_) some
    exact none entry member _ sent ⟨_, _, _, _, _, _, rfl⟩
  rcases sends with none | ⟨identity, named, only⟩
  · exact silent none
  cases configured : self.account with
  | none =>
    rw [configured] at silent
    refine silent fun entry member sending sent names => ?_
    obtain ⟨account, same, -⟩ := only entry member sending sent names
    cases configured.symm.trans same
  | some account =>
    refine ⟨account, identity, fun entry member sending sent names => ?_, fun _ => ⟨rfl, named⟩⟩
    obtain ⟨other, same, rfl⟩ := only entry member sending sent names
    cases configured.symm.trans same
    rfl

/-- **One request** leaves every name as it was, or binds its own. -/
theorem bound_of_request (step : Session.Serves self lib before served after) :
    (∃ identity, Binds self lib before.chain served identity ∧
        (∀ other, Binds self lib before.chain served other → other = identity) ∧
        ∀ node, after.chain.boundTo self.resolver node =
          if node = served.request.node self lib then some identity else before.chain.boundTo self.resolver node) ∨
      (∀ identity, ¬ Binds self lib before.chain served identity) ∧
        ∀ node, after.chain.boundTo self.resolver node = before.chain.boundTo self.resolver node := by
  obtain ⟨later, passes, -⟩ := step
  obtain ⟨account, identity, only, known⟩ := naming_of_sends (request_sends passes)
  obtain ⟨bound, still⟩ := resolver_of_run passes.1 only
  have unique (other : Address) (binds : Binds self lib before.chain served other) : other = identity ∧
      blocks (naming self lib account (served.request.node self lib) identity) served.log ≠ [] ∧
      ∃ contract, before.chain.resolverAt self.resolver = some contract ∧
        account = (contract.tenantOf (self.parentNode lib)).controller := by
    obtain ⟨sender, contract, -, found, controls, -, included⟩ := binds
    obtain ⟨entry, member, here⟩ := blocks_ne_nil.mp included
    have same := only entry member _ (sent_of_blockOf here) ⟨_, _, _, _, _, _, rfl⟩
    rw [naming, naming, Transaction.writeContract.injEq, ContractFunction.setIdentity.injEq] at same
    obtain ⟨rfl, -, ⟨-, -, rfl⟩, -⟩ := same
    exact ⟨rfl, included, contract, found, controls⟩
  by_cases landed : blocks (naming self lib account (served.request.node self lib) identity) served.log = []
  · refine .inr ⟨fun other binds => (unique other binds).2.1 landed, fun node => ?_⟩
    rw [Chain.boundTo, still landed]
    rfl
  have reached := bound landed
  obtain ⟨configured, named⟩ := known landed
  cases found : before.chain.resolverAt self.resolver with
  | none =>
    refine .inr ⟨fun other binds => ?_, fun node => ?_⟩
    · obtain ⟨-, -, contract, there, -⟩ := unique other binds
      cases found.symm.trans there
    · rw [Chain.boundTo, reached, Chain.boundTo, found]
      rfl
  | some contract =>
    have reads (node : Bytes32) : after.chain.boundTo self.resolver node = some ((Parts.boundResolver contract account
        (served.request.node self lib) (self.parentNode lib) identity).identityOf node) := by
      rw [Chain.boundTo, reached, found]
      rfl
    have was (node : Bytes32) : before.chain.boundTo self.resolver node = some (contract.identityOf node) := by
      rw [Chain.boundTo, found]
      rfl
    by_cases controls : (account : Address) = (contract.tenantOf (self.parentNode lib)).controller
    · refine .inl ⟨identity, ⟨account, contract, configured, found, controls, named, landed⟩,
        fun other binds => (unique other binds).1, fun node => ?_⟩
      rw [reads, was, Parts.boundResolver_eq, if_pos controls, ← apply_ite some]
      exact congrArg some (Function.update_apply ..)
    · refine .inr ⟨fun other binds => ?_, fun node => ?_⟩
      · obtain ⟨-, -, again, there, foreign⟩ := unique other binds
        cases found.symm.trans there
        exact controls foreign
      · rw [reads, was, Parts.boundResolver_eq, if_neg controls]

omit [Crypto Hash] [DecidableEq Hash] in
/-- What is granted is bound. -/
theorem forall_grant {c : Chain Hash} {granted : List Binding} {later : Handler Binding} :
    (∀ binding ∈ grant self c granted later, c.boundTo self.resolver binding.node = some binding.identity) ↔
      ∀ binding ∈ granted, c.boundTo self.resolver binding.node = some binding.identity := by
  cases later with
  | done binding =>
    rw [grant]
    split
    · rename_i bound
      rw [List.forall_mem_cons]
      exact and_iff_right bound
    · rfl
  | _ => rfl

/-- A request keeps what was granted if and only if it agrees with it. -/
theorem request_keeps_iff (kept : before.Kept self) (step : Session.Serves self lib before served after) :
    after.Kept self ↔ Agrees self lib ⟨before, served, after⟩ := by
  have effect := bound_of_request step
  obtain ⟨later, -, granted⟩ := step
  rw [Session.Kept, granted, forall_grant, Agrees]
  rcases effect with ⟨identity, binds, unique, same⟩ | ⟨quiet, same⟩
  · constructor
    · intro still other binds' binding member named
      obtain rfl := unique other binds'
      have now := still binding member
      rw [same, if_pos named, Option.some.injEq] at now
      exact now.symm
    · intro agrees binding member
      rw [same]
      by_cases named : binding.node = served.request.node self lib
      · rw [if_pos named, agrees identity binds binding member named]
      · rw [if_neg named]
        exact kept binding member
  · refine iff_of_true (fun binding member => ?_) fun identity binds => absurd binds (quiet identity)
    rw [same]
    exact kept binding member

/-- **A provisioned name is not taken over**, in a session of requests of any kind that
go as they may, if and only if every one of them that binds a name already granted is for
the identity it was granted to. -/
theorem names_kept_iff (fresh : session.granted = []) (trace : Trace (Session.Serves self lib) session log last) :
    (∀ entry ∈ log, entry.after.Kept self) ↔ ∀ entry ∈ log, Agrees self lib entry := by
  refine @Trace.good_iff _ _ _ _ _ _ (fun _ => True) (Session.Kept self) (Agrees self lib) ?_ trace trivial ?_
  · exact fun before event after _ kept step => ⟨trivial, request_keeps_iff kept step⟩
  · rw [Session.Kept, fresh]
    simp

end Sessions

/-- A second person is at 13, with the identity 31. -/
def twoPeople : Chain Symbolic :=
  { heroChain with
    world := exec World.step heroRoom (heroOpening ++ [⟨Stack.admin, .stack (.createIdentity 13 31)⟩]) }

/-- One request after another: what the first is granted, and whose it is after each. -/
def inTurn (first second : HeroRequest) : Option (Binding × Option Address × Option Address) := do
  let (binding, middle) ← (first.handler adminService heroLibrary).carryOut Chain.reply twoPeople
  let (_, last) ← (second.handler adminService heroLibrary).carryOut Chain.reply middle
  pure (binding, middle.boundTo 41 binding.node, last.boundTo 41 binding.node)

theorem serves_of_carryOut {session : Session Symbolic} {request : HeroRequest} {binding : Binding}
    {next : Chain Symbolic}
    (ran : (request.handler adminService heroLibrary).carryOut Chain.reply session.chain = some (binding, next)) :
    ∃ log, Session.Serves adminService heroLibrary session ⟨request, log⟩
      ⟨next, grant adminService next session.granted (.done binding)⟩ := by
  have completes : (request.handler adminService heroLibrary).Completes
      (Chain.Serves adminService.LeavesNames) session.chain
      binding next := Program.completes_of_carryOut (fun _ _ _ _ => Chain.serves_of_reply) ran
  obtain ⟨log, passes⟩ := completes.passes
  exact ⟨log, _, passes, rfl⟩

theorem inTurn_trace {first second : HeroRequest} {binding : Binding} {late : Option Address}
    (ran : inTurn first second = some (binding, some binding.identity, late)) :
    ∃ one two middle last, Trace (Session.Serves adminService heroLibrary) ⟨twoPeople, []⟩
        [⟨⟨twoPeople, []⟩, ⟨first, one⟩, middle⟩, ⟨middle, ⟨second, two⟩, last⟩] last ∧
      middle.granted = [binding] ∧ middle.Kept adminService ∧ last.chain.boundTo 41 binding.node = late ∧
        ∃ more, last.granted = grant adminService last.chain middle.granted (.done more) := by
  obtain ⟨⟨granted, middle⟩, early, rest⟩ := Option.bind_eq_some_iff.mp ran
  obtain ⟨⟨more, last⟩, later, reads⟩ := Option.bind_eq_some_iff.mp rest
  simp only [Option.pure_def, Option.some.injEq, Prod.mk.injEq] at reads
  obtain ⟨rfl, bound, now⟩ := reads
  have recorded : grant adminService middle [] (.done granted) = [granted] := if_pos bound
  obtain ⟨one, first⟩ := @serves_of_carryOut ⟨twoPeople, []⟩ _ _ _ early
  obtain ⟨two, second⟩ := @serves_of_carryOut ⟨middle, grant adminService middle [] (.done granted)⟩ _ _ _ later
  have kept := (@forall_grant _ adminService middle [] (.done granted)).mpr (by simp)
  exact ⟨one, two, _, _, .cons first (.cons second (.nil _)), recorded, kept, now, more, rfl⟩

/-- The same person again. -/
theorem names_kept_again : ∃ one two middle last,
    Agrees adminService heroLibrary ⟨⟨twoPeople, []⟩, ⟨.provisionUser 11 (text "Ana"), one⟩, middle⟩ ∧
      Agrees adminService heroLibrary ⟨middle, ⟨.provisionUser 11 (text "a.n.a"), two⟩, last⟩ := by
  have ran : inTurn (.provisionUser 11 (text "Ana")) (.provisionUser 11 (text "a.n.a")) =
      some (⟨heroLibrary.namehash (text "ana.casaazul.eth"), 30⟩, some 30, some 30) := by decide +kernel
  obtain ⟨one, two, middle, last, trace, granted, kept, bound, more, recorded⟩ := inTurn_trace ran
  have ended : last.Kept adminService := by
    rw [Session.Kept, recorded, forall_grant, granted, List.forall_mem_singleton]
    exact bound
  have agrees := (names_kept_iff rfl trace).mp (by simp [kept, ended])
  exact ⟨one, two, middle, last, agrees _ (by simp), agrees _ (by simp)⟩

/-- Another person takes the name over, by another spelling. -/
theorem a_name_taken_over :
    ¬ ∀ (self : HeroService) (lib : HeroLibrary) (session last : Session Symbolic)
        (log : List (Entry (Session Symbolic) (Served Symbolic))), session.granted = [] →
      Trace (Session.Serves self lib) session log last → ∀ entry ∈ log, entry.after.Kept self := by
  intro claimed
  have ran : inTurn (.provisionUser 11 (text "Ana")) (.provisionUser 13 (text "ana")) =
      some (⟨heroLibrary.namehash (text "ana.casaazul.eth"), 30⟩, some 30, some 31) := by decide +kernel
  obtain ⟨one, two, middle, last, trace, granted, -, bound, more, recorded⟩ := inTurn_trace ran
  have kept := claimed _ _ _ _ _ rfl trace _ (List.mem_cons_of_mem _ List.mem_cons_self)
  rw [Session.Kept, recorded, forall_grant, granted, List.forall_mem_singleton] at kept
  cases bound.symm.trans kept

end PassportKit.Hero
