import PassportKit.ModelB

/-! The wallet map of the factory over whole histories. One wallet plays many
parts over time: unknown, an agent of one person, unknown again, a person of its
own. What no order of minting, linking and unlinking changes is that a minted
identity has exactly one wallet of its own, the one it was minted for. -/
namespace PassportKit
open Evm OpenZeppelin Eip712 Runs

namespace Stack

variable {Hash : Type} [Crypto Hash] [DecidableEq Hash] {s next start : Stack Hash} {input : Input}
  {inputs : List Input} {wallet identity : Address}

/-- What holds of the wallet map in the state reached by a run. -/
structure WalletLaws (start : Stack Hash) (inputs : List Input) (s : Stack Hash) : Prop where
  resolves : ∀ wallet, s.factory.identityOfWallet wallet ≠ 0 →
    s.factory.isIdentity (s.factory.identityOfWallet wallet) = true
  linked : ∀ wallet, s.factory.isAgent wallet = true → s.factory.identityOfWallet wallet ≠ 0
  /-- Exactly one wallet that is no agent's, the one the identity was minted for. -/
  onePerson : ∀ identity, s.factory.isIdentity identity = true →
    ∃ wallet, (∀ other, MintedFor start inputs other identity ↔ other = wallet) ∧
      ∀ other, s.factory.isAgent other = false ∧ s.factory.identityOfWallet other = identity ↔
        other = wallet
  permanent : ∀ wallet, s.factory.isAgent wallet = false →
    s.factory.identityOfWallet wallet ≠ 0 → ∀ further,
      (exec step s further).factory.isAgent wallet = false ∧
      (exec step s further).factory.identityOfWallet wallet = s.factory.identityOfWallet wallet
  monotone : ∀ identity, s.factory.isIdentity identity = true → ∀ further,
    (exec step s further).factory.isIdentity identity = true
  touchesOneWallet : ∀ sender request wallet next,
    request = .unlinkAgent wallet ∨ (∃ identity, request = .linkAgent wallet identity) →
    step s ⟨sender, .factory request⟩ = .ok next →
    next.factory.isIdentity = s.factory.isIdentity ∧
      ∀ other, other ≠ wallet →
        next.factory.identityOfWallet other = s.factory.identityOfWallet other ∧
        next.factory.isAgent other = s.factory.isAgent other
  /-- The linking account can take it back at once, and so can any other agent of
  the factory; nothing of the link is left. -/
  unlinkUndoesLink : ∀ sender wallet identity reached,
    step s ⟨sender, .factory (.linkAgent wallet identity)⟩ = .ok reached →
    s.factory.access.hasRole AGENT_ROLE sender = true ∧
      ∀ later : Caller, s.factory.access.hasRole AGENT_ROLE later = true →
        step reached ⟨later, .factory (.unlinkAgent wallet)⟩ = .ok s
  unlinkFrees : ∀ sender wallet next,
    step s ⟨sender, .factory (.unlinkAgent wallet)⟩ = .ok next →
    wallet ≠ 0 ∧ next.factory.identityOfWallet wallet = 0 ∧ next.factory.isAgent wallet = false
  /-- A wallet that leads nowhere, whatever it was before, can be linked or get
  an identity of its own. -/
  reusable : ∀ wallet (sender : Caller), wallet ≠ 0 → s.factory.identityOfWallet wallet = 0 →
    s.factory.access.hasRole AGENT_ROLE sender = true →
    (∀ identity, s.factory.isIdentity identity = true →
      ∃ next, step s ⟨sender, .factory (.linkAgent wallet identity)⟩ = .ok next ∧
        next.factory.isAgent wallet = true ∧
        next.factory.identityOfWallet wallet = identity) ∧
    ∀ created, created ≠ 0 → s.code created = .empty →
      ∃ next, step s ⟨sender, .createIdentity wallet created⟩ = .ok next ∧
        next.factory.isAgent wallet = false ∧ next.factory.identityOfWallet wallet = created

omit [Crypto Hash] [DecidableEq Hash] in
theorem person_congr (same : next.factory = s.factory) :
    next.Person wallet identity ↔ s.Person wallet identity := by
  constructor
  · rintro ⟨notAgent, resolves, real⟩
    exact ⟨same ▸ notAgent, same ▸ resolves, real⟩
  · rintro ⟨notAgent, resolves, real⟩
    exact ⟨same ▸ notAgent, same ▸ resolves, real⟩

omit [Crypto Hash] [DecidableEq Hash] in
/-- Linking and unlinking make and unmake no person. -/
theorem factoryCall_person {request : IdentityFactory.Call} {factory : IdentityFactory}
    {msgSender : Address} (called : s.factory.call msgSender request = .ok factory) :
    ({ s with factory } : Stack Hash).Person wallet identity ↔ s.Person wallet identity := by
  obtain ⟨-, ⟨wallets, agents⟩ | ⟨agent, target, -, -, -, unused, wallets, agents⟩ |
    ⟨agent, -, wasLinked, wallets, agents⟩⟩ := IdentityFactory.call_changes called
  · constructor
    · rintro ⟨notAgent, resolves, real⟩
      exact ⟨agents ▸ notAgent, wallets ▸ resolves, real⟩
    · rintro ⟨notAgent, resolves, real⟩
      exact ⟨agents ▸ notAgent, wallets ▸ resolves, real⟩
  · refine person_of_elsewhere wallets agents ?_ ?_
    · rintro ⟨-, rfl, real⟩
      exact real unused
    · rintro ⟨notAgent, -, -⟩
      simp [agents] at notAgent
  · refine person_of_elsewhere wallets agents ?_ ?_
    · rintro ⟨notAgent, -, -⟩
      simp [wasLinked] at notAgent
    · rintro ⟨-, resolves, real⟩
      simp only [wallets, Function.update_self] at resolves
      exact real resolves.symm

/-- Minting makes exactly one person. -/
theorem minted_person (valid : Valid s) {created owner msgSender : Address} {factory : IdentityFactory}
    {contract : Identity Hash} (real : created ≠ 0)
    (done : s.factory.createIdentity msgSender owner created = .ok (factory, contract)) :
    (({ s with factory } : Stack Hash).setCode created (.identity contract)).Person wallet identity ↔
      s.Person wallet identity ∨ wallet = owner ∧ identity = created := by
  obtain ⟨-, -, unused, -, rfl⟩ := IdentityFactory.createIdentity_changes done
  have unlinked : s.factory.isAgent owner = false := by
    by_contra agent
    exact valid.linked owner (by simpa using agent) unused
  by_cases same : wallet = owner
  · subst same
    constructor
    · rintro ⟨-, resolves, -⟩
      simp only [setCode_factory, Function.update_self] at resolves
      exact .inr ⟨rfl, resolves.symm⟩
    · rintro (⟨-, resolves, nonzero⟩ | ⟨-, rfl⟩)
      · exact absurd (resolves.symm.trans unused) nonzero
      · exact ⟨unlinked, by simp, real⟩
  · simp only [same, false_and, or_false]
    constructor
    · rintro ⟨notAgent, resolves, nonzero⟩
      simp only [setCode_factory, Function.update_of_ne same] at resolves
      exact ⟨notAgent, resolves, nonzero⟩
    · rintro ⟨notAgent, resolves, nonzero⟩
      refine ⟨notAgent, ?_, nonzero⟩
      simpa only [setCode_factory, Function.update_of_ne same] using resolves

/-- **Step lemma.** The persons after a transaction are those before it, and the
one it mints an identity for; likewise the minted identities. -/
theorem step_persons (valid : Valid s) (done : step s input = .ok next) :
    (∀ wallet identity, next.Person wallet identity ↔
      s.Person wallet identity ∨ input.action = .createIdentity wallet identity) ∧
    ∀ identity, next.factory.isIdentity identity = true ↔
      s.factory.isIdentity identity = true ∨ ∃ wallet, input.action = .createIdentity wallet identity := by
  have untouched (same : next.factory = s.factory)
      (other : ∀ wallet identity, input.action ≠ .createIdentity wallet identity) :
      (∀ wallet identity, next.Person wallet identity ↔
        s.Person wallet identity ∨ input.action = .createIdentity wallet identity) ∧
      ∀ identity, next.factory.isIdentity identity = true ↔
        s.factory.isIdentity identity = true ∨
          ∃ wallet, input.action = .createIdentity wallet identity := by
    refine ⟨fun wallet identity => ?_, fun identity => ?_⟩
    · rw [person_congr same]
      exact (or_iff_left (other wallet identity)).symm
    · rw [same]
      exact (or_iff_left (fun ⟨wallet, mints⟩ => other wallet identity mints)).symm
  cases step_change done with
  | registry action _ => exact untouched rfl (by simp [action])
  | gate action _ => exact untouched rfl (by simp [action])
  | elapsed action => exact untouched rfl (by simp [action])
  | issuer action _ _ => exact untouched rfl (by simp [action])
  | identity action _ _ => exact untouched rfl (by simp [action])
  | deployed action _ _ _ => exact untouched rfl (by simp [action])
  | foreign old new action _ _ => exact untouched rfl (by simp [action])
  | factory action called =>
    refine ⟨fun wallet identity => ?_, fun identity => ?_⟩
    · rw [factoryCall_person called]
      exact (or_iff_left (by simp [action])).symm
    · have kept := (IdentityFactory.call_changes called).1
      simp [kept, action]
  | @minted owner created factory contract action real free creation =>
    refine ⟨fun wallet identity => ?_, fun identity => ?_⟩
    · rw [minted_person valid real creation, action, Action.createIdentity.injEq]
      exact or_congr_right (and_congr eq_comm eq_comm)
    · obtain ⟨-, -, -, -, rfl⟩ := IdentityFactory.createIdentity_changes creation
      simp only [action, Action.createIdentity.injEq, setCode_factory, exists_eq_left']
      by_cases same : identity = created
      · subst same
        simp
      · rw [Function.update_of_ne same]
        exact (or_iff_left (Ne.symm same)).symm

/-- Nothing lives at the address of an identity not yet minted. -/
theorem Valid.fresh_not_minted (valid : Valid s) (free : s.code identity = .empty) :
    s.factory.isIdentity identity = false := by
  have unkeyed := (valid.minted_iff identity).not
  simpa [keysAt, free, Code.keys] using unkeyed

/-- **Permanence.** A person stays the person of the identity. -/
theorem exec_person (valid : Valid s) (person : s.Person wallet identity) (further : List Input) :
    (exec step s further).Person wallet identity := by
  have kept (before : Stack Hash) (input : Input) (after : Stack Hash)
      (held : before.Valid ∧ before.Person wallet identity) (done : step before input = .ok after) :
      after.Valid ∧ after.Person wallet identity :=
    ⟨step_valid held.1 done, ((step_persons held.1 done).1 wallet identity).mpr (.inl held.2)⟩
  exact (exec_preserves kept ⟨valid, person⟩ further).2

theorem exec_isIdentity (valid : Valid s) (minted : s.factory.isIdentity identity = true)
    (further : List Input) : (exec step s further).factory.isIdentity identity = true := by
  have kept (before : Stack Hash) (input : Input) (after : Stack Hash)
      (held : before.Valid ∧ before.factory.isIdentity identity = true)
      (done : step before input = .ok after) :
      after.Valid ∧ after.factory.isIdentity identity = true :=
    ⟨step_valid held.1 done, ((step_persons held.1 done).2 identity).mpr (.inl held.2)⟩
  exact (exec_preserves kept ⟨valid, minted⟩ further).2

/-- No identity has two persons. -/
def PersonsUnique (s : Stack Hash) : Prop :=
  ∀ first second identity, s.Person first identity → s.Person second identity → first = second

/-- The identity just minted had no person before. -/
theorem step_personsUnique (valid : Valid s) (unique : PersonsUnique s)
    (done : step s input = .ok next) : PersonsUnique next := by
  have persons := (step_persons valid done).1
  have fresh (wallet other identity : Address) (mints : input.action = .createIdentity other identity)
      (person : s.Person wallet identity) : False := by
    obtain ⟨-, resolves, real⟩ := person
    have minted := valid.resolves wallet (resolves ▸ real)
    rw [resolves] at minted
    cases step_change done with
    | @minted owner created factory contract action _ free _ =>
      obtain ⟨rfl, rfl⟩ := Action.createIdentity.inj (mints.symm.trans action)
      rw [valid.fresh_not_minted free] at minted
      cases minted
    | registry action _ => simp [action] at mints
    | factory action _ => simp [action] at mints
    | gate action _ => simp [action] at mints
    | elapsed action => simp [action] at mints
    | issuer action _ _ => simp [action] at mints
    | identity action _ _ => simp [action] at mints
    | deployed action _ _ _ => simp [action] at mints
    | foreign _ _ action _ _ => simp [action] at mints
  intro first second identity one two
  rcases (persons first identity).mp one with old | minted
  · rcases (persons second identity).mp two with old' | minted'
    · exact unique first second identity old old'
    · exact (fresh first second identity minted' old).elim
  · rcases (persons second identity).mp two with old' | minted'
    · exact (fresh second first identity minted old').elim
    · exact (Action.createIdentity.inj (minted.symm.trans minted')).1

omit [Crypto Hash] [DecidableEq Hash] in
theorem genesis_unmapped (fresh : Genesis s) :
    (∀ wallet, s.factory.identityOfWallet wallet = 0) ∧
      (∀ identity, s.factory.isIdentity identity = false) ∧ s.factory.issuerRegistry ≠ 0 := by
  obtain ⟨registryAddress, admin, -, factory, -⟩ := fresh.wired
  simp only [IdentityFactory.deploy, bind_eq_ok, revertIf_eq_ok, pure_outcome,
    Except.ok.injEq] at factory
  obtain ⟨-, -, -, registered, factory⟩ := factory
  rw [← factory]
  exact ⟨fun _ => rfl, fun _ => rfl, registered⟩

omit [Crypto Hash] [DecidableEq Hash] in
theorem Genesis.personsUnique (fresh : Genesis s) : PersonsUnique s := by
  rintro first second identity ⟨-, resolves, real⟩ -
  exact absurd (resolves.symm.trans ((genesis_unmapped fresh).1 first)) real

theorem Reachable.personsUnique (reachable : Reachable s) : PersonsUnique s := by
  obtain ⟨start, inputs, fresh, rfl⟩ := reachable
  have kept (before : Stack Hash) (input : Input) (after : Stack Hash)
      (held : before.Valid ∧ PersonsUnique before) (done : step before input = .ok after) :
      after.Valid ∧ PersonsUnique after :=
    ⟨step_valid held.1 done, step_personsUnique held.1 held.2 done⟩
  exact (exec_preserves kept ⟨genesis_valid fresh, fresh.personsUnique⟩ inputs).2

/-- An identity of a run was minted in it. -/
theorem exists_mintedFor (fresh : Genesis start)
    (minted : (exec step start inputs).factory.isIdentity identity = true) :
    ∃ wallet, MintedFor start inputs wallet identity := by
  have absent : ¬ start.factory.isIdentity identity = true := by
    simp [(genesis_unmapped fresh).2.1 identity]
  obtain ⟨before, ⟨sender, action⟩, after, next, rfl, missing, done, holds⟩ :=
    exec_turning_point (fun later : Stack Hash => later.factory.isIdentity identity = true) absent minted
  have valid : Valid (exec step start before) := Reachable.valid ⟨start, before, fresh, rfl⟩
  rcases ((step_persons valid done).2 identity).mp holds with old | ⟨wallet, mints⟩
  · exact absurd old missing
  · cases mints
    exact ⟨wallet, before, sender, after, next, rfl, done⟩

/-- And the wallet it was minted for is its person at the end of the run. -/
theorem mintedFor_person (fresh : Genesis start) (minted : MintedFor start inputs wallet identity) :
    (exec step start inputs).Person wallet identity := by
  obtain ⟨before, sender, after, next, rfl, done⟩ := minted
  have valid : Valid (exec step start before) := Reachable.valid ⟨start, before, fresh, rfl⟩
  have here : next.Person wallet identity := ((step_persons valid done).1 wallet identity).mpr (.inr rfl)
  rw [exec_append, exec_cons, settle_ok done]
  exact exec_person (step_valid valid done) here after

/-! ## Linking, unlinking and using a wallet again -/

/-- The zero wallet leads nowhere, and the factory has a registry to mint under. -/
structure Grounded (s : Stack Hash) : Prop where
  zeroWallet : s.factory.identityOfWallet 0 = 0
  registered : s.factory.issuerRegistry ≠ 0

theorem step_grounded (grounded : Grounded s) (done : step s input = .ok next) : Grounded next := by
  obtain ⟨zeroWallet, registered⟩ := grounded
  cases step_change done with
  | registry _ _ => exact ⟨zeroWallet, registered⟩
  | gate _ _ => exact ⟨zeroWallet, registered⟩
  | elapsed _ => exact ⟨zeroWallet, registered⟩
  | issuer _ _ _ => exact ⟨zeroWallet, registered⟩
  | identity _ _ _ => exact ⟨zeroWallet, registered⟩
  | deployed _ _ _ _ => exact ⟨zeroWallet, registered⟩
  | foreign _ _ _ _ _ => exact ⟨zeroWallet, registered⟩
  | @factory request factory _ called =>
    refine ⟨?_, ?_⟩
    · obtain ⟨-, ⟨wallets, -⟩ | ⟨agent, target, -, nonzero, -, -, wallets, -⟩ |
        ⟨agent, -, -, wallets, -⟩⟩ := IdentityFactory.call_changes called
      · exact (congrFun wallets 0).trans zeroWallet
      · exact (congrFun wallets 0).trans ((Function.update_of_ne nonzero.symm ..).trans zeroWallet)
      · refine (congrFun wallets 0).trans ?_
        rw [Function.update_apply]
        split
        · rfl
        · exact zeroWallet
    · rw [IdentityFactory.call_issuerRegistry called]
      exact registered
  | minted _ _ _ creation =>
    obtain ⟨-, nonzero, -, -, rfl⟩ := IdentityFactory.createIdentity_changes creation
    exact ⟨(Function.update_of_ne nonzero.symm ..).trans zeroWallet, registered⟩

theorem Reachable.grounded (reachable : Reachable s) : Grounded s := by
  obtain ⟨start, inputs, fresh, rfl⟩ := reachable
  obtain ⟨unmapped, -, registered⟩ := genesis_unmapped fresh
  exact exec_preserves (fun _ _ _ held done => step_grounded held done) ⟨unmapped 0, registered⟩ inputs

/-- A wallet is an agent's after a transaction exactly when it linked the wallet,
or the wallet was one before and it did not unlink it. -/
theorem step_isAgent (done : step s input = .ok next) :
    next.factory.isAgent wallet = true ↔
      (∃ identity, input.action = .factory (.linkAgent wallet identity)) ∨
      (s.factory.isAgent wallet = true ∧ input.action ≠ .factory (.unlinkAgent wallet)) := by
  cases step_change done with
  | registry action _ => simp [action]
  | gate action _ => simp [action]
  | elapsed action => simp [action]
  | issuer action _ _ => simp [action]
  | identity action _ _ => simp [action]
  | deployed action _ _ _ => simp [action]
  | foreign _ _ action _ _ => simp [action]
  | factory action called =>
    rw [IdentityFactory.call_isAgent called, action]
    simp only [Action.factory.injEq, ne_eq]
  | minted action _ _ creation =>
    obtain ⟨-, -, -, -, rfl⟩ := IdentityFactory.createIdentity_changes creation
    simp [action]

/-- What a committed link did. -/
theorem step_linkAgent {sender : Caller} :
    step s ⟨sender, .factory (.linkAgent wallet identity)⟩ = .ok next ↔
      s.factory.access.hasRole AGENT_ROLE sender = true ∧ wallet ≠ 0 ∧
      s.factory.isIdentity identity = true ∧ s.factory.identityOfWallet wallet = 0 ∧
      next = { s with factory := { s.factory with
        identityOfWallet := Function.update s.factory.identityOfWallet wallet identity
        isAgent := Function.update s.factory.isAgent wallet true } } := by
  simp only [step, IdentityFactory.call, bind_eq_ok, IdentityFactory.linkAgent_eq_ok, pure_outcome,
    Except.ok.injEq]
  constructor
  · rintro ⟨factory, ⟨role, real, minted, unused, rfl⟩, rfl⟩
    exact ⟨role, real, minted, unused, rfl⟩
  · rintro ⟨role, real, minted, unused, rfl⟩
    exact ⟨_, ⟨role, real, minted, unused, rfl⟩, rfl⟩

/-- What a committed unlink did. -/
theorem step_unlinkAgent {sender : Caller} :
    step s ⟨sender, .factory (.unlinkAgent wallet)⟩ = .ok next ↔
      s.factory.access.hasRole AGENT_ROLE sender = true ∧ s.factory.isAgent wallet = true ∧
      next = { s with factory := { s.factory with
        identityOfWallet := Function.update s.factory.identityOfWallet wallet 0
        isAgent := Function.update s.factory.isAgent wallet false } } := by
  simp only [step, IdentityFactory.call, bind_eq_ok, IdentityFactory.unlinkAgent_eq_ok, pure_outcome,
    Except.ok.injEq]
  constructor
  · rintro ⟨factory, ⟨role, agent, rfl⟩, rfl⟩
    exact ⟨role, agent, rfl⟩
  · rintro ⟨role, agent, rfl⟩
    exact ⟨_, ⟨role, agent, rfl⟩, rfl⟩

/-- A link is undone by an unlink: the wallet was unused and no agent's. -/
theorem unlink_after_link (valid : Valid s) {sender later : Caller}
    (role : s.factory.access.hasRole AGENT_ROLE later = true)
    (done : step s ⟨sender, .factory (.linkAgent wallet identity)⟩ = .ok next) :
    step next ⟨later, .factory (.unlinkAgent wallet)⟩ = .ok s := by
  obtain ⟨-, -, -, unused, rfl⟩ := step_linkAgent.mp done
  have notAgent : s.factory.isAgent wallet = false := by
    by_contra agent
    exact valid.linked wallet (by simpa using agent) unused
  refine step_unlinkAgent.mpr ⟨role, Function.update_self .., ?_⟩
  have wallets : Function.update s.factory.identityOfWallet wallet 0 = s.factory.identityOfWallet := by
    rw [← unused]
    exact Function.update_eq_self ..
  have agents : Function.update s.factory.isAgent wallet false = s.factory.isAgent := by
    rw [← notAgent]
    exact Function.update_eq_self ..
  simp only [Function.update_idem, wallets, agents]

/-- Minting for a wallet that leads nowhere succeeds at any fresh address. -/
theorem createIdentity_of_unused (grounded : Grounded s) {sender : Caller} {created : Address}
    (role : s.factory.access.hasRole AGENT_ROLE sender = true) (real : wallet ≠ 0)
    (unused : s.factory.identityOfWallet wallet = 0) (fresh : created ≠ 0)
    (free : s.code created = .empty) :
    ∃ next, step s ⟨sender, .createIdentity wallet created⟩ = .ok next ∧
      next.factory.isAgent = s.factory.isAgent ∧
      next.factory.identityOfWallet wallet = created := by
  have vacant : s.vacant created = .ok () := by
    rw [Stack.vacant, revertIf_eq_ok]
    simp [fresh, isEmpty_iff.mpr free]
  have permitted : s.factory.accessControl.onlyRole s.factory.access AGENT_ROLE sender.val = .ok () :=
    (s.factory.accessControl.onlyRole_eq_ok ..).mpr role
  obtain ⟨contract, deployed⟩ : ∃ contract : Identity Hash,
      Identity.deploy wallet s.factory.issuerRegistry = .ok contract := by
    rw [Identity.deploy, revertIf_false _ real, ok_bind, revertIf_false _ grounded.registered]
    exact ⟨_, rfl⟩
  let factory : IdentityFactory := { s.factory with
    identityOfWallet := Function.update s.factory.identityOfWallet wallet created
    isIdentity := Function.update s.factory.isIdentity created true }
  have minted : s.factory.createIdentity sender wallet created = .ok (factory, contract) := by
    rw [IdentityFactory.createIdentity, permitted, ok_bind, revertIf_false _ real, ok_bind,
      revertIf_false _ (not_not.mpr unused), ok_bind, deployed]
    rfl
  refine ⟨{ s with factory }.setCode created (.identity contract), ?_, rfl, Function.update_self ..⟩
  simp only [step, vacant, ok_bind, minted, pure_outcome]

/-- **The wallet map.** After any run from a fresh deployment, the wallet laws hold. -/
theorem wallet_map_laws (fresh : Genesis start) (inputs : List Input) :
    WalletLaws start inputs (exec step start inputs) := by
  have reachable : Reachable (exec step start inputs) := ⟨start, inputs, fresh, rfl⟩
  have valid := reachable.valid
  have grounded := reachable.grounded
  have unique := reachable.personsUnique
  refine ⟨valid.resolves, valid.linked, ?_, ?_, ?_, ?_, ?_, ?_, ?_⟩
  · intro identity minted
    obtain ⟨wallet, mintedFor⟩ := exists_mintedFor fresh minted
    have person := mintedFor_person fresh mintedFor
    refine ⟨wallet, fun other => ⟨fun another => ?_, fun same => same ▸ mintedFor⟩, fun other => ?_⟩
    · exact unique other wallet identity (mintedFor_person fresh another) person
    · constructor
      · rintro ⟨notAgent, resolves⟩
        exact unique other wallet identity ⟨notAgent, resolves, person.real⟩ person
      · rintro rfl
        exact ⟨person.notAgent, person.resolves⟩
  · intro wallet notAgent mapped further
    have person := exec_person valid ⟨notAgent, rfl, mapped⟩ further
    exact ⟨person.notAgent, person.resolves⟩
  · intro identity minted further
    exact exec_isIdentity valid minted further
  · rintro sender request wallet next (rfl | ⟨identity, rfl⟩) done
    · obtain ⟨-, -, rfl⟩ := step_unlinkAgent.mp done
      exact ⟨rfl, fun other apart => ⟨Function.update_of_ne apart .., Function.update_of_ne apart ..⟩⟩
    · obtain ⟨-, -, -, -, rfl⟩ := step_linkAgent.mp done
      exact ⟨rfl, fun other apart => ⟨Function.update_of_ne apart .., Function.update_of_ne apart ..⟩⟩
  · intro sender wallet identity reached done
    exact ⟨(step_linkAgent.mp done).1, fun later role => unlink_after_link valid role done⟩
  · intro sender wallet next done
    obtain ⟨-, agent, rfl⟩ := step_unlinkAgent.mp done
    refine ⟨?_, Function.update_self .., Function.update_self ..⟩
    rintro rfl
    exact valid.linked 0 agent grounded.zeroWallet
  · intro wallet sender real unused role
    have notAgent : (exec step start inputs).factory.isAgent wallet = false := by
      by_contra agent
      exact valid.linked wallet (by simpa using agent) unused
    constructor
    · intro identity minted
      exact ⟨_, step_linkAgent.mpr ⟨role, real, minted, unused, rfl⟩, Function.update_self ..,
        Function.update_self ..⟩
    · intro created nonzero free
      obtain ⟨next, done, agents, resolves⟩ :=
        createIdentity_of_unused grounded role real unused nonzero free
      exact ⟨next, done, (congrFun agents wallet).trans notAgent, resolves⟩

/-- The onboarded person is the only wallet of its own on its identity. -/
theorem wallet_map_laws_onboarded :
    (exec step (freshStack 10) setUp).factory.isIdentity 30 = true ∧
      ∀ other, (exec step (freshStack 10) setUp).factory.isAgent other = false ∧
        (exec step (freshStack 10) setUp).factory.identityOfWallet other = 30 ↔ other = 11 := by
  have minted : (exec step (freshStack 10) setUp).factory.isIdentity 30 = true := by decide +kernel
  obtain ⟨wallet, mintedFor, alone⟩ := (wallet_map_laws freshStack_genesis setUp).onePerson 30 minted
  obtain rfl : 11 = wallet := (mintedFor 11).mp ⟨setUp.take 3, admin, setUp.drop 4, _, rfl, rfl⟩
  exact ⟨minted, alone⟩

end Stack

end PassportKit
