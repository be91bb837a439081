import PassportKit.IdentityStack

/-! What every transaction keeps: the registry stays one set, every identity has
exactly the keys of the person it was minted for, and every mapped wallet leads
to a minted identity. -/
namespace PassportKit
open Evm OpenZeppelin Eip712 Runs Identity

/-- The key table at an address, if an identity lives there. -/
def Code.keys {Hash : Type} : Code Hash → Option (Hash → List ℕ)
  | .identity contract => some contract.keyPurposes
  | _ => none

namespace Stack

variable {Hash : Type} [Crypto Hash] [DecidableEq Hash] {s next start : Stack Hash} {input : Input}
  {inputs : List Input} {wallet account identity issuer : Address}

def keysAt (s : Stack Hash) (account : Address) : Option (Hash → List ℕ) := (s.code account).keys

/-- A wallet of a person, not of an agent, with the identity it resolves to. -/
structure Person (s : Stack Hash) (wallet identity : Address) : Prop where
  notAgent : s.factory.isAgent wallet = false
  resolves : s.factory.identityOfWallet wallet = identity
  real : identity ≠ 0

structure Valid (s : Stack Hash) : Prop where
  registry : s.registry.WellIndexed
  zero : s.code 0 = .empty
  minted_iff : ∀ account, s.factory.isIdentity account = true ↔ (s.keysAt account).isSome
  resolves : ∀ wallet, s.factory.identityOfWallet wallet ≠ 0 →
    s.factory.isIdentity (s.factory.identityOfWallet wallet) = true
  linked : ∀ wallet, s.factory.isAgent wallet = true → s.factory.identityOfWallet wallet ≠ 0
  /-- An identity has the keys of its person. -/
  keys : ∀ wallet identity, s.Person wallet identity → s.keysAt identity = some (ownerKeys wallet)
  /-- And it has a person. -/
  person : ∀ identity, (s.keysAt identity).isSome → ∃ wallet, s.Person wallet identity

omit [Crypto Hash] [DecidableEq Hash] in
theorem keysAt_eq_some {keys : Hash → List ℕ} :
    s.keysAt account = some keys ↔ ∃ contract, s.code account = .identity contract ∧
      contract.keyPurposes = keys := by
  unfold keysAt
  cases code : s.code account <;> simp [Code.keys]

omit [Crypto Hash] [DecidableEq Hash] in
theorem isSome_keysAt :
    (s.keysAt account).isSome ↔ ∃ contract, s.code account = .identity contract := by
  unfold keysAt
  cases code : s.code account <;> simp [Code.keys]

omit [Crypto Hash] [DecidableEq Hash] in
theorem keysAt_setCode (code : Code Hash) :
    (s.setCode account code).keysAt = Function.update s.keysAt account code.keys := by
  funext other
  by_cases same : other = account
  · subst same
    simp [keysAt]
  · simp [keysAt, setCode_of_ne same, same]

omit [Crypto Hash] [DecidableEq Hash] in
@[simp] theorem keysAt_factory (factory : IdentityFactory) :
    ({ s with factory } : Stack Hash).keysAt = s.keysAt := rfl

omit [Crypto Hash] [DecidableEq Hash] in
/-- New code with the same keys changes no key table. -/
theorem keysAt_setCode_frame {code : Code Hash} (same : code.keys = (s.code account).keys) :
    (s.setCode account code).keysAt = s.keysAt := by
  rw [keysAt_setCode, same]
  exact Function.update_eq_self account s.keysAt

/-- A fresh deployment is sound. -/
theorem genesis_valid (fresh : Genesis s) : Valid s := by
  obtain ⟨⟨admin, registry⟩, ⟨registryAddress, factoryAdmin, gateAdmin, factory, gate⟩, zero,
    foreign⟩ := fresh
  simp only [IdentityFactory.deploy, bind_eq_ok, revertIf_eq_ok, pure_outcome,
    Except.ok.injEq] at factory
  obtain ⟨-, -, -, -, factory⟩ := factory
  have noKeys : ∀ account, s.keysAt account = none := by
    intro account
    rcases foreign account with code | ⟨contract, code⟩ <;> simp [keysAt, code, Code.keys]
  have unmapped : ∀ wallet, s.factory.identityOfWallet wallet = 0 := fun wallet => by rw [← factory]
  refine ⟨IssuerRegistry.deploy_wellIndexed registry, zero, ?_, ?_, ?_, ?_, ?_⟩
  · intro account
    simp [noKeys, ← factory]
  · intro wallet mapped
    exact absurd (unmapped wallet) mapped
  · intro wallet agent
    simp [← factory] at agent
  · rintro wallet identity ⟨-, rfl, real⟩
    exact absurd (unmapped wallet) real
  · intro identity keyed
    simp [noKeys] at keyed

/-- A transaction that mints nothing is sound when it moves no person and leads
every mapped wallet to a minted identity. -/
theorem Valid.of_persons (valid : Valid s) (registry : next.registry.WellIndexed)
    (zero : next.code 0 = .empty) (isIdentity : next.factory.isIdentity = s.factory.isIdentity)
    (keysAt : next.keysAt = s.keysAt)
    (person : ∀ wallet identity, next.Person wallet identity ↔ s.Person wallet identity)
    (resolves : ∀ wallet, next.factory.identityOfWallet wallet ≠ 0 →
      s.factory.isIdentity (next.factory.identityOfWallet wallet) = true)
    (linked : ∀ wallet, next.factory.isAgent wallet = true →
      next.factory.identityOfWallet wallet ≠ 0) : Valid next := by
  refine ⟨registry, zero, ?_, ?_, linked, ?_, ?_⟩
  · intro account
    rw [isIdentity, keysAt]
    exact valid.minted_iff account
  · intro wallet mapped
    rw [isIdentity]
    exact resolves wallet mapped
  · intro wallet identity holder
    rw [keysAt]
    exact valid.keys wallet identity ((person wallet identity).mp holder)
  · intro identity keyed
    rw [keysAt] at keyed
    obtain ⟨wallet, holder⟩ := valid.person identity keyed
    exact ⟨wallet, (person wallet identity).mpr holder⟩

/-- A transaction outside the factory that keeps every key table. -/
theorem Valid.of_frame (valid : Valid s) (registry : next.registry.WellIndexed)
    (zero : next.code 0 = .empty) (isIdentity : next.factory.isIdentity = s.factory.isIdentity)
    (identityOfWallet : next.factory.identityOfWallet = s.factory.identityOfWallet)
    (isAgent : next.factory.isAgent = s.factory.isAgent) (keysAt : next.keysAt = s.keysAt) :
    Valid next := by
  refine valid.of_persons registry zero isIdentity keysAt ?_ ?_ ?_
  · intro wallet identity
    constructor
    · rintro ⟨notAgent, resolves, real⟩
      exact ⟨isAgent ▸ notAgent, identityOfWallet ▸ resolves, real⟩
    · rintro ⟨notAgent, resolves, real⟩
      exact ⟨isAgent ▸ notAgent, identityOfWallet ▸ resolves, real⟩
  · intro wallet
    rw [identityOfWallet]
    exact valid.resolves wallet
  · intro wallet
    rw [isAgent, identityOfWallet]
    exact valid.linked wallet

/-- New code away from the zero address, with the keys that were there. -/
theorem Valid.withCode (valid : Valid s) (real : account ≠ 0) {code : Code Hash}
    (same : code.keys = (s.code account).keys) : Valid (s.setCode account code) :=
  valid.of_frame valid.registry ((setCode_of_ne real.symm code).trans valid.zero) rfl rfl rfl
    (keysAt_setCode_frame same)

/-- Nothing is minted at the zero address. -/
theorem Valid.minted_ne_zero (valid : Valid s) (minted : s.factory.isIdentity identity = true) :
    identity ≠ 0 := by
  rintro rfl
  have keyed := (valid.minted_iff 0).mp minted
  simp [Stack.keysAt, valid.zero, Code.keys] at keyed

omit [Crypto Hash] [DecidableEq Hash] in
/-- Changing one wallet that is no person's, before or after, moves no person. -/
theorem person_of_elsewhere {agent target : Address} {linked : Bool} {factory : IdentityFactory}
    (wallets : factory.identityOfWallet = Function.update s.factory.identityOfWallet agent target)
    (agents : factory.isAgent = Function.update s.factory.isAgent agent linked)
    (before : ¬ s.Person agent identity)
    (after : ¬ ({ s with factory } : Stack Hash).Person agent identity) :
    ({ s with factory } : Stack Hash).Person wallet identity ↔ s.Person wallet identity := by
  by_cases same : wallet = agent
  · subst same
    exact iff_of_false after before
  · constructor
    · rintro ⟨notAgent, resolves, real⟩
      simp only [agents, wallets, Function.update_of_ne same] at notAgent resolves
      exact ⟨notAgent, resolves, real⟩
    · rintro ⟨notAgent, resolves, real⟩
      refine ⟨?_, ?_, real⟩
      · simpa only [agents, Function.update_of_ne same] using notAgent
      · simpa only [wallets, Function.update_of_ne same] using resolves

/-- Linking and unlinking agents leaves every person alone. -/
theorem Valid.factoryCall (valid : Valid s) {request : IdentityFactory.Call}
    {factory : IdentityFactory} {msgSender : Address}
    (called : s.factory.call msgSender request = .ok factory) : Valid { s with factory } := by
  obtain ⟨minted, ⟨wallets, agents⟩ | ⟨agent, target, -, -, isMinted, unused, wallets, agents⟩ |
    ⟨agent, -, wasLinked, wallets, agents⟩⟩ := IdentityFactory.call_changes called
  · exact valid.of_frame valid.registry valid.zero minted wallets agents rfl
  · -- linked: the wallet was unused before and is an agent's after
    refine valid.of_persons valid.registry valid.zero minted rfl ?_ ?_ ?_
    · intro wallet identity
      refine person_of_elsewhere wallets agents ?_ ?_
      · rintro ⟨-, rfl, real⟩
        exact real unused
      · rintro ⟨notAgent, -, -⟩
        simp [agents] at notAgent
    · intro wallet
      simp only [wallets, Function.update_apply]
      split
      · exact fun _ => isMinted
      · exact valid.resolves wallet
    · intro wallet
      simp only [agents, wallets, Function.update_apply]
      split
      · exact fun _ => valid.minted_ne_zero isMinted
      · exact valid.linked wallet
  · -- unlinked: the wallet was an agent's before and is unused after
    refine valid.of_persons valid.registry valid.zero minted rfl ?_ ?_ ?_
    · intro wallet identity
      refine person_of_elsewhere wallets agents ?_ ?_
      · rintro ⟨notAgent, -, -⟩
        simp [wasLinked] at notAgent
      · rintro ⟨-, resolves, real⟩
        simp only [wallets, Function.update_self] at resolves
        exact real resolves.symm
    · intro wallet
      simp only [wallets, Function.update_apply]
      split
      · exact fun mapped => absurd rfl mapped
      · exact valid.resolves wallet
    · intro wallet
      simp only [agents, wallets, Function.update_apply]
      split
      · simp
      · exact valid.linked wallet

/-- A minted identity has its person's keys and nobody else's. -/
theorem Valid.mints (valid : Valid s) {created : Address} {factory : IdentityFactory}
    {contract : Identity Hash} {msgSender : Address} (real : created ≠ 0)
    (free : s.code created = .empty)
    (done : s.factory.createIdentity msgSender wallet created = .ok (factory, contract)) :
    Valid ({ s with factory }.setCode created (.identity contract)) := by
  obtain ⟨-, -, unused, deployed, rfl⟩ := IdentityFactory.createIdentity_changes done
  have keys := Identity.deploy_keys deployed
  have noKeys : s.keysAt created = none := by simp [keysAt, free, Code.keys]
  have notMinted : s.factory.isIdentity created = false := by
    have unkeyed := (valid.minted_iff created).not
    simpa [noKeys] using unkeyed
  have unlinked : s.factory.isAgent wallet = false := by
    by_contra agent
    exact valid.linked wallet (by simpa using agent) unused
  refine ⟨valid.registry, (setCode_of_ne real.symm _).trans valid.zero, ?_, ?_, ?_, ?_, ?_⟩
  · intro account
    rw [keysAt_setCode]
    by_cases same : account = created
    · subst same
      simp [Code.keys]
    · simpa [same] using valid.minted_iff account
  · intro other
    by_cases same : other = wallet
    · subst same
      simp
    · simp only [setCode_factory, Function.update_of_ne same]
      intro mapped
      have resolved := valid.resolves other mapped
      rw [Function.update_apply]
      split
      · rfl
      · exact resolved
  · intro other agent
    have apart : other ≠ wallet := by
      rintro rfl
      simp [unlinked] at agent
    simpa [apart] using valid.linked other agent
  · rintro other identity ⟨notAgent, resolves, real⟩
    rw [keysAt_setCode]
    by_cases same : other = wallet
    · subst same
      have here : created = identity := by simpa using resolves
      subst here
      simp [Code.keys, keys]
    · have mapped : s.factory.identityOfWallet other = identity := by
        simpa [same] using resolves
      have elsewhere : identity ≠ created := by
        rintro rfl
        have isMinted := valid.resolves other (mapped ▸ real)
        rw [mapped, notMinted] at isMinted
        exact Bool.false_ne_true isMinted
      rw [Function.update_of_ne elsewhere]
      exact valid.keys other identity ⟨notAgent, mapped, real⟩
  · intro identity keyed
    by_cases same : identity = created
    · subst same
      exact ⟨wallet, unlinked, by simp, real⟩
    · rw [keysAt_setCode, Function.update_of_ne same] at keyed
      obtain ⟨other, notAgent, resolves, nonzero⟩ := valid.person identity keyed
      have apart : other ≠ wallet := by
        rintro rfl
        exact nonzero (resolves.symm.trans unused)
      exact ⟨other, notAgent, by simpa [apart] using resolves, nonzero⟩

/-- An address where code of ours lives is not the zero address. -/
theorem Valid.occupied (valid : Valid s) (code : s.code account ≠ .empty) : account ≠ 0 := by
  rintro rfl
  exact code valid.zero

/-- **Step lemma.** Every committed transaction keeps the stack sound. -/
theorem step_valid (valid : Valid s) (done : step s input = .ok next) : Valid next := by
  cases step_change done with
  | registry _ called =>
    exact valid.of_frame (IssuerRegistry.call_wellIndexed valid.registry called) valid.zero
      rfl rfl rfl rfl
  | factory _ called => exact valid.factoryCall called
  | gate _ called => exact valid.of_frame valid.registry valid.zero rfl rfl rfl rfl
  | elapsed _ => exact valid.of_frame valid.registry valid.zero rfl rfl rfl rfl
  | issuer _ code called =>
    exact valid.withCode (valid.occupied (by simp [code])) (by simp [code, Code.keys])
  | identity _ code called =>
    have kept := (Identity.call_by_key_holder called).2
    exact valid.withCode (valid.occupied (by simp [code])) (by simp [code, Code.keys, kept])
  | minted _ real free created => exact valid.mints real free created
  | deployed _ real free done => exact valid.withCode real (by simp [free, Code.keys])
  | foreign old new _ real code =>
    refine valid.withCode real ?_
    rw [code]
    cases old <;> cases new <;> rfl

/-- **Every reachable state is sound.** -/
theorem Reachable.valid (reachable : Reachable s) : Valid s := by
  obtain ⟨start, inputs, fresh, rfl⟩ := reachable
  exact exec_preserves (fun _ _ _ => step_valid) (genesis_valid fresh) inputs

/-- A run continues a reachable state to a reachable one. -/
theorem Reachable.exec (reachable : Reachable s) (inputs : List Input) :
    Reachable (exec step s inputs) := by
  obtain ⟨start, before, fresh, rfl⟩ := reachable
  exact ⟨start, before ++ inputs, fresh, (exec_append start before inputs).symm⟩

end Stack

end PassportKit
