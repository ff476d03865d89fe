import AgentCompanyOS.Domain.Outcomes
import AgentCompanyOS.Operator.Sessions

/-!
# Who may act as an operator

The operator service over every history of commands on a migrated database: a token is
accepted only as the token of the login it came from; a disabled account is closed for good;
credentials and tokens do not stand in for each other; and what a command changed is
recorded in the audit once.
-/

set_option autoImplicit false

namespace AgentCompanyOS.Operator

open Foundation Foundation.Txn Domain

variable {Digest : Type} [DecidableEq Digest] {platform : OperatorPlatform Digest}

/-! ## Accepted tokens -/

/-- The token was returned by a login of the history for the credential of an account that
was enabled and has not changed since; it was not logged out since; and the clock is within
the session that the login opened. -/
structure AcceptedSince (platform : OperatorPlatform Digest) (commands : List OperatorCommand)
    (token : PyStr) (account : OperatorAccount Digest) (earlier : List OperatorCommand)
    (service : OperatorService) (credential : PyStr) (later : List OperatorCommand) :
    Prop where
  history : commands = earlier ++ .login service credential :: later
  returned : Answers platform earlier (.login service credential) (.secret token)
  hashed : digest platform credential .credential = .ok account.credentialDigest
  enabled : account.principal.enabled = true
  unchanged : ∀ sofar rest, .login service credential :: later = sofar ++ rest →
    (after platform (earlier ++ sofar)).store.account account.principal.id = some account
  notLoggedOut : ∀ before rest, later = before ++ .logout token :: rest →
    ¬ Answers platform (earlier ++ .login service credential :: before) (.logout token) .done
  begun : platform.clock (after platform earlier).reads ≤
    platform.clock (after platform commands).reads
  unexpired : platform.clock (after platform commands).reads <
    platform.clock (after platform earlier).reads + seconds service.sessionSeconds

/-- Whoever opens a session presents the token of the login that opened it. -/
theorem Opens.accepted (sound : platform.Sound) {commands : List OperatorCommand}
    {token : PyStr} {session : OperatorSession Digest} {account : OperatorAccount Digest}
    (opens : Opens platform (after platform commands) token session account) :
    ∃ earlier service credential later,
      AcceptedSince platform commands token account earlier service credential later := by
  obtain ⟨earlier, service, credential, token', owner, later, h⟩ :=
    session_opened commands session (Registry.mem_values_of_get? opens.found)
  obtain ⟨-, rfl⟩ := sound.same opens.hashedToken h.hashedToken
  have named : owner.principal.id = session.principalId := OperatorStore.id_of_account h.owner
  -- The account kept its version since the login, so it was never disabled.
  have same : ∀ sofar rest, .login service credential :: later = sofar ++ rest →
      (after platform (earlier ++ sofar)).store.account session.principalId = some account ∧
        account = owner := by
    intro sofar rest split
    obtain ⟨middle, atMiddle, first⟩ := account_later h.owner sofar
    obtain ⟨now, atNow, second⟩ := account_later atMiddle rest
    rw [List.append_assoc, ← split, ← h.history] at atNow
    obtain rfl : now = account := Option.some.inj (atNow.symm.trans opens.owner)
    obtain rfl := second.of_enabled opens.enabled
    exact ⟨atMiddle, first.of_enabled opens.enabled⟩
  obtain ⟨-, rfl⟩ := same [] _ rfl
  refine ⟨earlier, service, credential, later, h.history, h.returned, h.hashedCredential,
    h.enabled, ?_, h.live opens.live, ?_, ?_⟩
  · intro sofar rest split
    rw [named]
    exact (same sofar rest split).1
  · rw [← h.begun]
    exact opens.begun
  · rw [← h.begun, ← h.ends]
    exact opens.unexpired

/-- A command that presents a token returns only if the token opens a session. -/
theorem Answers.opens {commands : List OperatorCommand} {command : OperatorCommand}
    {reply : OperatorReply} (h : Answers platform commands command reply) {token : PyStr}
    (presented : command.token? = some token) :
    ∃ session account, Opens platform (after platform commands) token session account := by
  obtain ⟨w, -, done⟩ := h.committed
  cases done with
  | provisioned => cases presented
  | loggedIn => cases presented
  | loggedOut opens | disabled opens | identified opens | authorized opens | audited opens =>
      cases presented
      exact ⟨_, _, opens⟩

/-! ## Disabled accounts -/

/-- A disabled account stays disabled. -/
theorem Disabled.append {commands : List OperatorCommand} {id : OperatorId}
    (h : Disabled platform commands id) (more : List OperatorCommand) :
    Disabled platform (commands ++ more) id := by
  obtain ⟨account, found, off⟩ := h
  obtain ⟨later, foundLater, became⟩ := account_later found more
  rw [became.of_disabled off] at foundLater
  exact ⟨account, foundLater, off⟩

/-- A command that disabled an account. -/
theorem Answers.disabled {commands : List OperatorCommand} {token : PyStr}
    {workspace : WorkspaceId} {id : OperatorId} {expected : Version} {reply : OperatorReply}
    (h : Answers platform commands (.disable token workspace id expected) reply) :
    Disabled platform (commands ++ [.disable token workspace id expected]) id := by
  obtain ⟨w, reached, done⟩ := h.committed
  unfold Disabled
  rw [reached]
  cases done with
  | @disabled _ _ _ _ session account victim opens own granted found here version enabled =>
      have named : victim.principal.id = id := OperatorStore.id_of_account found
      refine ⟨victim.disabled, ?_, rfl⟩
      rw [← named]
      exact Registry.get?_put_self _ victim.disabled

/-- The account of a disabled operator's credential. -/
theorem Disabled.account {commands : List OperatorCommand} {id : OperatorId}
    {credential : PyStr} (off : Disabled platform commands id)
    (provisioned : Provisions platform commands id credential) :
    ∃ account, (after platform commands).store.account id = some account ∧
      account.principal.enabled = false ∧
      digest platform credential .credential = .ok account.credentialDigest := by
  obtain ⟨account, found, disabled⟩ := off
  obtain ⟨account', found', hashed⟩ := provisioned.account
  obtain rfl : account = account' := Option.some.inj (found.symm.trans found')
  exact ⟨account, found, disabled, hashed⟩

/-- The credential of a disabled account does not log in. -/
theorem Disabled.noLogin {commands : List OperatorCommand} {id : OperatorId}
    {credential : PyStr} (off : Disabled platform commands id)
    (provisioned : Provisions platform commands id credential) (service : OperatorService)
    (reply : OperatorReply) : ¬ Answers platform commands (.login service credential) reply := by
  intro returned
  obtain ⟨account, found, disabled, hashed⟩ := off.account provisioned
  obtain ⟨w, -, done⟩ := returned.committed
  cases done with
  | @loggedIn _ _ account' _ hashed' found' enabled token free =>
      obtain rfl := credential_unique commands (Registry.mem_values_of_get? found)
        (List.mem_of_find?_eq_some found') (Except.ok.inj (hashed.symm.trans hashed'))
      rw [disabled] at enabled
      cases enabled

/-- No token of a disabled account is accepted. -/
theorem Disabled.noToken (commands : List OperatorCommand) {id : OperatorId}
    {credential token : PyStr} (off : Disabled platform commands id)
    (provisioned : Provisions platform commands id credential)
    (loggedIn : LogsIn platform commands credential token) {command : OperatorCommand}
    (presented : command.token? = some token) (reply : OperatorReply) :
    ¬ Answers platform commands command reply := by
  intro returned
  obtain ⟨session, owner, opens⟩ := returned.opens presented
  obtain ⟨account, found, disabled, hashed⟩ := off.account provisioned
  obtain ⟨before, service, rest, rfl, login⟩ := loggedIn
  obtain ⟨w, reached, done⟩ := login.committed
  cases done with
  | @loggedIn _ _ account' tokenDigest hashed' found' enabled hashedToken free =>
      -- The session that the login opened is still there, with its owner.
      have added : (after platform (before ++ [.login service credential])).store.session
          tokenDigest = some (service.open tokenDigest account'.principal
            (platform.clock (after platform before).reads)) := by
        rw [reached]
        exact Registry.get?_put_self _ _
      obtain ⟨session', kept, sameOwner⟩ := session_later added rest
      rw [List.append_assoc, List.singleton_append] at kept
      have tokenDigests : session.tokenDigest = tokenDigest :=
        Except.ok.inj (opens.hashedToken.symm.trans hashedToken)
      have foundSession := opens.found
      rw [tokenDigests] at foundSession
      obtain rfl : session = session' := Option.some.inj (foundSession.symm.trans kept)
      -- That owner is the disabled account.
      obtain ⟨late, atLate, became⟩ := account_later
        (Registry.get?_of_mem_values (List.mem_of_find?_eq_some found'))
        (.login service credential :: rest)
      have lateMem := Registry.mem_values_of_get? atLate
      have sameDigest : late.credentialDigest = account.credentialDigest := by
        rw [became.digest_eq]
        exact Except.ok.inj (hashed'.symm.trans hashed)
      obtain rfl := credential_unique _ lateMem (Registry.mem_values_of_get? found) sameDigest
      have owned := opens.owner
      rw [sameOwner] at owned
      obtain rfl : late = owner := Option.some.inj (atLate.symm.trans owned)
      have enabledNow := opens.enabled
      rw [disabled] at enabledNow
      cases enabledNow

/-! ## Credentials and tokens -/

/-- Provisioning and login answer different secrets. -/
theorem credential_ne_token (sound : platform.Sound) {commands : List OperatorCommand}
    {id : OperatorId} {credential other token : PyStr}
    (provisioned : Provisions platform commands id credential)
    (loggedIn : LogsIn platform commands other token) : credential ≠ token := by
  obtain ⟨before, domain, workspace, role, rest, first, provision⟩ := provisioned
  obtain ⟨before', service, rest', second, login⟩ := loggedIn
  refine secrets_apart sound (first.symm.trans second) ?_ provision login
  intro same
  cases same

/-- A credential is not accepted as a token, before or after it is issued. -/
theorem Provisions.noToken (sound : platform.Sound) {sofar more : List OperatorCommand}
    {id : OperatorId} {credential : PyStr}
    (provisioned : Provisions platform (sofar ++ more) id credential)
    {command : OperatorCommand} (presented : command.token? = some credential)
    (reply : OperatorReply) : ¬ Answers platform sofar command reply := by
  intro returned
  obtain ⟨session, account, opens⟩ := returned.opens presented
  obtain ⟨earlier, service, other, later, accepted⟩ := opens.accepted sound
  have loggedIn : LogsIn platform sofar other credential :=
    ⟨earlier, service, later, accepted.history, accepted.returned⟩
  exact credential_ne_token sound provisioned (loggedIn.append more) rfl

/-- A token does not log in, before or after it is issued. -/
theorem LogsIn.noLogin (sound : platform.Sound) {sofar more : List OperatorCommand}
    {credential token : PyStr} (loggedIn : LogsIn platform (sofar ++ more) credential token)
    (service : OperatorService) (reply : OperatorReply) :
    ¬ Answers platform sofar (.login service token) reply := by
  intro returned
  obtain ⟨w, -, done⟩ := returned.committed
  cases done with
  | @loggedIn _ _ account _ hashed found enabled _ free =>
      obtain ⟨own, provisioned, hashed'⟩ :=
        account_provisioned sofar (List.mem_of_find?_eq_some found)
      obtain ⟨-, rfl⟩ := sound.same hashed hashed'
      exact credential_ne_token sound (provisioned.append more) loggedIn rfl

/-! ## The audit -/

/-- A command that returned added the records that belong to it, and one that adds none
changed nothing. -/
theorem Answers.audits {commands : List OperatorCommand} {command : OperatorCommand}
    {reply : OperatorReply} (h : Answers platform commands command reply) :
    (∃ records, (after platform (commands ++ [command])).store.audits =
        (after platform commands).store.audits ++ records ∧
      records.map (·.command) = command.audited.toList) ∧
    (command.audited = none →
      (after platform (commands ++ [command])).store = (after platform commands).store) := by
  obtain ⟨w, reached, done⟩ := h.committed
  rw [reached]
  cases done with
  | provisioned | loggedIn | loggedOut | disabled =>
      exact ⟨⟨[_], rfl, rfl⟩, fun quiet => nomatch quiet⟩
  | identified | authorized | audited =>
      exact ⟨⟨[], (List.append_nil _).symm, rfl⟩, fun _ => rfl⟩

/-! ## Operator sessions -/

/-- Over every history of commands: an authorization stands on a login that is still good;
a disabled account is closed; credentials and tokens are apart; a command that changes the
tables adds its one audit record, and one that fails changes nothing. -/
theorem operator_sessions (platform : OperatorPlatform Digest) (sound : platform.Sound) :
    (∀ commands token workspace resource principal,
      Answers platform commands (.authorize token workspace resource) (.principal principal) →
        principal.workspaceId = workspace ∧
        resource ∈ OperatorPolicy.allowed principal.role ∧
        ∃ account earlier service credential later, account.principal = principal ∧
          AcceptedSince platform commands token account earlier service credential later) ∧
    (∀ commands token workspace id expected reply,
      Answers platform commands (.disable token workspace id expected) reply →
        Disabled platform (commands ++ [.disable token workspace id expected]) id) ∧
    (∀ commands id credential, Disabled platform commands id →
      Provisions platform commands id credential → ∀ more,
        (∀ service reply,
          ¬ Answers platform (commands ++ more) (.login service credential) reply) ∧
        ∀ token command reply, LogsIn platform (commands ++ more) credential token →
          command.token? = some token → ¬ Answers platform (commands ++ more) command reply) ∧
    (∀ sofar more id credential, Provisions platform (sofar ++ more) id credential →
      ∀ command reply, command.token? = some credential →
        ¬ Answers platform sofar command reply) ∧
    (∀ sofar more credential token, LogsIn platform (sofar ++ more) credential token →
      ∀ service reply, ¬ Answers platform sofar (.login service token) reply) ∧
    (∀ commands command reply, Answers platform commands command reply →
      (∃ records, (after platform (commands ++ [command])).store.audits =
          (after platform commands).store.audits ++ records ∧
        records.map (·.command) = command.audited.toList) ∧
      (command.audited = none →
        (after platform (commands ++ [command])).store = (after platform commands).store)) ∧
    (∀ commands command, (∀ reply, ¬ Answers platform commands command reply) →
      (after platform (commands ++ [command])).store = (after platform commands).store) := by
  refine ⟨?_, ?_, ?_, ?_, ?_, ?_, ?_⟩
  · intro commands token workspace resource principal returned
    obtain ⟨w, -, done⟩ := returned.committed
    cases done with
    | @authorized _ _ _ session account opens own granted =>
        obtain ⟨earlier, service, credential, later, accepted⟩ := opens.accepted sound
        exact ⟨own, granted, account, earlier, service, credential, later, rfl, accepted⟩
  · intro commands token workspace id expected reply returned
    exact returned.disabled
  · intro commands id credential off provisioned more
    constructor
    · exact (off.append more).noLogin (provisioned.append more)
    · intro token command reply loggedIn presented
      exact (off.append more).noToken _ (provisioned.append more) loggedIn presented reply
  · intro sofar more id credential provisioned command reply presented
    exact provisioned.noToken sound presented reply
  · intro sofar more credential token loggedIn service reply
    exact loggedIn.noLogin sound service reply
  · intro commands command reply returned
    exact returned.audits
  · intro commands command failed
    rcases step_cases platform commands command with ⟨reply, returned⟩ | ⟨-, same⟩
    · exact absurd returned (failed reply)
    · exact same

/-! ### An operator who signs in -/

section Sample

/-- A platform whose digests are the tagged secrets themselves and whose `n`-th secret is `n`
zeros filled up with ones. -/
def plainPlatform : OperatorPlatform PyStr where
  sha256 := id
  issue n := List.replicate n (code '0') ++ List.replicate (64 - n) (code '1')
  clock n := (n : Int)

theorem plainPlatform_sound : plainPlatform.Sound where
  collisionFree := by
    intro p q v w hv hw same
    have lengths := congrArg List.length same
    simp only [plainPlatform, id_eq, List.length_append, hv.1, hw.1] at lengths
    cases p <;> cases q
    · exact ⟨rfl, List.append_cancel_left same⟩
    · exact absurd lengths (by decide)
    · exact absurd lengths (by decide)
    · exact ⟨rfl, List.append_cancel_left same⟩
  fresh := by
    refine Function.LeftInverse.injective (g := List.count (code '0')) fun n => ?_
    show List.count (code '0') (List.replicate n (code '0') ++
      List.replicate (64 - n) (code '1')) = n
    have different : (code '1' == code '0') = false := by decide
    simp [List.count_append, List.count_replicate, different]

/-- The domain database with one workspace. -/
def staffedDomain : DomainStore :=
  (runCommands numberedEnv [.createWorkspace (py "acme")] emptyWorld).store

def operatorService : OperatorService := ⟨900, by decide⟩

/-- An auditor is provisioned and signs in. -/
def signedIn : List OperatorCommand :=
  [.provisionLocal staffedDomain (numbered .workspace 0) (numbered .operator 0) .auditor,
    .login operatorService (plainPlatform.issue 0)]

/-- The auditor's session reaches the recovery cases, on the strength of the login. -/
theorem operator_sessions_signedIn :
    ∃ principal,
      Answers plainPlatform signedIn
        (.authorize (plainPlatform.issue 1) (numbered .workspace 0) .recovery)
        (.principal principal) ∧
      ∃ account earlier service credential later, account.principal = principal ∧
        AcceptedSince plainPlatform signedIn (plainPlatform.issue 1) account earlier service
          credential later := by
  have accepted : Answers plainPlatform signedIn
      (.authorize (plainPlatform.issue 1) (numbered .workspace 0) .recovery)
      (.principal ⟨numbered .operator 0, numbered .workspace 0, .auditor, true, .initial,
        by decide +kernel⟩) := by
    unfold Answers
    decide +kernel
  exact ⟨_, accepted, ((operator_sessions plainPlatform plainPlatform_sound).1 _ _ _ _ _
    accepted).2.2⟩

end Sample

end AgentCompanyOS.Operator
