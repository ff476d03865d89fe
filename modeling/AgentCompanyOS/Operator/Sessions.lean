import AgentCompanyOS.Operator.Service

/-!
# Operator sessions over whole histories

Every command either fails and leaves the tables alone or makes the one change that belongs
to it (`Committed`). From that, by induction on the history: every session of the database
was opened by a login of the history, with what the login saw (`OpenedBy`); an account
changes once at most, when it is disabled (`OperatorAccount.Later`). A token that is
accepted is therefore the token of that login, and the account is still what it was then.
-/

set_option autoImplicit false

namespace AgentCompanyOS.Operator

open Foundation Foundation.Txn Domain

variable {Digest : Type} [DecidableEq Digest] {platform : OperatorPlatform Digest}

/-! ## What a command that returned did -/

/-- A token opens a live session of an enabled account. -/
structure Opens (platform : OperatorPlatform Digest) (w : World (OperatorStore Digest))
    (token : PyStr) (session : OperatorSession Digest) (account : OperatorAccount Digest) :
    Prop where
  hashedToken : digest platform token .session = .ok session.tokenDigest
  found : w.store.session session.tokenDigest = some session
  live : session.revoked = false
  begun : session.createdAt ≤ platform.clock w.reads
  unexpired : platform.clock w.reads < session.expiresAt
  owner : w.store.account session.principalId = some account
  enabled : account.principal.enabled = true
  version : account.principal.version = session.principalVersion

theorem principalOf_eq_ok {token : PyStr} {w w' : World (OperatorStore Digest)}
    {p : OperatorPrincipal} (h : principalOf platform token w = .ok p w') :
    ∃ session account, Opens platform w token session account ∧ account.principal = p ∧
      w' = { w with reads := w.reads + 1 } := by
  obtain ⟨d, hashed, h⟩ := ofExcept_then h
  have h := getStore_then h
  obtain ⟨session, found, h⟩ := need_then h
  obtain ⟨live, h⟩ := raiseIf_then h
  have h := readClock_then h
  obtain ⟨within, h⟩ := raiseIf_then h
  obtain ⟨account, owner, h⟩ := need_then h
  obtain ⟨current, h⟩ := raiseIf_then h
  obtain ⟨rfl, rfl⟩ := pure_eq_ok.mp h
  have keyed : session.tokenDigest = d := Registry.key_of_get? found
  subst keyed
  simp only [not_or, Bool.not_eq_false, ne_eq, not_not] at within current
  exact ⟨session, account,
    ⟨hashed, found, by simpa using live, within.1, within.2, owner, current.1, current.2⟩,
    rfl, rfl⟩

/-- The record that a command adds to the audit, at the time it reads. -/
def recorded (principal : OperatorPrincipal) (command : AuditCommand) (target : OperatorId)
    (now : Instant) : OperatorAudit :=
  ⟨principal.id, principal.workspaceId, command, target, now⟩

/-- What a command that returned did to the world. -/
inductive Committed (platform : OperatorPlatform Digest) (w : World (OperatorStore Digest)) :
    OperatorCommand → OperatorReply → World (OperatorStore Digest) → Prop where
  | provisioned {domain : DomainStore} {workspace : WorkspaceId} {id : OperatorId}
      {role : OperatorRole} {principal : OperatorPrincipal} {credentialDigest : Digest}
      (created : OperatorPrincipal.create id workspace role = .ok principal)
      (hashed : digest platform (platform.issue w.issued) .credential = .ok credentialDigest)
      (free : w.store.account principal.id = none)
      (unclaimed : w.store.credential credentialDigest = none) :
      Committed platform w (.provisionLocal domain workspace id role)
        (.secret (platform.issue w.issued))
        ⟨⟨w.store.accounts.put ⟨principal, credentialDigest⟩, w.store.sessions,
          w.store.audits ++
            [recorded principal .localProvision principal.id (platform.clock w.reads)]⟩,
          w.issued + 1, w.reads + 1⟩
  | loggedIn {service : OperatorService} {credential : PyStr}
      {account : OperatorAccount Digest} {tokenDigest : Digest}
      (hashed : digest platform credential .credential = .ok account.credentialDigest)
      (found : w.store.credential account.credentialDigest = some account)
      (enabled : account.principal.enabled = true)
      (token : digest platform (platform.issue w.issued) .session = .ok tokenDigest)
      (free : w.store.session tokenDigest = none) :
      Committed platform w (.login service credential) (.secret (platform.issue w.issued))
        ⟨⟨w.store.accounts,
          w.store.sessions.put
            (service.open tokenDigest account.principal (platform.clock w.reads)),
          w.store.audits ++ [recorded account.principal .sessionCreated account.principal.id
            (platform.clock w.reads)]⟩,
          w.issued + 1, w.reads + 1⟩
  | loggedOut {token : PyStr} {session : OperatorSession Digest}
      {account : OperatorAccount Digest} (opens : Opens platform w token session account) :
      Committed platform w (.logout token) .done
        ⟨⟨w.store.accounts, w.store.sessions.put session.ended,
          w.store.audits ++ [recorded account.principal .sessionRevoked account.principal.id
            (platform.clock (w.reads + 1))]⟩,
          w.issued, w.reads + 2⟩
  | disabled {token : PyStr} {workspace : WorkspaceId} {target : OperatorId}
      {expected : Version} {session : OperatorSession Digest}
      {account victim : OperatorAccount Digest} (opens : Opens platform w token session account)
      (own : account.principal.workspaceId = workspace)
      (granted : .accountAdmin ∈ OperatorPolicy.allowed account.principal.role)
      (found : w.store.account target = some victim)
      (here : victim.principal.workspaceId = workspace)
      (version : victim.principal.version = expected)
      (enabled : victim.principal.enabled = true) :
      Committed platform w (.disable token workspace target expected) .done
        ⟨⟨w.store.accounts.put victim.disabled, w.store.sessions,
          w.store.audits ++ [recorded account.principal .disabled target
            (platform.clock (w.reads + 1))]⟩,
          w.issued, w.reads + 2⟩
  | identified {token : PyStr} {session : OperatorSession Digest}
      {account : OperatorAccount Digest} (opens : Opens platform w token session account) :
      Committed platform w (.principal token) (.principal account.principal)
        { w with reads := w.reads + 1 }
  | authorized {token : PyStr} {workspace : WorkspaceId} {resource : OperatorResource}
      {session : OperatorSession Digest} {account : OperatorAccount Digest}
      (opens : Opens platform w token session account)
      (own : account.principal.workspaceId = workspace)
      (granted : resource ∈ OperatorPolicy.allowed account.principal.role) :
      Committed platform w (.authorize token workspace resource) (.principal account.principal)
        { w with reads := w.reads + 1 }
  | audited {token : PyStr} {workspace : WorkspaceId} {session : OperatorSession Digest}
      {account : OperatorAccount Digest} (opens : Opens platform w token session account)
      (own : account.principal.workspaceId = workspace)
      (granted : .audit ∈ OperatorPolicy.allowed account.principal.role) :
      Committed platform w (.audit token workspace) (.audits (w.store.audit workspace))
        { w with reads := w.reads + 1 }

/-! ## Each command commits as it should -/

theorem provisionLocal_eq_ok {domain : DomainStore} {workspace : WorkspaceId} {id : OperatorId}
    {role : OperatorRole} {w w' : World (OperatorStore Digest)} {secret : PyStr}
    (h : provisionLocal platform domain workspace id role w = .ok secret w') :
    Committed platform w (.provisionLocal domain workspace id role) (.secret secret) w' := by
  obtain ⟨_, _, h⟩ := ofExcept_then h
  obtain ⟨principal, created, h⟩ := ofExcept_then h
  have h := draw_then h
  have h := atomic_eq_ok.mp h
  obtain ⟨credentialDigest, hashed, h⟩ := ofExcept_then h
  obtain ⟨_, _, added, h⟩ := bind_eq_ok.mp h
  obtain ⟨free, unclaimed, rfl⟩ := addAccount_eq_ok added
  have h := readClock_then h
  obtain ⟨_, _, appended, h⟩ := bind_eq_ok.mp h
  obtain rfl := appendAudit_eq_ok appended
  obtain ⟨rfl, rfl⟩ := pure_eq_ok.mp h
  have named : principal.id = id ∧ principal.workspaceId = workspace := by
    unfold OperatorPrincipal.create at created
    split at created
    · cases created
      exact ⟨rfl, rfl⟩
    · cases created
  obtain ⟨rfl, rfl⟩ := named
  exact .provisioned created hashed free unclaimed

theorem login_eq_ok {service : OperatorService} {credential secret : PyStr}
    {w w' : World (OperatorStore Digest)}
    (h : login platform service credential w = .ok secret w') :
    Committed platform w (.login service credential) (.secret secret) w' := by
  obtain ⟨credentialDigest, hashed, h⟩ := ofExcept_then h
  have h := getStore_then (atomic_eq_ok.mp h)
  obtain ⟨account, found, h⟩ := need_then h
  obtain ⟨enabled, h⟩ := raiseIf_then h
  have h := readClock_then h
  have h := draw_then h
  obtain ⟨tokenDigest, token, h⟩ := ofExcept_then h
  obtain ⟨_, _, added, h⟩ := bind_eq_ok.mp h
  obtain ⟨free, rfl⟩ := addSession_eq_ok added
  obtain ⟨_, _, appended, h⟩ := bind_eq_ok.mp h
  obtain rfl := appendAudit_eq_ok appended
  obtain ⟨rfl, rfl⟩ := pure_eq_ok.mp h
  have keyed : account.credentialDigest = credentialDigest := by
    simpa using List.find?_some found
  subst keyed
  exact .loggedIn hashed found (by simpa using enabled) token free

theorem logout_eq_ok {token : PyStr} {w w' : World (OperatorStore Digest)} {u : Unit}
    (h : logout platform token w = .ok u w') :
    Committed platform w (.logout token) .done w' := by
  obtain ⟨_, _, presented, h⟩ := bind_eq_ok.mp (atomic_eq_ok.mp h)
  obtain ⟨session, account, opens, rfl, rfl⟩ := principalOf_eq_ok presented
  obtain ⟨tokenDigest, hashed, h⟩ := ofExcept_then h
  obtain rfl : session.tokenDigest = tokenDigest :=
    Except.ok.inj (opens.hashedToken.symm.trans hashed)
  obtain ⟨_, _, revoked, h⟩ := bind_eq_ok.mp h
  obtain rfl := revokeSession_eq_ok (w := { w with reads := w.reads + 1 }) opens.found revoked
  have h := readClock_then h
  obtain rfl := appendAudit_eq_ok h
  exact .loggedOut opens

theorem disable_eq_ok {token : PyStr} {workspace : WorkspaceId} {target : OperatorId}
    {expected : Version} {w w' : World (OperatorStore Digest)} {u : Unit}
    (h : disable platform token workspace target expected w = .ok u w') :
    Committed platform w (.disable token workspace target expected) .done w' := by
  obtain ⟨_, _, presented, h⟩ := bind_eq_ok.mp (atomic_eq_ok.mp h)
  obtain ⟨session, account, opens, rfl, rfl⟩ := principalOf_eq_ok presented
  obtain ⟨_, permitted, h⟩ := ofExcept_then h
  obtain ⟨_, rfl, granted⟩ := OperatorPolicy.require_eq_ok permitted
  have h := getStore_then h
  obtain ⟨named, known, h⟩ := need_then h
  obtain ⟨here, h⟩ := raiseIf_then h
  obtain ⟨_, _, ended, h⟩ := bind_eq_ok.mp h
  obtain ⟨victim, found, version, enabled, rfl⟩ := disableAccount_eq_ok ended
  have h := readClock_then h
  obtain rfl := appendAudit_eq_ok h
  obtain rfl : named = victim := Option.some.inj (known.symm.trans found)
  exact .disabled opens rfl granted found (by simpa using here) version enabled

theorem authorize_eq_ok {token : PyStr} {workspace : WorkspaceId} {resource : OperatorResource}
    {w w' : World (OperatorStore Digest)} {p : OperatorPrincipal}
    (h : authorize platform token workspace resource w = .ok p w') :
    Committed platform w (.authorize token workspace resource) (.principal p) w' := by
  obtain ⟨_, _, presented, h⟩ := bind_eq_ok.mp (atomic_eq_ok.mp h)
  obtain ⟨session, account, opens, rfl, rfl⟩ := principalOf_eq_ok presented
  obtain ⟨_, permitted, rest⟩ := ofExcept_then h
  obtain ⟨_, rfl, granted⟩ := OperatorPolicy.require_eq_ok permitted
  obtain ⟨rfl, rfl⟩ := pure_eq_ok.mp rest
  exact .authorized opens rfl granted

theorem audit_eq_ok {token : PyStr} {workspace : WorkspaceId}
    {w w' : World (OperatorStore Digest)} {records : List OperatorAudit}
    (h : audit platform token workspace w = .ok records w') :
    Committed platform w (.audit token workspace) (.audits records) w' := by
  obtain ⟨_, _, presented, h⟩ := bind_eq_ok.mp (atomic_eq_ok.mp h)
  obtain ⟨session, account, opens, rfl, rfl⟩ := principalOf_eq_ok presented
  obtain ⟨_, permitted, h⟩ := ofExcept_then h
  obtain ⟨_, rfl, granted⟩ := OperatorPolicy.require_eq_ok permitted
  have h := getStore_then h
  obtain ⟨rfl, rfl⟩ := pure_eq_ok.mp h
  exact .audited opens rfl granted

/-- A command that returned made the change that belongs to it. -/
theorem run_committed {command : OperatorCommand} {reply : OperatorReply}
    {w w' : World (OperatorStore Digest)} (h : command.run platform w = .ok reply w') :
    Committed platform w command reply w' := by
  cases command with
  | provisionLocal domain workspace id role =>
      obtain ⟨secret, ran, rfl⟩ := map_eq_ok.mp h
      exact provisionLocal_eq_ok ran
  | login service credential =>
      obtain ⟨secret, ran, rfl⟩ := map_eq_ok.mp h
      exact login_eq_ok ran
  | principal token =>
      obtain ⟨p, ran, rfl⟩ := map_eq_ok.mp h
      obtain ⟨session, account, opens, rfl, rfl⟩ := principalOf_eq_ok (atomic_eq_ok.mp ran)
      exact .identified opens
  | authorize token workspace resource =>
      obtain ⟨p, ran, rfl⟩ := map_eq_ok.mp h
      exact authorize_eq_ok ran
  | logout token =>
      obtain ⟨u, ran, rfl⟩ := map_eq_ok.mp h
      exact logout_eq_ok ran
  | disable token workspace target expected =>
      obtain ⟨u, ran, rfl⟩ := map_eq_ok.mp h
      exact disable_eq_ok ran
  | audit token workspace =>
      obtain ⟨records, ran, rfl⟩ := map_eq_ok.mp h
      exact audit_eq_ok ran

/-- A command that raised left the tables alone. -/
theorem run_rollsBack (command : OperatorCommand) : RollsBack (command.run platform) := by
  cases command with
  | provisionLocal domain workspace id role =>
      refine .map _ (.bind_reads (.ofExcept _) fun _ => .bind_reads (.ofExcept _) fun _ => ?_)
      exact .bind_idle (.draw _) fun _ => .atomic _
  | login service credential => exact .map _ (.bind_reads (.ofExcept _) fun _ => .atomic _)
  | principal token => exact .map _ (.atomic _)
  | authorize token workspace resource => exact .map _ (.atomic _)
  | logout token => exact .map _ (.atomic _)
  | disable token workspace target expected => exact .map _ (.atomic _)
  | audit token workspace => exact .map _ (.atomic _)

/-! ## Time passes -/

section Moves

variable {G : Guarantee (OperatorStore Digest)}

/-- The guarantee of a program of which only the passing of time is said. -/
abbrev anything : Guarantee (OperatorStore Digest) := Guarantee.framing fun _ => ()

omit [DecidableEq Digest] in
theorem moves_change (f : OperatorStore Digest → OperatorStore Digest) :
    Moves anything (modifyStore f : OperatorTxn Digest Unit) := .modifyStore fun _ => rfl

theorem moves_addAccount (account : OperatorAccount Digest) :
    Moves anything (addAccount account) :=
  .bind .getStore fun _ => .bind (.raiseIf _ _) fun _ => moves_change _

theorem moves_addSession (session : OperatorSession Digest) :
    Moves anything (addSession session) :=
  .bind .getStore fun _ => .bind (.raiseIf _ _) fun _ => moves_change _

omit [DecidableEq Digest] in
theorem moves_appendAudit (event : OperatorAudit) :
    Moves anything (appendAudit event : OperatorTxn Digest Unit) :=
  .bind .getStore fun _ => .bind (.raiseIf _ _) fun _ => moves_change _

theorem moves_revokeSession (digest : Digest) : Moves anything (revokeSession digest) := by
  refine .bind .getStore fun s => ?_
  cases s.session digest with
  | some session => exact moves_change _
  | none => exact .pure _

omit [DecidableEq Digest] in
theorem moves_disableAccount (id : OperatorId) (expected : Version) :
    Moves anything (disableAccount id expected : OperatorTxn Digest Unit) := by
  refine .bind .getStore fun s => ?_
  cases s.account id with
  | some account => exact .bind (.raiseIf _ _) fun _ => moves_change _
  | none => exact .raise _

theorem moves_principalOf (token : PyStr) : Moves G (principalOf platform token) :=
  .bind (.ofExcept _) fun _ => .bind .getStore fun _ => .bind (.need _ _) fun _ =>
    .bind (.raiseIf _ _) fun _ => .bind (.readClock _) fun _ => .bind (.raiseIf _ _) fun _ =>
      .bind (.need _ _) fun _ => .bind (.raiseIf _ _) fun _ => .pure _

/-- Every command only uses up secrets and clock readings. -/
theorem moves_run (command : OperatorCommand) :
    Moves anything (command.run platform) := by
  cases command with
  | provisionLocal domain workspace id role =>
      refine .map _ (.bind (.ofExcept _) fun _ => .bind (.ofExcept _) fun _ =>
        .bind (.draw _) fun _ => .atomic (.bind (.ofExcept _) fun _ => ?_))
      exact .bind (moves_addAccount _) fun _ => .bind (.readClock _) fun _ =>
        .bind (moves_appendAudit _) fun _ => .pure _
  | login service credential =>
      refine .map _ (.bind (.ofExcept _) fun _ => .atomic (.bind .getStore fun _ =>
        .bind (.need _ _) fun _ => .bind (.raiseIf _ _) fun _ => .bind (.readClock _) fun _ =>
          .bind (.draw _) fun _ => .bind (.ofExcept _) fun _ => ?_))
      exact .bind (moves_addSession _) fun _ => .bind (moves_appendAudit _) fun _ => .pure _
  | principal token => exact .map _ (.atomic (moves_principalOf _))
  | authorize token workspace resource =>
      exact .map _ (.atomic (.bind (moves_principalOf _) fun _ => .bind (.ofExcept _) fun _ =>
        .pure _))
  | logout token =>
      refine .map _ (.atomic (.bind (moves_principalOf _) fun _ => .bind (.ofExcept _) fun _ =>
        .bind (moves_revokeSession _) fun _ => .bind (.readClock _) fun _ => ?_))
      exact moves_appendAudit _
  | disable token workspace target expected =>
      refine .map _ (.atomic (.bind (moves_principalOf _) fun _ => .bind (.ofExcept _) fun _ =>
        .bind .getStore fun _ => .bind (.need _ _) fun _ => .bind (.raiseIf _ _) fun _ =>
          .bind (moves_disableAccount _ _) fun _ => .bind (.readClock _) fun _ => ?_))
      exact moves_appendAudit _
  | audit token workspace =>
      exact .map _ (.atomic (.bind (moves_principalOf _) fun _ => .bind (.ofExcept _) fun _ =>
        .bind .getStore fun _ => .pure _))

end Moves

/-! ## Histories, one command at a time -/

theorem after_concat (commands : List OperatorCommand) (command : OperatorCommand) :
    after platform (commands ++ [command]) =
      World.after (command.run platform (after platform commands)) := by
  simp [after]

theorem Answers.committed {commands : List OperatorCommand} {command : OperatorCommand}
    {reply : OperatorReply} (h : Answers platform commands command reply) :
    ∃ w, after platform (commands ++ [command]) = w ∧
      Committed platform (after platform commands) command reply w := by
  rw [after_concat]
  unfold Answers at h
  cases ran : command.run platform (after platform commands) with
  | ok answer w =>
      rw [ran] at h
      obtain rfl : answer = reply := Except.ok.inj h
      exact ⟨w, rfl, run_committed ran⟩
  | error e w =>
      rw [ran] at h
      cases h

/-- The next command returns, or it raises and leaves the tables alone. -/
theorem step_cases (platform : OperatorPlatform Digest) (commands : List OperatorCommand)
    (command : OperatorCommand) :
    (∃ reply, Answers platform commands command reply) ∨
      (∀ reply, ¬ Answers platform commands command reply) ∧
        (after platform (commands ++ [command])).store = (after platform commands).store := by
  rw [after_concat]
  unfold Answers
  cases ran : command.run platform (after platform commands) with
  | ok answer w => exact .inl ⟨answer, rfl⟩
  | error e w =>
      refine .inr ⟨?_, (run_rollsBack command).store_eq ran⟩
      intro reply returned
      cases returned

/-- A history goes on one command at a time. -/
theorem append_concat (commands more : List OperatorCommand) (command : OperatorCommand) :
    commands ++ (more ++ [command]) = (commands ++ more) ++ [command] :=
  (List.append_assoc commands more [command]).symm

/-- Secrets are only used up. -/
theorem issued_mono (platform : OperatorPlatform Digest) (commands more : List OperatorCommand) :
    (after platform commands).issued ≤ (after platform (commands ++ more)).issued := by
  induction more using List.reverseRecOn with
  | nil => simp
  | append_singleton more command ih =>
      rw [append_concat, after_concat]
      exact ih.trans (moves_run command _).1.1

/-! ## Accounts -/

/-- What an account can become: it is disabled, and then never changes. -/
def OperatorAccount.Later (a b : OperatorAccount Digest) : Prop :=
  b = a ∨ (a.principal.enabled = true ∧ b = a.disabled)

namespace OperatorAccount.Later

variable {a b c : OperatorAccount Digest}

omit [DecidableEq Digest] in
theorem trans (h : a.Later b) (h' : b.Later c) : a.Later c := by
  rcases h with rfl | ⟨enabled, rfl⟩
  · exact h'
  · rcases h' with rfl | ⟨again, -⟩
    · exact .inr ⟨enabled, rfl⟩
    · cases again

omit [DecidableEq Digest] in
/-- A disabled account stays as it is. -/
theorem of_disabled (h : a.Later b) (off : a.principal.enabled = false) : b = a := by
  rcases h with rfl | ⟨enabled, -⟩
  · rfl
  · rw [off] at enabled
    cases enabled

omit [DecidableEq Digest] in
/-- An account that is later enabled was never changed. -/
theorem of_enabled (h : a.Later b) (on : b.principal.enabled = true) : b = a := by
  rcases h with rfl | ⟨-, rfl⟩
  · rfl
  · cases on

omit [DecidableEq Digest] in
theorem digest_eq (h : a.Later b) : b.credentialDigest = a.credentialDigest := by
  rcases h with rfl | ⟨-, rfl⟩ <;> rfl

end OperatorAccount.Later

/-- One command leaves every account or disables it. -/
theorem accounts_step (commands : List OperatorCommand) (command : OperatorCommand) :
    Registry.Evolves OperatorAccount.Later (after platform commands).store.accounts
      (after platform (commands ++ [command])).store.accounts := by
  have kept : ∀ a : OperatorAccount Digest, a.Later a := fun _ => .inl rfl
  rcases step_cases platform commands command with ⟨reply, returned⟩ | ⟨-, same⟩
  · obtain ⟨w, reached, done⟩ := returned.committed
    rw [reached]
    cases done with
    | provisioned created hashed free unclaimed =>
        refine .put kept fun old present => ?_
        cases free.symm.trans present
    | disabled opens own granted found here version enabled =>
        refine .put kept fun old present => ?_
        obtain rfl := Registry.key_of_get? found
        cases (show some _ = some _ from found.symm.trans present)
        exact .inr ⟨enabled, rfl⟩
    | loggedIn => exact .refl kept _
    | loggedOut => exact .refl kept _
    | identified => exact .refl kept _
    | authorized => exact .refl kept _
    | audited => exact .refl kept _
  · rw [same]
    exact .refl kept _

/-- What an account has become after more commands. -/
theorem account_later {commands : List OperatorCommand} {id : OperatorId}
    {a : OperatorAccount Digest} (found : (after platform commands).store.account id = some a)
    (more : List OperatorCommand) :
    ∃ b, (after platform (commands ++ more)).store.account id = some b ∧ a.Later b := by
  have run : Registry.Evolves OperatorAccount.Later (after platform commands).store.accounts
      (after platform (commands ++ more)).store.accounts := by
    induction more using List.reverseRecOn with
    | nil =>
        rw [List.append_nil]
        exact .refl (fun _ => .inl rfl) _
    | append_singleton more command ih =>
        rw [append_concat]
        exact ih.trans (fun first second => first.trans second) (accounts_step _ command)
  exact run.later found

/-! ## Sessions -/

/-- A session was opened by a login of the history, before which the account was enabled,
and an unrevoked session's token was never logged out since. -/
structure OpenedBy (platform : OperatorPlatform Digest) (commands : List OperatorCommand)
    (session : OperatorSession Digest) (earlier : List OperatorCommand)
    (service : OperatorService) (credential token : PyStr) (account : OperatorAccount Digest)
    (later : List OperatorCommand) : Prop where
  history : commands = earlier ++ .login service credential :: later
  returned : Answers platform earlier (.login service credential) (.secret token)
  hashedToken : digest platform token .session = .ok session.tokenDigest
  hashedCredential : digest platform credential .credential = .ok account.credentialDigest
  owner : (after platform earlier).store.account session.principalId = some account
  enabled : account.principal.enabled = true
  version : account.principal.version = session.principalVersion
  begun : session.createdAt = platform.clock (after platform earlier).reads
  ends : session.expiresAt = session.createdAt + seconds service.sessionSeconds
  live : session.revoked = false → ∀ before rest, later = before ++ .logout token :: rest →
    ¬ Answers platform (earlier ++ .login service credential :: before) (.logout token) .done

/-- Some login of the history opened the session. -/
def Opened (platform : OperatorPlatform Digest) (commands : List OperatorCommand)
    (session : OperatorSession Digest) : Prop :=
  ∃ earlier service credential token account later,
    OpenedBy platform commands session earlier service credential token account later

/-- One more command that does not log the session out. -/
theorem Opened.extend {commands : List OperatorCommand} {session : OperatorSession Digest}
    (h : Opened platform commands session) (command : OperatorCommand)
    (other : session.revoked = false → ∀ token,
      digest platform token .session = .ok session.tokenDigest → command = .logout token →
        ¬ Answers platform commands (.logout token) .done) :
    Opened platform (commands ++ [command]) session := by
  obtain ⟨earlier, service, credential, token, account, later, h⟩ := h
  refine ⟨earlier, service, credential, token, account, later ++ [command], ?_⟩
  refine { h with history := by simp [h.history], live := ?_ }
  intro unrevoked before rest split
  rcases List.eq_nil_or_concat rest with rfl | ⟨rest, last, rfl⟩
  · -- The logout is the command just added.
    obtain ⟨rfl, added⟩ := List.append_inj' split rfl
    have last : command = .logout token := by simpa using added
    have refused := other unrevoked token h.hashedToken last
    rw [h.history] at refused
    exact refused
  · have earlierSplit : later = before ++ .logout token :: rest := by
      have : later ++ [command] = (before ++ .logout token :: rest) ++ [last] := by
        simpa using split
      exact (List.append_inj' this rfl).1
    exact h.live unrevoked before rest earlierSplit

/-- Every session of the database was opened by a login of the history. -/
theorem session_opened (commands : List OperatorCommand) :
    ∀ session ∈ (after platform commands).store.sessions.values,
      Opened platform commands session := by
  induction commands using List.reverseRecOn with
  | nil =>
      intro session mem
      cases mem
  | append_singleton commands command ih =>
      intro session mem
      rcases step_cases platform commands command with
        ⟨reply, returned⟩ | ⟨failed, same⟩
      · obtain ⟨w, reached, done⟩ := returned.committed
        rw [reached] at mem
        cases done with
        | @loggedIn service credential account tokenDigest hashed found enabled token free =>
            rcases Registry.mem_values_put.mp mem with rfl | ⟨old, -⟩
            · refine ⟨commands, service, credential, _, account, [], rfl, returned, token, hashed,
                Registry.get?_of_mem_values (List.mem_of_find?_eq_some found), enabled, rfl, rfl,
                rfl, ?_⟩
              intro _ before rest split
              simp at split
            · exact (ih session old).extend _ fun _ _ _ other => nomatch other
        | @loggedOut token ended account opens =>
            rcases Registry.mem_values_put.mp mem with rfl | ⟨old, apart⟩
            · obtain ⟨earlier, service, credential, token', account', later, h⟩ :=
                ih ended (Registry.mem_values_of_get? opens.found)
              have ended' : Opened platform commands ended.ended :=
                ⟨earlier, service, credential, token', account', later,
                  { h with live := fun unrevoked => nomatch unrevoked }⟩
              exact ended'.extend _ fun unrevoked => nomatch unrevoked
            · refine (ih session old).extend _ fun _ token' hashed same => ?_
              cases same
              exact absurd (Except.ok.inj (hashed.symm.trans opens.hashedToken)) apart
        | provisioned | disabled | identified | authorized | audited =>
            exact (ih session mem).extend _ fun _ _ _ other => nomatch other
      · rw [same] at mem
        refine (ih session mem).extend _ fun _ token _ other => ?_
        subst other
        exact failed .done

/-! ## Accounts come from provisioning -/

/-- A command of the history provisioned the operator with the credential. -/
def Provisions (platform : OperatorPlatform Digest) (commands : List OperatorCommand)
    (id : OperatorId) (credential : PyStr) : Prop :=
  ∃ before domain workspace role rest,
    commands = before ++ .provisionLocal domain workspace id role :: rest ∧
      Answers platform before (.provisionLocal domain workspace id role) (.secret credential)

/-- A login of the history returned the token for the credential. -/
def LogsIn (platform : OperatorPlatform Digest) (commands : List OperatorCommand)
    (credential token : PyStr) : Prop :=
  ∃ before service rest, commands = before ++ .login service credential :: rest ∧
    Answers platform before (.login service credential) (.secret token)

/-- The operator's account is disabled. -/
def Disabled (platform : OperatorPlatform Digest) (commands : List OperatorCommand)
    (id : OperatorId) : Prop :=
  ∃ account, (after platform commands).store.account id = some account ∧
    account.principal.enabled = false

/-- No two accounts share a credential digest. -/
theorem credential_unique (commands : List OperatorCommand) {a b : OperatorAccount Digest}
    (ha : a ∈ (after platform commands).store.accounts.values)
    (hb : b ∈ (after platform commands).store.accounts.values)
    (same : a.credentialDigest = b.credentialDigest) : a = b := by
  induction commands using List.reverseRecOn generalizing a b with
  | nil => cases ha
  | append_singleton commands command ih =>
      rcases step_cases platform commands command with
        ⟨reply, returned⟩ | ⟨-, unchanged⟩
      · obtain ⟨w, reached, done⟩ := returned.committed
        rw [reached] at ha hb
        cases done with
        | @provisioned domain workspace id role principal credentialDigest created hashed free
            unclaimed =>
            have apart : ∀ c ∈ (after platform commands).store.accounts.values,
                c.credentialDigest ≠ credentialDigest := by
              simpa using List.find?_eq_none.mp unclaimed
            rcases Registry.mem_values_put.mp ha with rfl | ⟨ha, -⟩ <;>
              rcases Registry.mem_values_put.mp hb with rfl | ⟨hb, -⟩
            · rfl
            · exact absurd same.symm (apart b hb)
            · exact absurd same (apart a ha)
            · exact ih ha hb same
        | @disabled token workspace target expected session account victim opens own granted found
            here version enabled =>
            have victimMem := Registry.mem_values_of_get? found
            rcases Registry.mem_values_put.mp ha with rfl | ⟨ha, apartA⟩ <;>
              rcases Registry.mem_values_put.mp hb with rfl | ⟨hb, apartB⟩
            · rfl
            · obtain rfl := ih victimMem hb same
              exact absurd rfl apartB
            · obtain rfl := ih ha victimMem same
              exact absurd rfl apartA
            · exact ih ha hb same
        | loggedIn | loggedOut | identified | authorized | audited => exact ih ha hb same
      · rw [unchanged] at ha hb
        exact ih ha hb same

/-- The identifier of a new principal is the one asked for. -/
theorem create_id {id : OperatorId} {workspace : WorkspaceId} {role : OperatorRole}
    {principal : OperatorPrincipal}
    (created : OperatorPrincipal.create id workspace role = .ok principal) :
    principal.id = id := by
  unfold OperatorPrincipal.create at created
  split at created
  · cases created
    rfl
  · cases created

/-- A provisioned operator has an account with the digest of the credential. -/
theorem Provisions.account {commands : List OperatorCommand} {id : OperatorId}
    {credential : PyStr} (h : Provisions platform commands id credential) :
    ∃ account, (after platform commands).store.account id = some account ∧
      digest platform credential .credential = .ok account.credentialDigest := by
  obtain ⟨before, domain, workspace, role, rest, rfl, returned⟩ := h
  obtain ⟨w, reached, done⟩ := returned.committed
  cases done with
  | @provisioned _ _ _ _ principal credentialDigest created hashed free unclaimed =>
      have named := create_id created
      have added :
          (after platform (before ++ [.provisionLocal domain workspace id role])).store.account id =
            some ⟨principal, credentialDigest⟩ := by
        rw [reached, ← named]
        exact Registry.get?_put_self _ _
      obtain ⟨account, found, later⟩ := account_later added rest
      rw [List.append_assoc] at found
      refine ⟨account, found, ?_⟩
      rw [later.digest_eq]
      exact hashed

theorem Provisions.append {commands : List OperatorCommand} {id : OperatorId}
    {credential : PyStr} (h : Provisions platform commands id credential)
    (more : List OperatorCommand) : Provisions platform (commands ++ more) id credential := by
  obtain ⟨before, domain, workspace, role, rest, rfl, returned⟩ := h
  exact ⟨before, domain, workspace, role, rest ++ more, by simp, returned⟩

theorem LogsIn.append {commands : List OperatorCommand} {credential token : PyStr}
    (h : LogsIn platform commands credential token) (more : List OperatorCommand) :
    LogsIn platform (commands ++ more) credential token := by
  obtain ⟨before, service, rest, rfl, returned⟩ := h
  exact ⟨before, service, rest ++ more, by simp, returned⟩

/-- Every account was provisioned with a credential of its digest. -/
theorem account_provisioned (commands : List OperatorCommand) {account : OperatorAccount Digest}
    (mem : account ∈ (after platform commands).store.accounts.values) :
    ∃ credential, Provisions platform commands account.principal.id credential ∧
      digest platform credential .credential = .ok account.credentialDigest := by
  induction commands using List.reverseRecOn generalizing account with
  | nil => cases mem
  | append_singleton commands command ih =>
      have older : ∀ old ∈ (after platform commands).store.accounts.values,
          ∃ credential, Provisions platform (commands ++ [command]) old.principal.id credential ∧
            digest platform credential .credential = .ok old.credentialDigest := by
        intro old known
        obtain ⟨credential, provisioned, hashed⟩ := ih known
        exact ⟨credential, provisioned.append _, hashed⟩
      rcases step_cases platform commands command with
        ⟨reply, returned⟩ | ⟨-, unchanged⟩
      · obtain ⟨w, reached, done⟩ := returned.committed
        rw [reached] at mem
        cases done with
        | @provisioned domain workspace id role principal credentialDigest created hashed free
            unclaimed =>
            rcases Registry.mem_values_put.mp mem with rfl | ⟨old, -⟩
            · have named := create_id created
              refine ⟨_, ⟨commands, domain, workspace, role, [], ?_, ?_⟩, hashed⟩
              · rw [named]
              · rw [named]
                exact returned
            · exact older account old
        | @disabled token workspace target expected session owner victim opens own granted found
            here version enabled =>
            rcases Registry.mem_values_put.mp mem with rfl | ⟨old, -⟩
            · exact older victim (Registry.mem_values_of_get? found)
            · exact older account old
        | loggedIn | loggedOut | identified | authorized | audited => exact older account mem
      · rw [unchanged] at mem
        exact older account mem

/-! ## Sessions stay -/

/-- A session is the same operator's as another. -/
def OperatorSession.SameOwner (s t : OperatorSession Digest) : Prop :=
  t.principalId = s.principalId

omit [DecidableEq Digest] in
theorem OperatorSession.SameOwner.refl (s : OperatorSession Digest) : s.SameOwner s := rfl

omit [DecidableEq Digest] in
theorem OperatorSession.SameOwner.trans {r s t : OperatorSession Digest} (h : r.SameOwner s)
    (h' : s.SameOwner t) : r.SameOwner t := Eq.trans h' h

/-- A session keeps its owner whatever else happens to it. -/
theorem sessions_step (commands : List OperatorCommand) (command : OperatorCommand) :
    Registry.Evolves OperatorSession.SameOwner (after platform commands).store.sessions
      (after platform (commands ++ [command])).store.sessions := by
  have kept : ∀ s : OperatorSession Digest, s.SameOwner s := .refl
  rcases step_cases platform commands command with ⟨reply, returned⟩ | ⟨-, same⟩
  · obtain ⟨w, reached, done⟩ := returned.committed
    rw [reached]
    cases done with
    | loggedIn hashed found enabled token free =>
        refine .put kept fun old present => ?_
        cases free.symm.trans present
    | loggedOut opens =>
        refine .put kept fun old present => ?_
        cases (show some _ = some _ from opens.found.symm.trans present)
        exact rfl
    | provisioned | disabled | identified | authorized | audited => exact .refl kept _
  · rw [same]
    exact .refl kept _

theorem session_later {commands : List OperatorCommand} {d : Digest}
    {session : OperatorSession Digest}
    (found : (after platform commands).store.session d = some session)
    (more : List OperatorCommand) :
    ∃ session' : OperatorSession Digest,
      (after platform (commands ++ more)).store.session d = some session' ∧
      session'.principalId = session.principalId := by
  have run : Registry.Evolves OperatorSession.SameOwner (after platform commands).store.sessions
      (after platform (commands ++ more)).store.sessions := by
    induction more using List.reverseRecOn with
    | nil =>
        rw [List.append_nil]
        exact .refl OperatorSession.SameOwner.refl _
    | append_singleton more command ih =>
        rw [append_concat]
        exact ih.trans (fun first second => first.trans second) (sessions_step _ command)
  exact run.later found

/-! ## Secrets are issued once -/

/-- A command that answers a secret issued it. -/
theorem Answers.issues {commands : List OperatorCommand} {command : OperatorCommand}
    {secret : PyStr} (h : Answers platform commands command (.secret secret)) :
    secret = platform.issue (after platform commands).issued ∧
      (after platform (commands ++ [command])).issued =
        (after platform commands).issued + 1 := by
  obtain ⟨w, reached, done⟩ := h.committed
  rw [reached]
  cases done with
  | provisioned => exact ⟨rfl, rfl⟩
  | loggedIn => exact ⟨rfl, rfl⟩

/-- Two different commands of one history answer different secrets. -/
theorem secrets_apart (sound : platform.Sound) {before before' rest rest' : List OperatorCommand}
    {command command' : OperatorCommand} {secret secret' : PyStr}
    (one : before ++ command :: rest = before' ++ command' :: rest')
    (different : command ≠ command')
    (h : Answers platform before command (.secret secret))
    (h' : Answers platform before' command' (.secret secret')) : secret ≠ secret' := by
  intro same
  obtain ⟨rfl, grown⟩ := h.issues
  obtain ⟨rfl, grown'⟩ := h'.issues
  have counts := sound.fresh same
  rcases List.append_eq_append_iff.mp one with ⟨between, rfl, split⟩ | ⟨between, rfl, split⟩
  · cases between with
    | nil => exact different (List.cons.inj split).1
    | cons first between =>
        obtain rfl : command = first := (List.cons.inj split).1
        have later := issued_mono platform (before ++ [command]) between
        rw [List.append_assoc, List.singleton_append] at later
        omega
  · cases between with
    | nil => exact different (List.cons.inj split).1.symm
    | cons first between =>
        obtain rfl : command' = first := (List.cons.inj split).1
        have later := issued_mono platform (before' ++ [command']) between
        rw [List.append_assoc, List.singleton_append] at later
        omega

end AgentCompanyOS.Operator
