import Chttp.App.Auth.SignIn
import Chttp.Server.Session.Keys

/-!
# Signing in closes a session or gives it a new identifier

After the regeneration every call works on the snapshot alone, whether it
succeeds or fails.  So a failure finds the record as it was, and invalidating
the session leaves nothing of the new principal behind.
-/

namespace Chttp.App

open Lib Server
open SessionStore

/-! ## Calls which work on the snapshot -/

/-- A context on which a handler can work. -/
structure Usable (context : SessionContext) : Prop where
  bound : context.record ≠ none
  valid : context.invalidated = false
  distinct : context.snapshot.Distinct

/-- Only the snapshot is another one. -/
structure Revised (before after : SessionContext) : Prop where
  same : after =
    { before with snapshot := after.snapshot, dirty := after.dirty }
  distinct : after.snapshot.Distinct

variable {context : SessionContext} {store : SessionStore}

theorem Revised.refl (distinct : context.snapshot.Distinct) :
    Revised context context :=
  ⟨rfl, distinct⟩

/-- Revisions of a context compose. -/
theorem Revised.trans {first second third : SessionContext}
    (one : Revised first second)
    (two : Revised second third) : Revised first third := by
  refine ⟨?_, two.distinct⟩
  have last := two.same
  rw [one.same] at last
  exact last

theorem Revised.usable {before after : SessionContext}
    (revised : Revised before after)
    (usable : Usable before) : Usable after := by
  refine ⟨?_, ?_, revised.distinct⟩
  · rw [revised.same]
    exact usable.bound
  · rw [revised.same]
    exact usable.valid

theorem Revised.clearMatching {before after : SessionContext}
    (revised : Revised before after)
    (store : SessionStore) :
    store.clearMatching after = store.clearMatching before := by
  rw [revised.same]
  rfl

/-- What a call does which works on the snapshot; `values` is what the snapshot
holds if it succeeds. -/
structure Edited (store : SessionStore) (context : SessionContext)
    (values : CString → Option CString) (outcome : SessionOutcome) : Prop where
  store : outcome.2.1 = store
  revised : Revised context outcome.2.2
  value : outcome.1 = .ok → outcome.2.2.snapshot.value = values

/-- Two edits one after another are an edit. -/
theorem Edited.next {values values' : CString → Option CString}
    {outcome : SessionOutcome}
    (first : Edited store context values outcome)
    (call : SessionStore → SessionContext → SessionOutcome)
    (second : ∀ context', Revised context context' →
      context'.snapshot.value = values →
        Edited store context' values' (call store context')) :
    Edited store context values' (outcome.next call) := by
  unfold SessionOutcome.next
  split_ifs with success
  · have then_ := second outcome.2.2 first.revised (first.value success)
    rw [← first.store] at then_
    exact ⟨then_.store.trans first.store, first.revised.trans then_.revised,
      then_.value⟩
  · exact ⟨first.store, first.revised, fun impossible =>
      absurd impossible success⟩

theorem removeOptional_edited (store : SessionStore)
    {key : CString} (usable : Usable context) (named : key.bytes ≠ []) :
    Edited store context (Function.update context.snapshot.value key none)
      (removeOptional key store context) := by
  unfold removeOptional remove
  rw [if_neg (by simp [named, usable.valid]), if_neg usable.bound]
  cases dropped : context.snapshot.drop key with
  | none =>
    refine ⟨rfl, Revised.refl usable.distinct, fun _ => ?_⟩
    exact (SessionEntries.value_of_drop_none dropped).symm
  | some snapshot =>
    obtain ⟨distinct, value⟩ := usable.distinct.drop dropped
    exact ⟨rfl, ⟨rfl, distinct⟩, fun _ => value⟩

theorem set_edited (store : SessionStore) (key value : CString) (nowMs : UInt64)
    (random : RandomSource) (usable : Usable context) :
    Edited store context
      (Function.update context.snapshot.value key (some value))
      (store.set context key value nowMs random) := by
  have unchanged : ∀ status : Status, status ≠ .ok → Edited store context
        (Function.update context.snapshot.value key (some value))
        (status, store, context) := fun status failed =>
    ⟨rfl, Revised.refl usable.distinct, fun impossible =>
      absurd impossible failed⟩
  unfold SessionStore.set
  split_ifs with misused long unbound
  · exact unchanged _ (by decide)
  · exact unchanged _ (by decide)
  · exact absurd unbound usable.bound
  unfold write
  split
  · exact unchanged _ (by decide)
  · rename_i snapshot stored
    exact ⟨rfl, ⟨rfl, usable.distinct.put stored⟩, fun _ =>
      SessionEntries.value_put stored⟩

/-- A value which is there and not empty. -/
def given (value : Option CString) : Option CString :=
  value.filter fun value => value.bytes ≠ []

namespace SignIn

variable (login : SignIn)

theorem setGiven_edited (call : Nat) (key : CString) (value : Option CString)
    (store : SessionStore) (usable : Usable context)
    (absent : context.snapshot.value key = none) :
    Edited store context
      (Function.update context.snapshot.value key (given value))
      (login.setGiven call key value store context) := by
  have unchanged : given value = none → Edited store context
        (Function.update context.snapshot.value key (given value))
        (.ok, store, context) := by
    intro missing
    refine ⟨rfl, Revised.refl usable.distinct, fun _ => ?_⟩
    rw [missing, ← absent, Function.update_eq_self]
  unfold setGiven
  cases value with
  | none => exact unchanged rfl
  | some value =>
    dsimp only
    split_ifs with empty
    · exact unchanged (by simp [given, empty])
    rw [show given (some value) = some value by simp [given, empty]]
    exact set_edited store key value _ _ usable

/-- What the snapshot holds when the principal is written. -/
def principalValues (principal : PrincipalInput)
    (values : CString → Option CString) : CString → Option CString :=
  Function.update
    (Function.update
      (Function.update values principalSubjectKey (some principal.subject))
      principalRoleKey (given principal.role))
    principalDisplayKey (given principal.displayName)

/-- What the snapshot holds when an earlier principal is removed. -/
def clearedValues (values : CString → Option CString) :
    CString → Option CString := Function.update
    (Function.update (Function.update values principalSubjectKey none)
      principalRoleKey none)
    principalDisplayKey none

theorem clearPrincipal_edited (store : SessionStore) (usable : Usable context) :
    Edited store context (clearedValues context.snapshot.value)
    (clearPrincipal store context) := by
  have remove : ∀ (key : CString) (context' : SessionContext)
      (values : CString → Option CString), key.bytes ≠ [] →
      Revised context context' → context'.snapshot.value = values →
        Edited store context' (Function.update values key none)
          (removeOptional key store context') := by
    intro key context' values named revised value
    rw [← value]
    exact removeOptional_edited store (revised.usable usable) named
  have first := remove principalSubjectKey context _ (by decide)
    (Revised.refl usable.distinct) rfl
  have second := first.next (removeOptional principalRoleKey)
    fun context' => remove principalRoleKey context' _ (by decide)
  exact second.next (removeOptional principalDisplayKey)
    fun context' => remove principalDisplayKey context' _ (by decide)

theorem writePrincipal_edited (store : SessionStore) (usable : Usable context)
    (role : context.snapshot.value principalRoleKey = none)
    (display : context.snapshot.value principalDisplayKey = none) :
    Edited store context
      (principalValues login.principal context.snapshot.value)
      (login.writePrincipal store context) := by
  have first := set_edited store principalSubjectKey login.principal.subject
    (login.environment 1).1 (login.environment 1).2 usable
  have second :=
    first.next (login.setGiven 2 principalRoleKey login.principal.role)
    fun context' revised value => value ▸
      login.setGiven_edited 2 _ _ store (revised.usable usable) (by
        rw [value, Function.update_of_ne (by decide), role])
  refine second.next
    (login.setGiven 3 principalDisplayKey login.principal.displayName)
    fun context' revised value => ?_
  rw [principalValues, ← value]
  refine login.setGiven_edited 3 _ _ store (revised.usable usable) ?_
  rw [value, Function.update_of_ne (by decide),
    Function.update_of_ne (by decide), display]

end SignIn

/-! ## Tokens -/

theorem csrfTokenValid_text (random : Vector UInt8 32) :
    csrfTokenValid (csrfTokenText random) = true := by
  have length : (csrfTokenText random).length = csrfTokenBytes := by
    simp [csrfTokenText, csrfTokenBytes, List.length_flatMap]
  unfold csrfTokenValid
  simp only [length, beq_self_eq_true, Bool.true_and, List.all_eq_true,
    Bool.or_eq_true, Bool.and_eq_true, decide_eq_true_eq]
  exact fun octet member => mem_csrfTokenText member

theorem csrfToken_of_value (usable : Usable context) {random : Vector UInt8 32}
    (value : context.snapshot.value csrfSessionKey =
      some (csrfTokenString random)) :
    csrfToken (some context) = some (csrfTokenText random) := by
  obtain ⟨entry, found, same⟩ := Option.map_eq_some_iff.mp value
  have got : context.get csrfSessionKey = some entry := by
    unfold SessionContext.get
    rw [if_neg (by simp [usable.bound, usable.valid]), found]
  unfold csrfToken
  rw [Option.bind_some, got, Option.bind_some, same]
  exact if_pos (csrfTokenValid_text random)

/-- A token which is accepted for a method with effects belongs to a session
which is there. -/
theorem usable_of_csrfToken {token : Bytes}
    (stored : csrfToken (some context) = some token)
    (distinct : context.snapshot.Distinct) : Usable context := by
  unfold csrfToken at stored
  rw [Option.bind_some] at stored
  obtain ⟨entry, found, -⟩ := Option.bind_eq_some_iff.mp stored
  unfold SessionContext.get at found
  split_ifs at found with unusable
  rw [not_or] at unusable
  exact ⟨unusable.1, Bool.eq_false_iff.mpr unusable.2, distinct⟩

theorem csrfValidateToken_stored {request : RequestView} {token : Option Bytes}
    (unsafe_ : csrfMethodUnsafe request.method = true)
    (accepted : (csrfValidateToken request token).status = .ok) :
    ∃ expected, csrfToken request.session = some expected := by
  unfold csrfValidateToken at accepted
  rw [unsafe_] at accepted
  cases stored : csrfToken request.session with
  | none =>
    rw [stored] at accepted
    cases accepted
  | some expected => exact ⟨expected, rfl⟩

theorem csrfValidate_stored {request : RequestView} {form : Option WebForm}
    (unsafe_ : csrfMethodUnsafe request.method = true)
    (accepted : (csrfValidate request form).status = .ok) :
    ∃ expected, csrfToken request.session = some expected := by
  unfold csrfValidate at accepted
  split at accepted
  iterate 2 · exact csrfValidateToken_stored unsafe_ accepted
  split_ifs at accepted
  · cases accepted
  all_goals exact csrfValidateToken_stored unsafe_ accepted

theorem sessionStatus_status {status : Status} {message : String}
    (failed : status ≠ .ok) : (sessionStatus status message).status ≠ .ok := by
  unfold sessionStatus
  rw [if_neg failed]
  split_ifs <;> rintro ⟨⟩

/-- What writing a token does to the session. -/
structure TokenWritten (store : SessionStore) (context : SessionContext)
    (drawn : Status × Vector UInt8 32)
    (written : WebError × Option Bytes × SessionStore × SessionContext) :
    Prop where
  store : written.2.2.1 = store
  revised : Revised context written.2.2.2
  success : written.1.status = .ok → drawn.1 = .ok ∧
    written.2.1 = some (csrfTokenText drawn.2) ∧
      written.2.2.2.snapshot.value =
        Function.update context.snapshot.value csrfSessionKey
          (some (csrfTokenString drawn.2))

theorem csrfWrite_spec (store : SessionStore) (drawn : Status × Vector UInt8 32)
    (nowMs : UInt64)
    (random : RandomSource) (usable : Usable context) :
    TokenWritten store context drawn
      (csrfWrite store context drawn nowMs random) := by
  have edited := set_edited store csrfSessionKey
    (csrfTokenString drawn.2) nowMs random usable
  unfold csrfWrite
  by_cases failed : drawn.1 ≠ .ok
  · rw [if_pos failed]
    exact ⟨rfl, Revised.refl usable.distinct, fun accepted =>
      absurd accepted (sessionStatus_status failed)⟩
  rw [if_neg failed]
  generalize store.set context csrfSessionKey (csrfTokenString drawn.2)
    nowMs random = outcome at edited
  obtain ⟨status, store', context'⟩ := outcome
  obtain ⟨rfl, revised, value⟩ := edited
  split
  · rename_i _ _ _ same
    cases same
    have got := csrfToken_of_value (revised.usable usable)
      (by rw [value rfl, Function.update_self])
    rw [got]
    exact ⟨rfl, revised, fun _ => ⟨not_not.mp failed, rfl, value rfl⟩⟩
  · rename_i _ _ _ refused same
    cases same
    exact ⟨rfl, revised, fun accepted =>
      absurd accepted (sessionStatus_status refused)⟩

/-! ## From the regenerated session on -/

/-- The session belongs to the principal. -/
structure Established (login : SignIn) (store : SessionStore)
    (context : SessionContext) (outcome : SignInOutcome) : Prop where
  store : outcome.store = store
  revised : Revised context outcome.context
  drawn : login.drawn.1 = .ok
  token : outcome.csrfToken = some (csrfTokenText login.drawn.2)
  value : outcome.context.snapshot.value = Function.update
      (SignIn.principalValues login.principal
        (SignIn.clearedValues context.snapshot.value))
      csrfSessionKey (some (csrfTokenString login.drawn.2))

/-- The session is closed. -/
structure Revoked (store : SessionStore) (context : SessionContext)
    (outcome : SignInOutcome) : Prop where
  store : outcome.store = store.clearMatching context
  unbound : outcome.context.record = none
  invalidated : outcome.context.invalidated = true
  uncreated : outcome.context.created = false
  empty : ∀ key, outcome.context.snapshot.value key = none
  token : outcome.csrfToken = none

/-- One or the other, as the error says. -/
def Answers (login : SignIn) (store : SessionStore) (context : SessionContext)
    (outcome : SignInOutcome) : Prop :=
  (outcome.error.status = .ok ∧ Established login store context outcome) ∨
    (outcome.error.status ≠ .ok ∧ Revoked store context outcome)

theorem value_clear (entries : SessionEntries) (key : CString) :
    entries.clear.value key = none := by
  unfold SessionEntries.value SessionEntries.get SessionEntries.clear
  rw [List.find?_eq_none.mpr]
  · rfl
  · intro slot member holds
    obtain ⟨_, _, rfl⟩ := List.mem_map.mp member
    cases holds

theorem revoked_of_invalidate (store : SessionStore) {context' : SessionContext}
    (revised : Revised context context') (error : WebError) :
    Revoked store context
      ⟨error, none, (store.invalidate context').2.1,
        (store.invalidate context').2.2⟩ :=
  ⟨revised.clearMatching store, rfl, rfl, rfl, value_clear _, rfl⟩

namespace SignIn

variable (login : SignIn)

theorem closed_revoked {values : CString → Option CString}
    {outcome : SessionOutcome}
    (edited : Edited store context values outcome) (failed : outcome.1 ≠ .ok)
    (message : String) :
    (closed outcome message).error.status ≠ .ok ∧
      Revoked store context (closed outcome message) := by
  refine ⟨sessionStatus_status failed, ?_⟩
  have revoked := revoked_of_invalidate store edited.revised
    (sessionStatus outcome.1 message)
  rw [← edited.store] at revoked ⊢
  exact revoked

theorem rotate_spec (store : SessionStore) {context' : SessionContext}
    (usable : Usable context) (revised : Revised context context')
    (values : context'.snapshot.value =
      principalValues login.principal (clearedValues context.snapshot.value)) :
    Answers login store context (login.rotate store context') := by
  have spec := csrfWrite_spec store login.drawn (login.environment 4).1
    (login.environment 4).2 (revised.usable usable)
  unfold rotate
  dsimp only
  generalize csrfWrite store context' login.drawn (login.environment 4).1
    (login.environment 4).2 = written at spec
  obtain ⟨error, token, store', context''⟩ := written
  obtain ⟨rfl, revised', success⟩ := spec
  by_cases accepted : error.status = .ok
  · rw [if_neg (not_not_intro accepted)]
    obtain ⟨drawn, rfl, value⟩ := success accepted
    refine .inl ⟨rfl, rfl, revised.trans revised', drawn, rfl, ?_⟩
    rw [← values]
    exact value
  · rw [if_pos accepted]
    exact .inr
      ⟨accepted, revoked_of_invalidate _ (revised.trans revised') error⟩

theorem establish_spec (store : SessionStore) (usable : Usable context) :
    Answers login store context (login.establish store context) := by
  have cleared := clearPrincipal_edited store usable
  unfold establish
  dsimp only
  generalize clearPrincipal store context = outcome at cleared
  by_cases failed : outcome.1 ≠ .ok
  · rw [if_pos failed]
    exact .inr (closed_revoked cleared failed _)
  rw [if_neg failed]
  obtain ⟨status, store', context'⟩ := outcome
  obtain ⟨rfl, revised, success⟩ := cleared
  have vacant := success (not_not.mp failed)
  dsimp only at vacant
  have written := login.writePrincipal_edited store' (revised.usable usable)
    (by rw [vacant, clearedValues, Function.update_of_ne (by decide),
      Function.update_self])
    (by rw [vacant, clearedValues, Function.update_self])
  rw [vacant] at written
  generalize login.writePrincipal store' context' = outcome at written
  have onward : Edited store' context _ outcome :=
    ⟨written.store, revised.trans written.revised, written.value⟩
  by_cases failed' : outcome.1 ≠ .ok
  · rw [if_pos failed']
    exact .inr (closed_revoked onward failed' _)
  · rw [if_neg failed', onward.store]
    exact login.rotate_spec store' usable onward.revised
      (onward.value (not_not.mp failed'))

end SignIn

/-! ## Until the session is regenerated -/

theorem generateId_drawn {random : RandomSource} {attempts : Nat} {id : Bytes}
    (generated : store.generateId random attempts = .ok id) :
    ∃ attempt < attempts, (random attempt).1 = .ok ∧
      id = sessionIdText (random attempt).2 := by
  induction attempts with
  | zero => cases generated
  | succ attempts ih =>
    rw [generateId] at generated
    split_ifs at generated with failed taken
    · obtain ⟨attempt, less, drawn⟩ := ih generated
      exact ⟨attempt, less.trans attempts.lt_succ_self, drawn⟩
    · cases generated
      exact ⟨attempts, attempts.lt_succ_self, not_not.mp failed, rfl⟩

/-- The session has an identifier which it did not have, and no session has the
old one. -/
structure Renewed (random : RandomSource) (before : SessionContext)
    (store : SessionStore) (after : SessionContext) : Prop where
  usable : Usable after
  snapshot : after.snapshot = before.snapshot
  carried : ∃ place, store.matching after = some place
  drawn : ∃ attempt < idAttempts, (random attempt).1 = .ok ∧
    after.id = sessionIdText (random attempt).2
  changed : after.id ≠ before.id
  gone : ∀ (index : Nat) (record : SessionRecord),
    store.records[index]? = some record → record.used = true →
      record.id ≠ before.id

theorem regenerate_spec (sound : store.Sound) (usable : Usable context)
    (nowMs : UInt64)
    (random : RandomSource) :
    (∃ status, status ≠ .ok ∧ store.regenerate context nowMs random =
      (status, store, context)) ∨
    ∃ store' context', store.regenerate context nowMs random =
      (.ok, store', context') ∧
        Renewed random context store' context' := by
  unfold regenerate
  rw [if_neg (by simp [usable.valid]), if_neg usable.bound]
  cases found : store.matching context with
  | none => exact .inl ⟨.enoent, by decide, rfl⟩
  | some place =>
    obtain ⟨index, record⟩ := place
    obtain ⟨-, present, used, -, id_eq⟩ := matching_spec found
    dsimp only
    cases generated : store.generateId random idAttempts with
    | error status =>
      exact .inl ⟨status, generateId_failed generated, rfl⟩
    | ok id =>
      have fresh := generateId_fresh generated
      have changed : id ≠ context.id := by
        rw [← id_eq]
        exact (idExists_false fresh present used).symm
      refine .inr ⟨_, _, rfl, ⟨?_, usable.valid, usable.distinct⟩, rfl,
        ⟨(index, record.rename id (store.config.expiry nowMs)), ?_⟩,
        generateId_drawn generated, changed, ?_⟩
      · rintro ⟨⟩
      · exact matching_of rfl (put_self present) used rfl rfl
      intro index' record' present' used' same
      rcases of_put present' with
        ⟨-, rfl⟩ | ⟨other, before⟩
      · exact changed same
      · exact other
          (sound.distinct before present used' used (same.trans id_eq.symm))

namespace SignIn

variable (login : SignIn)

/-- Either an error is returned and nothing has changed, or the session is
regenerated. -/
theorem start_spec (sound : store.Sound)
    (distinct : context.snapshot.Distinct) :
    (∃ error, error.status ≠ .ok ∧
      login.start store context = (some error, store, context)) ∨
    ∃ store' context', login.start store context = (none, store', context') ∧
        Renewed (login.environment 0).2 context store' context' := by
  unfold start
  by_cases refused : (login.check context).status ≠ .ok
  · rw [if_pos refused]
    exact .inl ⟨_, refused, rfl⟩
  rw [if_neg refused]
  have accepted := not_not.mp refused
  unfold check at accepted
  split_ifs at accepted with misused
  · cases accepted
  have post : login.request.method = .post := not_not.mp (not_or.mp misused).2
  obtain ⟨token, stored⟩ := csrfValidate_stored (by rw [post]; rfl) accepted
  rcases regenerate_spec sound (usable_of_csrfToken stored distinct)
      (login.environment 0).1 (login.environment 0).2 with
    ⟨status, failed, equal⟩ | ⟨store', context', equal, renewed⟩
  · rw [equal]
    refine .inl ⟨sessionStatus status "unable to regenerate login Session",
      sessionStatus_status failed, ?_⟩
    split
    · rename_i same
      cases same
      exact absurd rfl failed
    · rename_i same
      cases same
      rfl
  · rw [equal]
    exact .inr ⟨store', context', rfl, renewed⟩

end SignIn

/-! ## The whole call -/

/-- The snapshot holds the principal and the token, and what it held besides. -/
structure SignedIn (login : SignIn) (before after : SessionContext) :
    Prop where
  subject : after.snapshot.value principalSubjectKey =
    some login.principal.subject
  role : after.snapshot.value principalRoleKey = given login.principal.role
  display : after.snapshot.value principalDisplayKey =
    given login.principal.displayName
  token : after.snapshot.value csrfSessionKey =
    some (csrfTokenString login.drawn.2)
  rest : ∀ key, key ≠ principalSubjectKey → key ≠ principalRoleKey →
    key ≠ principalDisplayKey → key ≠ csrfSessionKey →
      after.snapshot.value key = before.snapshot.value key

theorem Established.signedIn {login : SignIn} {outcome : SignInOutcome}
    (established : Established login store context outcome) :
    SignedIn login context outcome.context := by
  have value := established.value
  unfold SignIn.principalValues SignIn.clearedValues at value
  constructor
  · rw [value, Function.update_of_ne (by decide),
      Function.update_of_ne (by decide),
      Function.update_of_ne (by decide), Function.update_self]
  · rw [value, Function.update_of_ne (by decide),
      Function.update_of_ne (by decide), Function.update_self]
  · rw [value, Function.update_of_ne (by decide), Function.update_self]
  · rw [value, Function.update_self]
  · intro key subject role display token
    rw [value]
    simp only [Function.update_of_ne, ne_eq, subject, role, display, token,
      not_false_eq_true]

/-- The session is closed: its record is empty, other records are as they were,
and nothing the request can still do changes that. -/
structure Closed (store : SessionStore) (context : SessionContext)
    (outcome : SignInOutcome) : Prop where
  unbound : outcome.context.record = none
  invalidated : outcome.context.invalidated = true
  empty : ∀ key, outcome.context.snapshot.value key = none
  unmatched : outcome.store.matching context = none
  records : ∀ (index : Nat) (record : SessionRecord),
    outcome.store.records[index]? = some record →
      store.records[index]? = some record ∨
        (record.used = false ∧ ∀ key, record.entries.value key = none)
  finished : ∀ (later : SessionStore) (nowMs : UInt64) (status : Status),
    (later.requestFinish outcome.context nowMs status).2.1 = later
  aborted : ∀ later : SessionStore,
    (later.requestAbort outcome.context).1 = later

theorem clearMatching_unmatched (store : SessionStore)
    (context : SessionContext) :
    (store.clearMatching context).matching context = none := by
  unfold clearMatching
  cases found : store.matching context with
  | none => exact found
  | some place =>
    obtain ⟨index, record⟩ := place
    obtain ⟨bound, present, -⟩ := matching_spec found
    dsimp only
    unfold matching
    rw [bound]
    dsimp only
    rw [put_self present]
    exact if_neg fun used => by cases used.1

/-- A session which is revoked is closed. -/
theorem Revoked.closed {outcome : SignInOutcome}
    (revoked : Revoked store context outcome) :
    Closed store context outcome := by
  refine ⟨revoked.unbound, revoked.invalidated, revoked.empty, ?_, ?_, ?_, ?_⟩
  · rw [revoked.store]
    exact clearMatching_unmatched store context
  · intro index record present
    rw [revoked.store] at present
    unfold clearMatching at present
    split at present
    · exact .inl present
    · rcases of_put present with ⟨-, rfl⟩ | ⟨-, before⟩
      · exact .inr ⟨rfl, value_clear _⟩
      · exact .inl before
  · intro later nowMs status
    unfold requestFinish commit
    split_ifs
    iterate 2 · rfl
    all_goals exact absurd revoked.invalidated ‹_›
  intro later
  have kept : later.discardCreated outcome.context = (later, outcome.context) :=
    if_pos (.inl revoked.uncreated)
  unfold requestAbort
  rw [kept]
  split_ifs <;> rfl

/-- What a request is bound to at its beginning is the session it presents. -/
theorem requestBegin_presented (store : SessionStore) (cookie : Option Bytes)
    (nowMs : UInt64)
    (bound : (store.requestBegin cookie nowMs).2.record ≠ none) :
    cookie = some (store.requestBegin cookie nowMs).2.id := by
  unfold requestBegin at bound ⊢
  dsimp only at bound ⊢
  split_ifs at bound ⊢
  · exact absurd rfl bound
  cases cookie with
  | none => exact absurd rfl bound
  | some id =>
    dsimp only at bound ⊢
    split_ifs at bound ⊢
    · cases found : (store.expire nowMs).find id with
      | none =>
        rw [found] at bound
        exact absurd rfl bound
      | some place =>
        have same := (find_spec found).2.2
        exact congrArg some same.symm
    · exact absurd rfl bound

/-- In every run of requests: an error before the session is regenerated leaves
everything as it was.  Once it is regenerated it has an identifier from the
random source which the session did not have, and no session has the old one;
and whatever other requests do to the store then, the session holds the
principal and a new token, or it is closed. -/
theorem sign_in_renews_or_closes {config : SessionConfig}
    {sessionCapacity : Nat}
    {calls : List (Nat × SessionCall)} {world : SessionWorld}
    (run : SessionWorld.AnyRun (.init config sessionCapacity) calls world)
    (number : Nat) (login : SignIn) (others : SessionStore → SessionStore) :
    let before := (world.requests number).context
    let started := login.start world.store before
    let outcome := login.signIn others world.store before
    (started.1 ≠ none → outcome.error.status ≠ .ok ∧
      outcome.store = world.store ∧
        outcome.context = before) ∧
    (started.1 = none →
      Renewed (login.environment 0).2 before started.2.1 started.2.2 ∧
      (∀ store cookie nowMs, (requestBegin store cookie nowMs).2.record ≠ none →
        (requestBegin store cookie nowMs).2.id = before.id →
          cookie ≠ some started.2.2.id) ∧
      (outcome.error.status = .ok →
        outcome.context.id = started.2.2.id ∧
          outcome.store = others started.2.1 ∧ login.drawn.1 = .ok ∧
          outcome.csrfToken = some (csrfTokenText login.drawn.2) ∧
          SignedIn login before outcome.context) ∧
      (outcome.error.status ≠ .ok → outcome.csrfToken = none ∧
          Closed (others started.2.1) started.2.2 outcome)) := by
  intro before started outcome
  have distinct :=
    (run.tidy (SessionWorld.init_tidy config sessionCapacity) number).snapshot
  rcases login.start_spec run.sound.store distinct with
    ⟨error, failed, equal⟩ | ⟨store, context, equal, renewed⟩
  · have outcome_eq : outcome = ⟨error, none, world.store, before⟩ := by
      change SignIn.signIn _ _ _ _ = _
      unfold SignIn.signIn
      rw [equal]
    have started_eq : started = (some error, world.store, before) := equal
    rw [outcome_eq, started_eq]
    exact ⟨fun _ => ⟨failed, rfl, rfl⟩, nofun⟩
  have outcome_eq : outcome = login.establish (others store) context := by
    change SignIn.signIn _ _ _ _ = _
    unfold SignIn.signIn
    rw [equal]
  have started_eq : started = (none, store, context) := equal
  rw [started_eq]
  refine ⟨fun impossible => absurd rfl impossible, fun _ => ⟨renewed, ?_, ?_⟩⟩
  · intro store' cookie nowMs bound same presented
    rw [requestBegin_presented store' cookie nowMs bound, same] at presented
    exact renewed.changed (Option.some.inj presented).symm
  rcases login.establish_spec (others store) renewed.usable with
    ⟨success, established⟩ | ⟨failed, revoked⟩
  · rw [← outcome_eq] at success established
    refine ⟨fun _ => ⟨?_, established.store, established.drawn,
      established.token, ?_⟩, fun failed => absurd success failed⟩
    · rw [established.revised.same]
    · obtain ⟨subject, role, display, token, rest⟩ := established.signedIn
      rw [renewed.snapshot] at rest
      exact ⟨subject, role, display, token, rest⟩
  · rw [← outcome_eq] at failed revoked
    exact ⟨fun success => absurd success failed,
      fun _ => ⟨revoked.token, revoked.closed⟩⟩

/-! ## A guest signs in -/

/-- Room for a principal and a token. -/
def loginConfig : SessionConfig where
  sessionEntryCapacity := 4
  maxSessionKeyBytes := 64
  maxSessionValueBytes := 64
  sessionIdleTimeoutMs := 1000

/-- A source which gives the same bytes again and again. -/
def repeating (byte : UInt8) : RandomSource :=
  fun _ => (.ok, Vector.replicate 16 byte)

/-- An identifier which no session has. -/
def presentedId : Bytes := sessionIdText (Vector.replicate 16 17)

/-- The token of the form. -/
def guestToken : CString := csrfTokenString (Vector.replicate 32 0)

/-- The name of the guest. -/
def guestName : CString where
  bytes := ascii "guest"
  unterminated := by decide

/-- The request presents the identifier, and gets a session for the token. -/
def guestCalls : List (Nat × SessionCall) :=
  [(0, .begin (some presentedId) 0),
    (0, .set csrfSessionKey guestToken 0 (repeating 0))]

/-- The world in which the guest signs in. -/
def guestWorld : SessionWorld :=
  ((SessionWorld.init loginConfig 1).perform 0
    (.begin (some presentedId) 0)).perform 0
    (.set csrfSessionKey guestToken 0 (repeating 0))

theorem run_guestWorld :
    SessionWorld.AnyRun (.init loginConfig 1) guestCalls guestWorld :=
  ((@SessionWorld.Run.start (fun _ => True) (.init loginConfig 1)).call trivial
    0
    (.begin (some presentedId) 0) rfl).call trivial 0
    (.set csrfSessionKey guestToken 0 (repeating 0)) rfl

/-- The form with the token; the source of identifiers repeats a byte. -/
def guestLogin (byte : UInt8) : SignIn where
  request :=
    { method := .post
      headers := []
      session := none
      bodyStreamed := false
      bodySinkUser := false }
  form := some ⟨[⟨csrfFormField, guestToken.bytes⟩], 69⟩
  principal := ⟨guestName, some guestName, none⟩
  environment := fun _ => (0, repeating byte)
  drawn := (.ok, Vector.replicate 32 1)

/-- The identifier after signing in can be the one which the client presented,
if it did not name a session. -/
theorem sign_in_takes_presented_id :
    guestCalls.head? = some (0, .begin (some presentedId) 0) ∧
    SessionWorld.AnyRun (.init loginConfig 1) guestCalls guestWorld ∧
    ((guestLogin 17).signIn id guestWorld.store
      (guestWorld.requests 0).context).error.status = .ok ∧
    ((guestLogin 17).signIn id guestWorld.store
      (guestWorld.requests 0).context).context.id = presentedId :=
  ⟨rfl, run_guestWorld, by decide +kernel, by decide +kernel⟩

theorem sign_in_renews_or_closes_guest :
    ((guestLogin 34).signIn id guestWorld.store
        (guestWorld.requests 0).context).error.status = .ok ∧
      SignedIn (guestLogin 34) (guestWorld.requests 0).context
        ((guestLogin 34).signIn id guestWorld.store
          (guestWorld.requests 0).context).context := by
  have success : ((guestLogin 34).signIn id guestWorld.store
      (guestWorld.requests 0).context).error.status = .ok := by
    decide +kernel
  have started : ((guestLogin 34).start guestWorld.store
      (guestWorld.requests 0).context).1 = none := by
    decide +kernel
  have whole := sign_in_renews_or_closes run_guestWorld 0 (guestLogin 34) id
  exact ⟨success, ((whole.2 started).2.2.1 success).2.2.2.2⟩

end Chttp.App
