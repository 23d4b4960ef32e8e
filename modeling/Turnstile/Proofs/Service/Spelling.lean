import Turnstile.Proofs.Quota.Spelling
import Turnstile.Proofs.Service.Gate
import Turnstile.Proofs.Service.Operators

/-!
# One key for all spellings

The quota of a mail address is charged, read and emptied under the key of its normal form. An
activity on that quota does the same under every spelling of the address, and calls the store about
that key only.
-/

namespace Turnstile

open Store

/-- The key that a call is about. -/
def Store.Call.key? : Call → Option String
  | .purge key _ => some key
  | .count key => some key
  | .add key _ _ => some key
  | .remove key _ => some key
  | .expire key _ => some key
  | .delete key => some key
  | .record key _ _ _ _ => some key
  | .inspect key _ => some key
  | .ping => none
  | .close => none

namespace Service

open Http Limiter

variable {σ : Type}

/-! ## The calls of an activity -/

/-- The calls that an activity makes on the store of a node. -/
def callsOf {α : Type} (action : Action (Node (Watched σ)) α) (node : Node σ) : List Call :=
  (action ⟨⟨node.store, []⟩, node.serial⟩).state.store.calls

/-- What follows an activity and leaves the node alone calls nothing. -/
theorem callsOf_bind_of_still {α β : Type} {action : Action (Node (Watched σ)) α}
    {next : α → Action (Node (Watched σ)) β}
    (still : ∀ value state, (next value state).state = state) (node : Node σ) :
    callsOf (action >>= next) node = callsOf action node := by
  rw [callsOf, Action.bind_state_of_still still, callsOf]

/-- The calls charge one key: they are about no other, and an attempt is recorded there, if a
lifetime can be told for it. -/
structure ChargesKey (limit : Limit) (identifier entry : String) (now : Int)
    (calls : List Call) : Prop where
  about : ∀ call ∈ calls, call.key? = some (limit.key identifier)
  recorded : ∀ seconds, limit.ttl = .ok seconds →
    recordCall limit identifier entry now seconds ∈ calls

variable [Backend σ]

/-- An attempt charges the key of its identifier. -/
theorem chargesKey_entered (limit : Limit) (identifier entry : String) (now : Int) (store : σ) :
    ChargesKey limit identifier entry now
      (entered limit identifier entry now (⟨store, []⟩ : Watched σ)).2.calls := by
  unfold entered
  cases lifetime : limit.ttl with
  | error failure =>
    refine ⟨fun call listed => (nomatch listed), fun seconds told => ?_⟩
    rw [lifetime] at told
    cases told
  | ok seconds =>
    have recorded (more : List Call) (about : ∀ call ∈ more,
        call.key? = some (limit.key identifier)) :
        ChargesKey limit identifier entry now
          (recordCall limit identifier entry now seconds :: more) := by
      refine ⟨List.forall_mem_cons.mpr ⟨rfl, about⟩, fun other told => ?_⟩
      obtain rfl := Except.ok.inj (lifetime.symm.trans told)
      exact List.mem_cons_self
    simp only
    split
    · exact recorded [] fun call listed => (nomatch listed)
    · split
      · exact recorded [] fun call listed => (nomatch listed)
      · exact recorded [_] (List.forall_mem_singleton.mpr rfl)

variable (policy : Policy) (scope : Scope) (identifier : String) (now : Int) (node : Node σ)

/-- A check charges the key of its quota. -/
theorem chargesKey_check :
    ChargesKey (policy.limitOf scope) identifier (entryId now node.serial) now
      (callsOf (Quota.check policy scope identifier now) node) := by
  rw [callsOf, Quota.check, (policy.find_bind scope _ _).2, check_store]
  exact chargesKey_entered ..

/-- A look asks for the count of one key. -/
theorem callsOf_status :
    callsOf (Quota.status policy scope identifier now) node =
      [.inspect ((policy.limitOf scope).key identifier) (now - (policy.limitOf scope).window)] := by
  rw [callsOf, Quota.status, (policy.find_bind scope _ _).2, status_store]
  rfl

/-- A reset deletes one key. -/
theorem callsOf_reset :
    callsOf (Quota.reset policy scope identifier) node =
      [.delete ((policy.limitOf scope).key identifier)] := by
  rw [callsOf, Quota.reset, (policy.find_bind scope _ _).2, reset_store]
  rfl

/-- Enforcing the quota of an address charges its key. -/
theorem chargesKey_enforceEmail (guard : Guard) (address : String) (clocks : Clocks) :
    ChargesKey (guard.policy.limitOf .invitationEmail) (normalizeEmail address)
      (entryId clocks.limiter node.serial) clocks.limiter
      (callsOf (guard.enforceEmail address clocks) node) := by
  rw [Guard.enforceEmail, callsOf_bind_of_still fun verdict state =>
    (guard.settle_eq .invitationEmail _ clocks verdict state).2]
  exact chargesKey_check ..

/-- Showing a window asks for the count of its key. -/
theorem callsOf_showWindow (service : Service) :
    callsOf (service.showWindow scope identifier now) node =
      [.inspect ((service.policy.limitOf scope).key (quotaIdentifier scope identifier))
        (now - (service.policy.limitOf scope).window)] := by
  have still {α : Type} (outcome : Except Failure α) (state : Node (Watched σ)) :
      (Action.ofExcept outcome state).state = state :=
    congrArg Step.state (Action.ofExcept_apply outcome state)
  have told (verdict : Verdict) (state : Node (Watched σ)) :
      ((do
        let body ← Action.ofExcept (WindowView.jsonOf verdict)
        respond 200 body [] : Action (Node (Watched σ)) Response) state).state = state :=
    (Action.bind_state_of_still (fun body => still (Response.ofJson 200 body [])) state).trans
      (still _ state)
  rw [showWindow, callsOf_bind_of_still told]
  exact callsOf_status ..

/-- Emptying a window deletes its key. -/
theorem callsOf_resetWindow (service : Service) :
    callsOf (service.resetWindow scope identifier) node =
      [.delete ((service.policy.limitOf scope).key (quotaIdentifier scope identifier))] := by
  rw [resetWindow, callsOf_bind_of_still fun _ _ => rfl]
  exact callsOf_reset ..

/-! ## Spellings -/

/-- The normal form of an address is its own normal form, and that of every other spelling of the
address. A charge of the address, by a check or by the guard, and an operator's look and reset do
the same under each spelling, and their calls on the store are about the key of the normal form
alone: a charge records an attempt there, a look counts there, and a reset deletes it. -/
theorem spellings_share_one_key (address : String) :
    normalizeEmail (normalizeEmail address) = normalizeEmail address ∧
      ∀ other, IsSpelling address other →
        normalizeEmail other = normalizeEmail address ∧
        ∀ (policy : Policy) {σ : Type} [Backend σ] (node : Node σ),
          let limit := policy.limitOf .invitationEmail
          let name := normalizeEmail address
          (∀ now, Quota.checkEmail policy other now node =
                Quota.checkEmail policy address now node ∧
              ChargesKey limit name (entryId now node.serial) now
                (callsOf (Quota.checkEmail policy other now) node)) ∧
            (∀ guard : Guard, guard.policy = policy → ∀ clocks,
              guard.enforceEmail other clocks node = guard.enforceEmail address clocks node ∧
                ChargesKey limit name (entryId clocks.limiter node.serial) clocks.limiter
                  (callsOf (guard.enforceEmail other clocks) node)) ∧
            ∀ service : Service, service.policy = policy → ∀ (request : Http.Request) (now : Int),
              (service.Asks request "GET" (Scope.name .invitationEmail) other →
                service.route now request node =
                    service.showWindow .invitationEmail address now node ∧
                  callsOf (service.route now request) node =
                    [.inspect (limit.key name) (now - limit.window)]) ∧
              (service.Asks request "DELETE" (Scope.name .invitationEmail) other →
                service.route now request node =
                    service.resetWindow .invitationEmail address node ∧
                  callsOf (service.route now request) node = [.delete (limit.key name)]) := by
  refine ⟨normalizeEmail_normalizeEmail address, fun other spelling => ?_⟩
  have same := spelling.normalizeEmail_eq
  have named : quotaIdentifier .invitationEmail other = quotaIdentifier .invitationEmail address :=
    same
  refine ⟨same, fun policy σ _ node => ⟨fun now => ⟨?_, ?_⟩, ?_, ?_⟩⟩
  · rw [Quota.checkEmail, Quota.checkEmail, same]
  · rw [Quota.checkEmail, same]
    exact chargesKey_check ..
  · rintro guard rfl clocks
    refine ⟨?_, ?_⟩
    · rw [Guard.enforceEmail, Guard.enforceEmail, Quota.checkEmail, Quota.checkEmail, same]
    · rw [← same]
      exact chargesKey_enforceEmail ..
  · rintro service rfl request now
    refine ⟨fun asks => ⟨?_, ?_⟩, fun asks => ⟨?_, ?_⟩⟩
    · rw [route_of_asks_get now node asks, showWindow, showWindow, named]
    · rw [callsOf, route_of_asks_get now _ asks, ← callsOf, callsOf_showWindow, named]
      rfl
    · rw [route_of_asks_delete now node asks, resetWindow, resetWindow, named]
    · rw [callsOf, route_of_asks_delete now _ asks, ← callsOf, callsOf_resetWindow, named]
      rfl

/-- An operator's request to empty the quota of an address, with a blank at each end and letters
in another case. -/
def emptying : Http.Request where
  method := "DELETE"
  path := operatorPath "invitation_email" " ΟΔΟΣ@eXAMPLE.org\t"
  headers := [("x-api-key", "key")]

/-- The request asks to empty the quota, with a key that is configured. -/
theorem asks_emptying :
    strict.Asks emptying "DELETE" (Scope.name .invitationEmail) " ΟΔΟΣ@eXAMPLE.org\t" where
  method := rfl
  path := rfl
  filled := by decide
  simple := by decide
  granted := by decide +kernel

/-- The two addresses are spellings of one another. -/
theorem isSpelling_emptied : IsSpelling "ΟΔΟΣ@Example.org" " ΟΔΟΣ@eXAMPLE.org\t" := by
  have space : Access.IsBlank " " := List.all_eq_true.mp (by decide)
  have tab : Access.IsBlank "\t" := List.all_eq_true.mp (by decide)
  have recased : Respells "ΟΔΟΣ@Example.org" "ΟΔΟΣ@eXAMPLE.org" := .recased (by decide)
  have padded : Respells "ΟΔΟΣ@eXAMPLE.org" " ΟΔΟΣ@eXAMPLE.org\t" := .padded space tab _
  exact .inl (.trans _ _ _ (.rel _ _ recased) (.rel _ _ padded))

/-- An address that is written in capitals is charged, and then emptied under another spelling,
under the key of its normal form. -/
theorem capitals_share_one_key :
    let node : Node Local := ⟨Limiter.vacantStore .locked (.whole 0), 1⟩
    let key := "invitation_email_rate_limit:οδος@example.org"
    let charging := callsOf (strict.guard.enforceEmail "ΟΔΟΣ@Example.org" ⟨500, 500⟩) node
    normalizeEmail "ΟΔΟΣ@Example.org" = "οδος@example.org" ∧
      charging ≠ [] ∧ (∀ call ∈ charging, call.key? = some key) ∧
      callsOf (strict.route 500 emptying) node = [.delete key] := by
  intro node key charging
  have form : normalizeEmail "ΟΔΟΣ@Example.org" = "οδος@example.org" := by decide +kernel
  have named : (strict.policy.limitOf .invitationEmail).key (normalizeEmail "ΟΔΟΣ@Example.org") =
      key := by
    rw [form]
    decide +kernel
  obtain ⟨_, spelled⟩ := spellings_share_one_key "ΟΔΟΣ@Example.org"
  obtain ⟨_, own⟩ := spelled _ (.inl (.refl _))
  obtain ⟨_, other⟩ := spelled _ isSpelling_emptied
  obtain ⟨-, charges, -⟩ := own strict.policy node
  obtain ⟨-, -, asked⟩ := other strict.policy node
  obtain ⟨-, charged⟩ := charges strict.guard rfl ⟨500, 500⟩
  obtain ⟨-, emptied⟩ := (asked strict rfl emptying 500).2 asks_emptying
  have recorded := charged.recorded _ (Limit.ttl_of_window_le (by decide))
  refine ⟨form, List.ne_nil_of_mem recorded, ?_, ?_⟩
  · rw [← named]
    exact charged.about
  · rw [← named]
    exact emptied

end Service

end Turnstile
