import LlmopsGateway.Machine.Amortized
import LlmopsGateway.Machine.Simulation
import LlmopsGateway.Model.RateLimitKeyspace
import LlmopsGateway.Soundness.Overtaking

/-! # The buckets of many tenants in one Redis

A command reads and writes the key of its tenant and nothing else. So a run without the other tenants is a run,
and ends where the whole run does as far as the tenant can see. What a call is charged it is told, except for
what an `EXEC` did whose reply was lost.
-/

namespace LlmopsGateway.RateLimit

open Machine

/-- Another tenant's request has not arrived. -/
def Request.only (tenant : String) (request : Request) : Request :=
  match request with
  | .idle => .idle
  | .unmetered tenantId | .consuming tenantId _ _ | .stopped tenantId =>
    if tenantId = tenant then request else .idle

namespace Keyspace

variable {service : RateLimitService} {cost : ℚ} {tenant tenantId : String} {limit id : ℕ}

/-- All that a step can be. -/
inductive Move (service : RateLimitService) (cost : ℚ) (keyspace : Keyspace) : Label → Keyspace → Prop
  | tick (ms : ℕ) : Move service cost keyspace (.tick ms)
      { keyspace with
        clock := keyspace.clock + ms
        keys := fun key => (keyspace.keys key).tick (keyspace.clock + ms) }
  | exempt (id : ℕ) (tenantId : String) (limitPerMinute : Option ℤ) (phase : keyspace.requests id = .idle)
      (exempt : service.limit? limitPerMinute = none) :
      Move service cost keyspace (.arrive id tenantId limitPerMinute) (keyspace.goto id (.unmetered tenantId))
  | metered (id : ℕ) (tenantId : String) (limitPerMinute : Option ℤ) (limit : ℕ)
      (phase : keyspace.requests id = .idle) (metered : service.limit? limitPerMinute = some limit) :
      Move service cost keyspace (.arrive id tenantId limitPerMinute)
        (keyspace.goto id (.consuming tenantId limit (.watch keyspace.clock 0)))
  | command (id : ℕ) (tenantId : String) (limit : ℕ) (call moved : Call) (after : Keyspace)
      (phase : keyspace.requests id = .consuming tenantId limit call)
      (sent : keyspace.send cost id tenantId limit call = some (after, moved)) :
      Move service cost keyspace (.command id) (after.goto id (.consuming tenantId limit moved))
  | fault (id : ℕ) (failure : Failure) (applied : Bool) (tenantId : String) (limit : ℕ) (call moved : Call)
      (after : Keyspace) (phase : keyspace.requests id = .consuming tenantId limit call)
      (sent : keyspace.send cost id tenantId limit call = some (after, moved)) :
      Move service cost keyspace (.fault id failure applied)
        ((if applied then after else keyspace).goto id (failed tenantId limit failure call))

theorem move_of_step {keyspace next : Keyspace} {label : Label}
    (stepped : step service cost keyspace label = some next) : Move service cost keyspace label next := by
  cases label with
  | tick ms =>
    obtain rfl := Option.some.inj stepped
    exact .tick ms
  | arrive id tenantId limitPerMinute =>
    simp only [step] at stepped
    split at stepped
    · next phase =>
      obtain rfl := Option.some.inj stepped
      cases limited : service.limit? limitPerMinute with
      | none => exact .exempt id tenantId limitPerMinute phase limited
      | some limit => exact .metered id tenantId limitPerMinute limit phase limited
    · cases stepped
  | command id =>
    simp only [step] at stepped
    split at stepped
    · next tenantId limit call phase =>
      obtain ⟨⟨after, moved⟩, sent, rfl⟩ := Option.map_eq_some_iff.mp stepped
      exact .command id tenantId limit call moved after phase sent
    · cases stepped
  | fault id failure applied =>
    simp only [step] at stepped
    split at stepped
    · next tenantId limit call phase =>
      obtain ⟨⟨after, moved⟩, sent, rfl⟩ := Option.map_eq_some_iff.mp stepped
      exact .fault id failure applied tenantId limit call moved after phase sent
    · cases stepped

section tenants

/-- What there is of a tenant. -/
def only (tenant : String) (keyspace : Keyspace) : Keyspace where
  clock := keyspace.clock
  keys := fun key => if key = Middleware.rateLimitKey tenant then keyspace.keys key else {}
  requests := fun id => (keyspace.requests id).only tenant
  charges := keyspace.charges.filter fun charge => charge.tenantId = tenant

/-- A step of one of the tenant's requests counts, and so does the passing of time. -/
def ownLabels (tenant : String) (keyspace : Keyspace) (label : Label) : List Label :=
  match label with
  | .tick _ => [label]
  | .arrive _ tenantId _ => if tenantId = tenant then [label] else []
  | .command id | .fault id _ _ => if (keyspace.requests id).only tenant = .idle then [] else [label]

theorem only_keys_self (keyspace : Keyspace) :
    (keyspace.only tenant).keys (Middleware.rateLimitKey tenant) =
      keyspace.keys (Middleware.rateLimitKey tenant) :=
  if_pos rfl

theorem only_keys_of_ne (keyspace : Keyspace) {key : String} (foreign : key ≠ Middleware.rateLimitKey tenant) :
    (keyspace.only tenant).keys key = {} :=
  if_neg foreign

theorem rateLimitKey_injective : Function.Injective Middleware.rateLimitKey :=
  fun _ _ same => String.append_right_inj _ |>.mp same

theorem only_initial (tenant : String) : only tenant {} = {} := by
  rw [only, Keyspace.mk.injEq]
  exact ⟨rfl, funext fun key => ite_self _, rfl, rfl⟩

theorem only_tick (keyspace : Keyspace) (ms : ℕ) :
    only tenant { keyspace with
      clock := keyspace.clock + ms
      keys := fun key => (keyspace.keys key).tick (keyspace.clock + ms) } =
      { keyspace.only tenant with
        clock := keyspace.clock + ms
        keys := fun key => ((keyspace.only tenant).keys key).tick (keyspace.clock + ms) } := by
  rw [only, Keyspace.mk.injEq]
  refine ⟨rfl, funext fun key => ?_, rfl, rfl⟩
  by_cases own : key = Middleware.rateLimitKey tenant
  · subst own
    rw [if_pos rfl, only_keys_self]
  · rw [if_neg own, only_keys_of_ne _ own]
    rfl

theorem only_goto (keyspace : Keyspace) (id : ℕ) (request : Request) :
    (keyspace.goto id request).only tenant = (keyspace.only tenant).goto id (request.only tenant) := by
  rw [only, goto, Keyspace.mk.injEq]
  refine ⟨rfl, rfl, funext fun other => ?_, rfl⟩
  exact Function.apply_update (fun _ request => Request.only tenant request) keyspace.requests id request other

/-- A foreign request that stays foreign is not seen. -/
theorem only_goto_foreign {keyspace : Keyspace} {request : Request}
    (before : (keyspace.requests id).only tenant = .idle) (after : request.only tenant = .idle) :
    (keyspace.goto id request).only tenant = keyspace.only tenant := by
  have same : (keyspace.only tenant).requests id = .idle := before
  rw [only_goto, goto, after, ← same, Function.update_eq_self]

theorem only_write (keyspace : Keyspace) (id : ℕ) (after : State) :
    (keyspace.write id tenant after).only tenant = (keyspace.only tenant).write id tenant after := by
  rw [only, Keyspace.mk.injEq]
  refine ⟨rfl, funext fun key => ?_, rfl, ?_⟩
  · by_cases own : key = Middleware.rateLimitKey tenant
    · subst own
      rw [if_pos rfl, write_keys_self, write_keys_self]
    · rw [if_neg own, write_keys_of_ne _ _ _ _ own, only_keys_of_ne _ own]
  · simp only [write, only]
    split
    · exact List.filter_cons_of_pos (by simp)
    · rfl

/-- A command of another tenant is on another key. -/
theorem only_write_foreign (keyspace : Keyspace) (foreign : tenantId ≠ tenant) (id : ℕ) (after : State) :
    (keyspace.write id tenantId after).only tenant = keyspace.only tenant := by
  rw [only, only, Keyspace.mk.injEq]
  refine ⟨rfl, funext fun key => ?_, rfl, ?_⟩
  · by_cases own : key = Middleware.rateLimitKey tenant
    · rw [if_pos own, if_pos own, write_keys_of_ne]
      rintro rfl
      exact foreign (rateLimitKey_injective own)
    · rw [if_neg own, if_neg own]
  · rw [write]
    split
    · exact List.filter_cons_of_neg (by simpa using foreign)
    · rfl

/-- The tenant's commands see what there is of it. -/
theorem only_send (keyspace : Keyspace) (cost : ℚ) (id limit : ℕ) (call : Call) :
    (keyspace.only tenant).send cost id tenant limit call =
      (keyspace.send cost id tenant limit call).map fun (after, moved) => (after.only tenant, moved) := by
  have view : (keyspace.only tenant).view tenant call = keyspace.view tenant call := by
    rw [Keyspace.view, only_keys_self]
    rfl
  rw [send, view, send, Option.map_map]
  exact congrArg (Option.map · _) (funext fun after => Prod.ext (only_write keyspace id after).symm rfl)

theorem only_of_send_foreign {keyspace after : Keyspace} {call moved : Call} (foreign : tenantId ≠ tenant)
    (sent : keyspace.send cost id tenantId limit call = some (after, moved)) :
    after.only tenant = keyspace.only tenant ∧ after.requests = keyspace.requests := by
  obtain ⟨there, -, pair⟩ := Option.map_eq_some_iff.mp sent
  obtain ⟨rfl, -⟩ := Prod.mk.inj pair
  exact ⟨only_write_foreign keyspace foreign id there, rfl⟩

theorem unmetered_only : (Request.unmetered tenantId).only tenant =
    if tenantId = tenant then .unmetered tenantId else .idle :=
  rfl

theorem consuming_only (call : Call) : (Request.consuming tenantId limit call).only tenant =
    if tenantId = tenant then .consuming tenantId limit call else .idle :=
  rfl

theorem failed_only (failure : Failure) (call : Call) : (failed tenantId limit failure call).only tenant =
    if tenantId = tenant then failed tenantId limit failure call else .idle := by
  unfold failed
  split <;> rfl

theorem own_of_phase {keyspace : Keyspace} {call : Call}
    (phase : keyspace.requests id = .consuming tenant limit call) :
    (keyspace.only tenant).requests id = .consuming tenant limit call ∧
      (keyspace.requests id).only tenant ≠ .idle := by
  have same : (keyspace.requests id).only tenant = .consuming tenant limit call := by
    rw [phase, consuming_only, if_pos rfl]
  exact ⟨same, by rw [same]; exact Request.noConfusion⟩

theorem foreign_of_phase {keyspace : Keyspace} {call : Call} (foreign : tenantId ≠ tenant)
    (phase : keyspace.requests id = .consuming tenantId limit call) :
    (keyspace.requests id).only tenant = .idle := by
  rw [phase, consuming_only, if_neg foreign]

theorem only_own {after : Keyspace} {request : Request} (id : ℕ) (stays : request.only tenant = request) :
    (after.goto id request).only tenant = (after.only tenant).goto id request := by
  rw [only_goto, stays]

theorem only_foreign {keyspace after : Keyspace} {call moved : Call} {request : Request}
    (foreign : tenantId ≠ tenant) (phase : keyspace.requests id = .consuming tenantId limit call)
    (sent : keyspace.send cost id tenantId limit call = some (after, moved))
    (stays : request.only tenant = .idle) : (after.goto id request).only tenant = keyspace.only tenant := by
  obtain ⟨same, requests⟩ := only_of_send_foreign foreign sent
  rw [only_goto_foreign (by rw [requests]; exact foreign_of_phase foreign phase) stays, same]

theorem only_step (service : RateLimitService) (cost : ℚ) (tenant : String) :
    Simulates (step service cost) (step service cost) (fun _ _ => True)
      (fun keyspace own => own = keyspace.only tenant) (ownLabels tenant) := by
  rintro keyspace own label next rfl - stepped
  have one {after : Keyspace} (label : Label)
      (same : step service cost (keyspace.only tenant) label = some after) :
      run? (step service cost) (keyspace.only tenant) [label] = some after :=
    run?_cons_iff.mpr ⟨after, same, rfl⟩
  cases move_of_step stepped with
  | tick ms => exact ⟨_, one _ rfl, (only_tick keyspace ms).symm⟩
  | exempt id tenantId limitPerMinute phase exempt =>
    have idle : (keyspace.only tenant).requests id = .idle := congrArg (Request.only tenant) phase
    refine ⟨_, ?_, rfl⟩
    by_cases mine : tenantId = tenant
    · subst mine
      rw [ownLabels, if_pos rfl, only_own id (unmetered_only.trans (if_pos rfl))]
      apply one
      simp only [step, idle, exempt]
    · rw [ownLabels, if_neg mine, only_goto_foreign idle (unmetered_only.trans (if_neg mine))]
      rfl
  | metered id tenantId limitPerMinute limit phase metered =>
    have idle : (keyspace.only tenant).requests id = .idle := congrArg (Request.only tenant) phase
    refine ⟨_, ?_, rfl⟩
    by_cases mine : tenantId = tenant
    · subst mine
      rw [ownLabels, if_pos rfl, only_own id ((consuming_only ..).trans (if_pos rfl))]
      apply one
      simp only [step, idle, metered]
      rfl
    · rw [ownLabels, if_neg mine, only_goto_foreign idle ((consuming_only ..).trans (if_neg mine))]
      rfl
  | command id tenantId limit call moved after phase sent =>
    refine ⟨_, ?_, rfl⟩
    by_cases mine : tenantId = tenant
    · subst mine
      rw [ownLabels, if_neg (own_of_phase phase).2, only_own id ((consuming_only ..).trans (if_pos rfl))]
      apply one
      simp only [step, (own_of_phase phase).1, only_send, sent, Option.map_some]
    · rw [ownLabels, if_pos (foreign_of_phase mine phase),
        only_foreign mine phase sent ((consuming_only ..).trans (if_neg mine))]
      rfl
  | fault id failure applied tenantId limit call moved after phase sent =>
    refine ⟨_, ?_, rfl⟩
    by_cases mine : tenantId = tenant
    · subst mine
      rw [ownLabels, if_neg (own_of_phase phase).2, only_own id ((failed_only ..).trans (if_pos rfl))]
      apply one
      simp only [step, (own_of_phase phase).1, only_send, sent, Option.map_some]
      cases applied <;> rfl
    · have stays : (failed tenantId limit failure call).only tenant = .idle :=
        (failed_only ..).trans (if_neg mine)
      rw [ownLabels, if_pos (foreign_of_phase mine phase)]
      cases applied with
      | true => exact congrArg some (only_foreign mine phase sent stays).symm
      | false => exact congrArg some (only_goto_foreign (foreign_of_phase mine phase) stays).symm

/-- Among any calls of any tenants and any failing commands: without the other tenants, a tenant's requests,
key and charges are the same. -/
theorem tenant_run (service : RateLimitService) (cost : ℚ) (tenant : String) {labels : List Label}
    {final : Keyspace} (ran : run? (step service cost) {} labels = some final) :
    run? (step service cost) {} (answers (step service cost) (ownLabels tenant) {} labels) =
      some (final.only tenant) := by
  obtain ⟨own, alone, rfl⟩ :=
    (only_step service cost tenant).run (only_initial tenant).symm (along_true _ _) ran
  exact alone

/-- Two calls of one tenant overlap with one of another tenant. Of two commands that fail, one is an `EXEC` that
took effect before its connection was lost: its call takes a second token. -/
def mixed : List Label :=
  [.arrive 0 "acme" none, .arrive 1 "globex" (some 1), .arrive 2 "acme" (some 5), .command 0, .command 1,
    .fault 2 .connection false, .command 0, .command 1, .fault 0 .connection true, .command 1, .command 0,
    .tick 1000, .command 0, .command 0]

theorem tenant_run_mixed : ∃ final, run? (step { defaultLimitPerMinute := 60 } 1) {} mixed = some final ∧
    run? (step { defaultLimitPerMinute := 60 } 1) {}
      [.arrive 0 "acme" none, .arrive 2 "acme" (some 5), .command 0, .fault 2 .connection false, .command 0,
        .fault 0 .connection true, .command 0, .tick 1000, .command 0, .command 0] = some (final.only "acme") ∧
    final.charges.map Charge.id = [0, 1, 0] := by
  have ran : (run? (step { defaultLimitPerMinute := 60 } 1) {} mixed).map (fun final =>
      final.charges.map Charge.id) = some [0, 1, 0] := by decide +kernel
  obtain ⟨final, ran, charges⟩ := Option.map_eq_some_iff.mp ran
  have alone := tenant_run { defaultLimitPerMinute := 60 } 1 "acme" ran
  have labels : answers (step { defaultLimitPerMinute := 60 } 1) (ownLabels "acme") {} mixed =
      [.arrive 0 "acme" none, .arrive 2 "acme" (some 5), .command 0, .fault 2 .connection false, .command 0,
        .fault 0 .connection true, .command 0, .tick 1000, .command 0, .command 0] := by
    decide +kernel
  rw [labels] at alone
  exact ⟨final, ran, alone, charges⟩

end tenants

section charges

variable {keyspace next : Keyspace} {label : Label}

/-- How often a call has been charged. -/
def charged (keyspace : Keyspace) (id : ℕ) : ℕ := (keyspace.charges.map Charge.id).count id

/-- The command of the call took effect and its reply was lost. -/
def losesReply (id : ℕ) : Label → Bool
  | .fault other _ applied => other == id && applied
  | _ => false

/-- What a call may have been charged where it stands: while it tries, no more than the rounds it has lost. -/
def Chargeable (count : ℕ) : Call → Prop
  | .idle => count = 0
  | .watch _ tries | .hmget _ tries _ | .exec _ tries _ _ => count ≤ tries ∧ tries < 5
  | .admitted => 1 ≤ count ∧ count ≤ 5
  | _ => count ≤ 5

def Accounted (count : ℕ) : Request → Prop
  | .idle | .unmetered _ => count = 0
  | .consuming _ _ call => Chargeable count call
  | .stopped _ => count ≤ 5

/-- One for a call that is told it is admitted. -/
def told : Request → ℕ
  | .consuming _ _ .admitted => 1
  | _ => 0

theorem Accounted.le {count : ℕ} {request : Request} (accounted : Accounted count request) :
    told request ≤ count ∧ count ≤ 5 := by
  cases request with
  | idle | unmetered =>
    obtain rfl : count = 0 := accounted
    exact ⟨le_refl 0, Nat.zero_le 5⟩
  | stopped => exact ⟨Nat.zero_le _, accounted⟩
  | consuming tenantId limit call =>
    cases call with
    | idle =>
      obtain rfl : count = 0 := accounted
      exact ⟨le_refl 0, Nat.zero_le 5⟩
    | admitted => exact accounted
    | watch nowMs tries | hmget nowMs tries version | exec nowMs tries version tokens =>
      exact ⟨Nat.zero_le _, accounted.1.trans accounted.2.le⟩
    | unwatch | hset | pexpire | exceeded => exact ⟨Nat.zero_le _, accounted⟩

/-- One if a command was the `EXEC` that took the token. -/
def taken (moved : Call) : ℕ := if moved = .admitted then 1 else 0

theorem chargeable_of_command {version later count : ℕ} {call moved : Call}
    (command : Command version call later moved) (chargeable : Chargeable count call) :
    Chargeable (count + taken moved) moved ∧ count + taken moved ≤ 5 := by
  cases command with
  | start | watch | afford | deny | lose stale again | giveUp stale last | unwatch | hset | pexpire =>
    simp only [Chargeable, taken, reduceCtorEq, if_false] at chargeable ⊢
    omega
  | commit =>
    simp only [Chargeable, taken, if_true] at chargeable ⊢
    omega

/-- A call that goes on after a lost connection has lost a round too. -/
theorem accounted_of_failed {version later count : ℕ} {call moved : Call}
    (command : Command version call later moved) (chargeable : Chargeable count call) (tenantId : String)
    (limit : ℕ) (failure : Failure) {taking : ℕ} (atMost : taking ≤ taken moved) :
    Accounted (count + taking) (RateLimit.failed tenantId limit failure call) := by
  have bounded : count + taking ≤ 5 :=
    (Nat.add_le_add_left atMost count).trans (chargeable_of_command command chargeable).2
  unfold RateLimit.failed
  split
  · next nowMs tries seen tokens =>
    obtain ⟨below, within⟩ : count ≤ tries ∧ tries < 5 := chargeable
    have single : taking ≤ 1 := atMost.trans (by unfold taken; split <;> omega)
    unfold nextRound
    split
    · next again => exact ⟨by omega, again⟩
    · exact bounded
  · exact bounded

theorem told_failed (tenantId : String) (limit : ℕ) (failure : Failure) (call : Call) :
    told (RateLimit.failed tenantId limit failure call) = 0 := by
  unfold RateLimit.failed nextRound
  split
  · split <;> rfl
  · rfl

variable {call moved : Call} {after : Keyspace}

/-- A command of a call, and what it charges. -/
theorem send_command (phase : keyspace.requests id = .consuming tenantId limit call)
    (sent : keyspace.send cost id tenantId limit call = some (after, moved)) :
    (∃ version later, Command version call later moved) ∧ after.requests = keyspace.requests ∧
      ∀ other, after.charged other = keyspace.charged other + if other = id then taken moved else 0 := by
  obtain ⟨there, stepped, pair⟩ := Option.map_eq_some_iff.mp sent
  obtain ⟨rfl, rfl⟩ := Prod.mk.inj pair
  refine ⟨⟨_, _, (advance_command stepped).1⟩, rfl, fun other => ?_⟩
  rw [charged, charged, write, taken]
  split_ifs with admitted same
  · subst same
    rw [List.map_cons, List.count_cons_self]
  · rw [List.map_cons, List.count_cons_of_ne (Ne.symm same), Nat.add_zero]
  · rfl
  · rfl

theorem told_of_command {version later : ℕ} (command : Command version call later moved) :
    told (.consuming tenantId limit call) = 0 ∧ told (.consuming tenantId limit moved) = taken moved := by
  cases command <;> exact ⟨rfl, rfl⟩

/-- What a step charges, and how it leaves the requests. -/
theorem charged_step (accounted : ∀ id, Accounted (keyspace.charged id) (keyspace.requests id))
    (stepped : step service cost keyspace label = some next) (id : ℕ) :
    Accounted (next.charged id) (next.requests id) ∧
      next.charged id + told (keyspace.requests id) ≤
        keyspace.charged id + told (next.requests id) + if losesReply id label then 1 else 0 := by
  have before := accounted id
  -- the request that steps, and the others, which nothing is charged
  have other {after : Keyspace} {moving : ℕ} {request : Request} (requests : after.requests = keyspace.requests)
      (charges : moving ≠ id → after.charged id = keyspace.charged id)
      (here : moving = id → Accounted (after.charged id) request ∧
        after.charged id + told (keyspace.requests id) ≤
          keyspace.charged id + told request + if losesReply id label then 1 else 0) :
      Accounted ((after.goto moving request).charged id) ((after.goto moving request).requests id) ∧
        (after.goto moving request).charged id + told (keyspace.requests id) ≤ keyspace.charged id +
          told ((after.goto moving request).requests id) + if losesReply id label then 1 else 0 := by
    by_cases same : moving = id
    · subst same
      rw [goto_requests_self]
      exact here rfl
    · rw [goto_requests_of_ne _ _ (Ne.symm same), requests]
      have kept : (after.goto moving request).charged id = keyspace.charged id := charges same
      rw [kept]
      exact ⟨before, by omega⟩
  cases move_of_step stepped with
  | tick ms => exact ⟨before, Nat.le_add_right _ _⟩
  | exempt moving tenantId limitPerMinute phase =>
    refine other rfl (fun _ => rfl) ?_
    rintro rfl
    rw [phase] at before ⊢
    exact ⟨before, Nat.le_add_right _ _⟩
  | metered moving tenantId limitPerMinute limit phase =>
    refine other rfl (fun _ => rfl) ?_
    rintro rfl
    rw [phase] at before ⊢
    have nothing : keyspace.charged moving = 0 := before
    exact ⟨⟨nothing.le, by omega⟩, Nat.le_add_right _ _⟩
  | command moving tenantId limit call moved after phase sent =>
    obtain ⟨⟨version, later, command⟩, requests, charges⟩ := send_command phase sent
    refine other requests (fun different => ?_) ?_
    · rw [charges, if_neg (Ne.symm different), Nat.add_zero]
    · rintro rfl
      rw [phase] at before ⊢
      obtain ⟨untold, tells⟩ := told_of_command command
      rw [charges, if_pos rfl, untold, tells]
      exact ⟨(chargeable_of_command command before).1, Nat.le_add_right _ _⟩
  | fault moving failure applied tenantId limit call moved after phase sent =>
    obtain ⟨⟨version, later, command⟩, requests, charges⟩ := send_command phase sent
    cases applied with
    | true =>
      refine other requests (fun different => ?_) ?_
      · rw [if_pos rfl, charges, if_neg (Ne.symm different), Nat.add_zero]
      · rintro rfl
        rw [phase] at before ⊢
        rw [if_pos rfl, charges, if_pos rfl, (told_of_command command).1, told_failed]
        refine ⟨accounted_of_failed command before tenantId limit failure le_rfl, ?_⟩
        have single : taken moved ≤ 1 := by unfold taken; split <;> omega
        simpa [losesReply] using single
    | false =>
      refine other rfl (fun _ => rfl) ?_
      rintro rfl
      rw [phase] at before ⊢
      rw [if_neg Bool.false_ne_true, (told_of_command command).1, told_failed]
      exact ⟨accounted_of_failed command before tenantId limit failure (Nat.zero_le _), Nat.le_add_right _ _⟩

theorem accounted_of_run {labels : List Label} {final : Keyspace}
    (ran : run? (step service cost) {} labels = some final) (id : ℕ) :
    Accounted (final.charged id) (final.requests id) ∧
      final.charged id ≤ told (final.requests id) + labels.countP (losesReply id) := by
  have start : ∀ id, Accounted (charged {} id) (requests {} id) := fun _ => rfl
  have preserved (before : Keyspace) (label : Label) (after : Keyspace)
      (accounted : ∀ id, Accounted (before.charged id) (before.requests id))
      (stepped : step service cost before label = some after) :
      ∀ id, Accounted (after.charged id) (after.requests id) := fun id => (charged_step accounted stepped id).1
  have accounted := reachable_invariant _ preserved start ran id
  have spent := total_le_of_potential _ (fun keyspace => keyspace.charged id - told (keyspace.requests id))
    (fun _ _ => 0) (fun _ label => if losesReply id label then 1 else 0) preserved
    (fun before after label _ accounted stepped => by
      have charges := (charged_step accounted stepped id).2
      have first := (accounted id).le.1
      omega) start ran
  rw [total_indicator _ ran] at spent
  have nothing : charged {} id - told (requests {} id) = 0 := rfl
  have bounded := accounted.le.1
  exact ⟨accounted, by omega⟩

/-- Under any interleaving and any failing commands: a call that returns has been charged, unless it is exempt
or `fail_open` let it through, and one that is refused has not, but for commands that took effect and whose
reply was lost; there are at most five charges in all. -/
theorem charged_told (service : RateLimitService) (cost : ℚ) {labels : List Label} {final : Keyspace}
    (ran : run? (step service cost) {} labels = some final) (id : ℕ) :
    final.charged id ≤ 5 ∧ ∀ outcome, (final.requests id).outcome service = some outcome →
      match outcome with
      | .returned =>
        1 ≤ final.charged id ∧ final.charged id ≤ 1 + labels.countP (losesReply id) ∨
          (∃ tenantId, final.requests id = .unmetered tenantId) ∧ final.charged id = 0 ∨
          service.failOpen = true ∧ (∃ tenantId, final.requests id = .stopped tenantId) ∧
            final.charged id ≤ labels.countP (losesReply id)
      | .exceeded _ => final.charged id ≤ labels.countP (losesReply id)
      | .raised => service.failOpen = false ∧ (∃ tenantId, final.requests id = .stopped tenantId) ∧
          final.charged id ≤ labels.countP (losesReply id) := by
  obtain ⟨accounted, charges⟩ := accounted_of_run ran id
  refine ⟨accounted.le.2, fun outcome ended => ?_⟩
  cases request : final.requests id with
  | idle =>
    rw [request] at ended
    cases ended
  | unmetered tenantId =>
    rw [request] at ended accounted
    obtain rfl := Option.some.inj ended
    exact .inr (.inl ⟨⟨tenantId, rfl⟩, accounted⟩)
  | consuming tenantId limit call =>
    rw [request] at ended accounted charges
    cases call with
    | admitted =>
      obtain rfl := Option.some.inj ended
      exact .inl ⟨accounted.1, charges⟩
    | exceeded wait =>
      obtain rfl := Option.some.inj ended
      exact charges.trans_eq (Nat.zero_add _)
    | idle | watch | hmget | exec | unwatch | hset | pexpire => cases ended
  | stopped tenantId =>
    rw [request] at ended charges
    obtain rfl := Option.some.inj ended
    have lost := charges.trans_eq (Nat.zero_add _)
    cases lenient : service.failOpen with
    | true => exact .inr (.inr ⟨rfl, ⟨tenantId, rfl⟩, lost⟩)
    | false => exact ⟨rfl, ⟨tenantId, rfl⟩, lost⟩

/-- The reply to an `EXEC` is lost with its connection: the call takes a second token in its next round, and
another one overlaps with it. -/
def lostReply : List Label :=
  [.arrive 0 "acme" none, .command 0, .command 0, .arrive 1 "acme" none, .command 1, .fault 0 .connection true,
    .command 1, .command 0, .command 0, .command 0, .command 1]

theorem charged_told_lostReply : ∃ final,
    run? (step { defaultLimitPerMinute := 60 } 1) {} lostReply = some final ∧
      (final.requests 0).outcome { defaultLimitPerMinute := 60 } = some .returned ∧
      final.charged 0 = 2 ∧ final.charged 0 ≤ 5 ∧ lostReply.countP (losesReply 0) = 1 ∧
      final.charged 1 = 0 := by
  have ran : (run? (step { defaultLimitPerMinute := 60 } 1) {} lostReply).map (fun final =>
      ((final.requests 0).outcome { defaultLimitPerMinute := 60 }, final.charged 0, final.charged 1)) =
      some (some .returned, 2, 0) := by
    decide +kernel
  obtain ⟨final, ran, ends⟩ := Option.map_eq_some_iff.mp ran
  obtain ⟨returned, charges⟩ := Prod.mk.inj ends
  obtain ⟨twice, nothing⟩ := Prod.mk.inj charges
  exact ⟨final, ran, returned, twice, (charged_told { defaultLimitPerMinute := 60 } 1 ran 0).1, by decide,
    nothing⟩

end charges

end Keyspace

end LlmopsGateway.RateLimit
