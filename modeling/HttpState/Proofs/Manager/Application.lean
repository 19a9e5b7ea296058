import HttpState.Manager.Application
import HttpState.Proofs.List
import HttpState.Proofs.Manager.Run

/-!
# The first manager of an application

Whether files carry cookies is decided by the first manager that an application makes, whichever way
it is made: with a configuration, to be shared or not, or because the shared manager is asked for.
Before that, the last word counts; from then on nothing changes it, and all managers of the
application agree. An attempt that fails decides nothing.

The shared manager is made at most once. From then on it is the same manager that everybody gets,
and nothing changes it but the calls of it and the removals that they request.

## Key definitions

- `Call`, `step`, `run`: what is done in an application, and what becomes of it
- `built`: the managers that are made on the way
- `beforeFirst`: what is done before the first of them is made
- `SharesForever`: a manager is shared from now on

## Key results

- `policy_step`: the policy after one call
- `run_of_not_frozen`: the policy after many, and in all managers
- `shared_run`: the shared manager after many calls
- `first_manager_decides`: all of this, from the start of an application
-/

namespace HttpState

/-- Whether files carry cookies does not change. -/
theorem Manager.fileCookies_run (m : Manager) (s : Storage) (events : List Manager.Event) :
    (m.run s events).1.fileCookies = m.fileCookies := by
  induction events generalizing m s with
  | nil => rfl
  | cons e events ih => rw [Manager.run_cons, ih, Manager.fileCookies_apply]

/-- A manager takes over whether files carry cookies, and freezes it. -/
theorem Manager.of_create_eq_ok {c : Config} {p q : FilePolicy} {s t : Storage} {now : Int}
    {m : Manager} (h : Manager.create c p s now = (.ok (m, q), t)) :
    m.fileCookies = p.accepts ∧ q = p.freeze := by
  -- The policy is taken after both jars were made.
  unfold Manager.create at h
  split at h
  · simp at h
  · split at h
    · simp at h
    · have hjars := congrArg Prod.fst h
      dsimp only at hjars
      unfold Manager.ofJars? at hjars
      split at hjars
      · exact nomatch hjars
      · obtain ⟨rfl, rfl⟩ := Prod.mk.inj (Except.ok.inj hjars)
        exact ⟨rfl, rfl⟩

namespace Application

/-- Something that happens in an application. -/
inductive Call where
  | setAllowFile (accepts : Bool)
  | install (c : Config) (now : Int)
  | newManager (c : Config) (now : Int)
  /-- The shared manager is asked for. -/
  | manager
  /-- The shared manager is asked for, and called when the clock reads `now`. -/
  | use (now : Int) (op : Manager.Operation)
  /-- A removal of the shared manager runs in the background. -/
  | removal (request : Nat) (fails : Bool)
  /-- Something else happens to storage, for instance through a manager that is not shared. -/
  | outside (change : Storage → Storage)

/-- What comes of a call. -/
def step (a : Application) : Call → Application
  | .setAllowFile b => a.setAllowFile b
  | .install c now => (a.install c now).2
  | .newManager c now => (a.newManager c now).2
  | .manager => a.manager.2
  | .use now op =>
    let (m, a) := a.manager
    let (_, m, s) := op.apply now m a.storage
    { a with shared := some m, storage := s }
  | .removal request fails => { a with shared := a.shared.map (·.runRemoval request fails) }
  | .outside change => { a with storage := change a.storage }

/-- What comes of calls, one after the other. -/
def run (a : Application) (calls : List Call) : Application := calls.foldl step a

/-- A run is its first call and the run from there. -/
theorem run_cons (a : Application) (call : Call) (calls : List Call) :
    a.run (call :: calls) = (a.step call).run calls := rfl

/-- The manager that a call makes. -/
def builds? (a : Application) : Call → Option Manager
  | .install c now => (a.install c now).1.toOption
  | .newManager c now => (a.newManager c now).1.toOption
  | .manager | .use _ _ => if a.shared.isNone then some a.manager.1 else none
  | .setAllowFile _ | .removal _ _ | .outside _ => none

/-- The managers that calls make. -/
def built (a : Application) : List Call → List Manager
  | [] => []
  | call :: calls => (a.builds? call).toList ++ (a.step call).built calls

/-- The calls before the first one that makes a manager. -/
def beforeFirst (a : Application) : List Call → List Call
  | [] => []
  | call :: calls =>
    if (a.builds? call).isSome then [] else call :: (a.step call).beforeFirst calls

namespace Call

/-- What a call says about files. -/
def allowsFile? : Call → Option Bool
  | .setAllowFile b => some b
  | _ => none

/-- Whether the shared manager is asked for. -/
def asksForShared : Call → Bool
  | .manager | .use _ _ => true
  | _ => false

end Call

/-- What calls say last about files, `b` if they say nothing. -/
def lastAllowed (b : Bool) (calls : List Call) : Bool :=
  (calls.filterMap Call.allowsFile?).getLast?.getD b

/-- A call that speaks about files is overruled by any later one. -/
theorem lastAllowed_cons (b : Bool) (call : Call) (calls : List Call) :
    lastAllowed b (call :: calls) = lastAllowed (call.allowsFile?.getD b) calls := by
  have hcons : (call :: calls).filterMap Call.allowsFile? =
      call.allowsFile?.toList ++ calls.filterMap Call.allowsFile? := by
    rw [List.filterMap_cons]
    cases call.allowsFile? <;> rfl
  rw [lastAllowed, hcons, List.getLast?_toList_append_getD]
  rfl

/-! ## Making a manager -/

/-- A manager that is made takes the policy over; if none is made, nothing but storage changes. -/
theorem newManager_cases (a : Application) (c : Config) (now : Int) :
    (∃ m s, a.newManager c now = (.ok m, { a with policy := a.policy.freeze, storage := s }) ∧
      m.fileCookies = a.policy.accepts) ∨
    ∃ e s, a.newManager c now = (.error e, { a with storage := s }) := by
  unfold newManager
  split
  · rename_i e s _
    exact .inr ⟨e, s, rfl⟩
  · rename_i m q s h
    obtain ⟨hfile, rfl⟩ := Manager.of_create_eq_ok h
    exact .inl ⟨m, s, rfl, hfile⟩

/-- There is one shared manager at most. -/
theorem install_of_shared {a : Application} {m : Manager} (h : a.shared = some m) (c : Config)
    (now : Int) : a.install c now = (.error .alreadyInitialized, a) := by
  simp only [install, h]

/-- The first shared manager is made as any other one is. -/
theorem install_of_shared_eq_none {a : Application} (h : a.shared = none) (c : Config)
    (now : Int) : (a.install c now).1 = (a.newManager c now).1 := by
  simp only [install, h]
  rcases a.newManager c now with ⟨_ | m, b⟩ <;> rfl

/-- A shared manager that is made takes the policy over, and is shared; if none is made, nothing but
    storage changes. -/
theorem install_cases (a : Application) (c : Config) (now : Int) :
    (∃ m s, a.install c now =
        (.ok m, { a with policy := a.policy.freeze, shared := some m, storage := s }) ∧
      a.shared = none ∧ m.fileCookies = a.policy.accepts) ∨
    ∃ e s, a.install c now = (.error e, { a with storage := s }) := by
  cases hshared : a.shared with
  | some m =>
    -- There is one, which is answered with an error.
    rw [install_of_shared hshared, ← hshared]
    exact .inr ⟨_, a.storage, rfl⟩
  | none =>
    -- There is none, so one is made like any other.
    simp only [install, hshared]
    rcases a.newManager_cases c now with ⟨m, s, heq, hfile⟩ | ⟨e, s, heq⟩
    · rw [heq]
      exact .inl ⟨m, s, rfl, trivial, hfile⟩
    · rw [heq]
      exact .inr ⟨e, s, by rw [hshared]⟩

/-- An attempt to make a manager that fails leaves everything but storage as it is. -/
theorem newManager_error {a : Application} {c : Config} {now : Int} {e : ManagerError}
    (h : (a.newManager c now).1 = .error e) :
    (a.newManager c now).2.policy = a.policy ∧ (a.newManager c now).2.shared = a.shared := by
  rcases a.newManager_cases c now with ⟨m, s, heq, -⟩ | ⟨e', s, heq⟩
  · simp [heq] at h
  · simp [heq]

/-- A manager that could not be installed changes neither the policy nor what is shared. -/
theorem install_error {a : Application} {c : Config} {now : Int} {e : ManagerError}
    (h : (a.install c now).1 = .error e) :
    (a.install c now).2.policy = a.policy ∧ (a.install c now).2.shared = a.shared := by
  rcases a.install_cases c now with ⟨m, s, heq, -⟩ | ⟨e', s, heq⟩
  · simp [heq] at h
  · simp [heq]

/-- A shared manager that is made is the first one. -/
theorem install_ok {a : Application} {c : Config} {now : Int} {m : Manager}
    (h : (a.install c now).1 = .ok m) :
    a.shared = none ∧ (a.install c now).2.shared = some m := by
  rcases a.install_cases c now with ⟨m', s, heq, hnone, -⟩ | ⟨e, s, heq⟩
  · obtain rfl : m' = m := by simpa [heq] using h
    exact ⟨hnone, by rw [heq]⟩
  · simp [heq] at h

/-- The shared manager is handed out as it is. -/
theorem manager_of_shared {a : Application} {m : Manager} (h : a.shared = some m) :
    a.manager = (m, a) := by
  simp only [manager, h]

/-- The shared manager is made when it is first asked for, and takes the policy over. -/
theorem manager_of_shared_eq_none {a : Application} (h : a.shared = none) :
    a.manager.1.fileCookies = a.policy.accepts ∧
      a.manager.2 = { a with policy := a.policy.freeze, shared := some a.manager.1 } := by
  constructor
  · simp only [manager, h]; rfl
  · simp only [manager, h]

/-- Whoever asks for the shared manager gets the one that is shared afterwards. -/
theorem shared_manager (a : Application) : a.manager.2.shared = some a.manager.1 := by
  cases h : a.shared with
  | some m => rw [manager_of_shared h]; exact h
  | none => rw [(manager_of_shared_eq_none h).2]

/-! ## The policy -/

/-- A call that makes a manager freezes the policy, which the manager has taken over. Any other call
    changes the policy only by saying so. -/
theorem policy_step (a : Application) (call : Call) :
    (∃ m, a.builds? call = some m ∧ m.fileCookies = a.policy.accepts ∧
      (a.step call).policy = a.policy.freeze) ∨
    a.builds? call = none ∧
      (a.step call).policy =
        call.allowsFile?.elim a.policy fun b => (a.policy.setAccepts b).2 := by
  cases call with
  | setAllowFile b => exact .inr ⟨rfl, rfl⟩
  | removal request fails => exact .inr ⟨rfl, rfl⟩
  | outside change => exact .inr ⟨rfl, rfl⟩
  | newManager c now =>
    -- A manager that is made freezes the policy; an attempt that fails leaves it alone.
    simp only [builds?, step]
    rcases a.newManager_cases c now with ⟨m, s, heq, hfile⟩ | ⟨e, s, heq⟩
    · exact .inl ⟨m, by rw [heq]; rfl, hfile, by rw [heq]⟩
    · exact .inr ⟨by rw [heq]; rfl, by rw [heq]; rfl⟩
  | install c now =>
    simp only [builds?, step]
    rcases a.install_cases c now with ⟨m, s, heq, -, hfile⟩ | ⟨e, s, heq⟩
    · exact .inl ⟨m, by rw [heq]; rfl, hfile, by rw [heq]⟩
    · exact .inr ⟨by rw [heq]; rfl, by rw [heq]; rfl⟩
  | manager | use now op =>
    -- There is a manager already, or the first one is made now.
    cases hshared : a.shared with
    | some m =>
      refine .inr ⟨by simp [builds?, hshared], ?_⟩
      simp only [step, manager_of_shared hshared]
      rfl
    | none =>
      obtain ⟨hfile, heq⟩ := manager_of_shared_eq_none hshared
      refine .inl ⟨a.manager.1, by simp [builds?, hshared], hfile, ?_⟩
      simp only [step, heq]

/-- A frozen policy stays as it is. -/
theorem policy_step_of_frozen {a : Application} (h : a.policy.frozen = true) (call : Call) :
    (a.step call).policy = a.policy := by
  rcases a.policy_step call with ⟨m, -, -, heq⟩ | ⟨-, heq⟩
  · rw [heq, FilePolicy.freeze, ← h]
  · rw [heq]
    cases call.allowsFile? with
    | none => rfl
    | some b => rw [Option.elim_some, FilePolicy.setAccepts_of_frozen h]

/-- A frozen policy remains as it is through any calls. -/
theorem policy_run_of_frozen {a : Application} (h : a.policy.frozen = true)
    (calls : List Call) : (a.run calls).policy = a.policy := by
  induction calls generalizing a with
  | nil => rfl
  | cons call calls ih =>
    have hstep := policy_step_of_frozen h call
    rw [run_cons, ih (by rw [hstep, h]), hstep]

/-- Once the policy is frozen, it is the policy of every manager. -/
theorem fileCookies_of_mem_built_of_frozen {a : Application} (h : a.policy.frozen = true)
    {calls : List Call} {m : Manager} (hm : m ∈ a.built calls) :
    m.fileCookies = a.policy.accepts := by
  induction calls generalizing a with
  | nil => exact nomatch hm
  | cons call calls ih =>
    have hstep := policy_step_of_frozen h call
    rw [built, List.mem_append, Option.mem_toList] at hm
    rcases hm with hm | hm
    · -- Made by the first call.
      rcases a.policy_step call with ⟨m', hbuilds, hfile, -⟩ | ⟨hnone, -⟩
      · cases hbuilds.symm.trans hm
        exact hfile
      · exact nomatch hnone.symm.trans hm
    · -- Made by one of the others.
      rw [ih (by rw [hstep, h]) hm, hstep]

/-- Before and after the first manager the policy is what was last said before it; the policy is
    frozen from the first manager on, and all managers have it. The induction stops at the first
    manager, from where on the policy is frozen. -/
theorem run_of_not_frozen {a : Application} (h : a.policy.frozen = false) (calls : List Call) :
    (a.run calls).policy =
        ⟨lastAllowed a.policy.accepts (a.beforeFirst calls), !(a.built calls).isEmpty⟩ ∧
      ∀ m ∈ a.built calls,
        m.fileCookies = lastAllowed a.policy.accepts (a.beforeFirst calls) := by
  induction calls generalizing a with
  | nil =>
    -- Without calls the policy is what it was, and no manager has been made.
    obtain ⟨⟨accepts, frozen⟩, shared, s⟩ := a
    cases h
    exact ⟨rfl, fun m hm => nomatch hm⟩
  | cons call calls ih =>
    rcases a.policy_step call with ⟨m, hbuilds, hfile, heq⟩ | ⟨hnone, heq⟩
    · -- The first manager is made here, and nothing that follows can change the policy.
      have hfrozen : (a.step call).policy.frozen = true := by rw [heq]; rfl
      have hbefore : a.beforeFirst (call :: calls) = [] := by simp [beforeFirst, hbuilds]
      have hbuilt : a.built (call :: calls) = m :: (a.step call).built calls := by
        simp [built, hbuilds]
      rw [hbefore, hbuilt, run_cons, policy_run_of_frozen hfrozen, heq]
      refine ⟨rfl, fun m' hm' => ?_⟩
      rcases List.mem_cons.mp hm' with rfl | hm'
      · exact hfile
      · rw [fileCookies_of_mem_built_of_frozen hfrozen hm', heq]
        rfl
    · -- There is no manager yet, and the call may have spoken about files.
      have hstep : (a.step call).policy = ⟨call.allowsFile?.getD a.policy.accepts, false⟩ := by
        rw [heq]
        cases call.allowsFile? with
        | none => rw [← h]; rfl
        | some b => simp [FilePolicy.setAccepts, h]
      have hbefore : a.beforeFirst (call :: calls) = call :: (a.step call).beforeFirst calls := by
        simp [beforeFirst, hnone]
      have hbuilt : a.built (call :: calls) = (a.step call).built calls := by
        simp [built, hnone]
      rw [hbefore, hbuilt, lastAllowed_cons, run_cons]
      have hrest := ih (a := a.step call) (by rw [hstep])
      rwa [hstep] at hrest

/-! ## The shared manager -/

/-- What happens to the shared manager when something happens in the application. -/
def sharedEvent (a : Application) : Call → Manager.Event
  | .use now op => .call now op
  | .removal request fails => .removal request fails
  | call => .outside fun _ => (a.step call).storage

/-- What happens to the shared manager meanwhile. -/
def sharedEvents (a : Application) : List Call → List Manager.Event
  | [] => []
  | call :: calls => a.sharedEvent call :: (a.step call).sharedEvents calls

/-- The shared manager stays the same, and nothing but its calls and removals changes it. -/
theorem shared_step {a : Application} {m : Manager} (h : a.shared = some m) (call : Call) :
    (a.step call).shared = some ((a.sharedEvent call).apply m a.storage).2.1 ∧
      (a.step call).storage = ((a.sharedEvent call).apply m a.storage).2.2 := by
  cases call with
  | setAllowFile b => exact ⟨h, rfl⟩
  | outside change => exact ⟨h, rfl⟩
  | removal request fails => exact ⟨by simp only [step, h]; rfl, rfl⟩
  | manager => exact ⟨by simp only [step, manager_of_shared h, h]; rfl, rfl⟩
  | install c now => exact ⟨by simp only [step, install_of_shared h, h]; rfl, rfl⟩
  | newManager c now =>
    -- A manager that is made beside the shared one is another manager.
    refine ⟨?_, rfl⟩
    simp only [step]
    rcases a.newManager_cases c now with ⟨m', s, heq, -⟩ | ⟨e, s, heq⟩
    · rw [heq]; exact h
    · rw [heq]; exact h
  | use now op =>
    simp only [step, manager_of_shared h]
    exact ⟨rfl, rfl⟩

/-- What becomes of the shared manager is what becomes of a manager. -/
theorem shared_run {a : Application} {m : Manager} (h : a.shared = some m) (calls : List Call) :
    (a.run calls).shared = some (m.run a.storage (a.sharedEvents calls)).1 := by
  induction calls generalizing a m with
  | nil => exact h
  | cons call calls ih =>
    obtain ⟨hshared, hstorage⟩ := shared_step h call
    rw [run_cons, ih hshared, sharedEvents, Manager.run_cons, hstorage]

/-- A manager is shared from now on: whoever asks for the shared manager gets this one, as the calls
    of it have left it, and no other one can be made. -/
structure SharesForever (a : Application) (m : Manager) : Prop where
  manager_run : ∀ calls,
    (a.run calls).manager.1 = (m.run a.storage (a.sharedEvents calls)).1
  install_run : ∀ calls c now,
    ((a.run calls).install c now).1 = .error .alreadyInitialized

/-- Once a manager is shared, every later call is about this one, and no other can be installed. -/
theorem sharesForever_of_shared {a : Application} {m : Manager} (h : a.shared = some m) :
    a.SharesForever m where
  manager_run calls := by rw [manager_of_shared (shared_run h calls)]
  install_run calls c now := by rw [install_of_shared (shared_run h calls)]

/-- Once a manager is shared, one is shared forever. -/
theorem isSome_shared_run {a : Application} (h : a.shared.isSome = true) (calls : List Call) :
    (a.run calls).shared.isSome = true := by
  obtain ⟨m, hm⟩ := Option.isSome_iff_exists.mp h
  rw [shared_run hm]
  rfl

/-- As long as no manager is shared, nobody has asked for it. -/
theorem asksForShared_of_shared_run_eq_none {a : Application} {calls : List Call}
    (h : (a.run calls).shared = none) : ∀ call ∈ calls, call.asksForShared = false := by
  intro call hcall
  -- A call that asks for it leaves it made, and it is not lost afterwards.
  by_contra hasks
  obtain ⟨before, after, rfl⟩ := List.append_of_mem hcall
  have hrun : a.run (before ++ call :: after) = ((a.run before).step call).run after :=
    List.foldl_append
  have hsome : (((a.run before).step call).run after).shared.isSome = true := by
    refine isSome_shared_run ?_ after
    cases call with
    | manager => rw [step, shared_manager]; rfl
    | use now op => rfl
    | _ => exact absurd rfl hasks
  rw [← hrun, h] at hsome
  exact nomatch hsome

/-- From the start of an application, and whatever is done in it:

    * Files carry cookies if this was said last before the first manager was made, and carry none if
      nothing was said. All managers agree on it, for as long as they are used. Nothing changes it
      once there is a manager.
    * An attempt to make a manager that fails leaves policy and shared manager as they are.
    * The shared manager is made only if there is none, and then like any other. From then on
      everybody gets that manager, and no other one can be made to be shared. -/
theorem first_manager_decides (s : Storage) (calls : List Call) :
    let a := (start s).run calls
    let accepts := lastAllowed false ((start s).beforeFirst calls)
    (a.policy.accepts = accepts ∧
      (∀ m ∈ (start s).built calls, ∀ t events, (m.run t events).1.fileCookies = accepts) ∧
      ((start s).built calls ≠ [] → ∀ later, (a.run later).policy.accepts = accepts)) ∧
    (∀ c now e, (a.newManager c now).1 = .error e →
      (a.newManager c now).2.policy = a.policy ∧ (a.newManager c now).2.shared = a.shared) ∧
    (∀ c now e, (a.install c now).1 = .error e →
      (a.install c now).2.policy = a.policy ∧ (a.install c now).2.shared = a.shared) ∧
    (a.shared = none → ∀ c now, (a.install c now).1 = (a.newManager c now).1) ∧
    (∀ c now m, (a.install c now).1 = .ok m →
      a.shared = none ∧ (∀ call ∈ calls, call.asksForShared = false) ∧
        (a.install c now).2.SharesForever m) ∧
    a.manager.2.SharesForever a.manager.1 := by
  intro a accepts
  obtain ⟨hpolicy, hbuilt⟩ := run_of_not_frozen (a := start s) rfl calls
  refine ⟨⟨congrArg FilePolicy.accepts hpolicy, fun m hm t events => ?_, fun hne later => ?_⟩,
    fun c now e => newManager_error, fun c now e => install_error,
    fun hnone c now => install_of_shared_eq_none hnone c now, fun c now m hm => ?_,
    sharesForever_of_shared (shared_manager a)⟩
  · -- A manager keeps the policy it was made with.
    rw [Manager.fileCookies_run]
    exact hbuilt m hm
  · -- Once a manager has been made, the policy is frozen.
    have hfrozen : a.policy.frozen = true := by
      rw [show a.policy = _ from hpolicy]
      simpa using hne
    rw [policy_run_of_frozen hfrozen]
    exact congrArg FilePolicy.accepts hpolicy
  · -- A manager that could be installed is the first one that is shared.
    obtain ⟨hnone, hshared⟩ := install_ok hm
    exact ⟨hnone, asksForShared_of_shared_run_eq_none hnone, sharesForever_of_shared hshared⟩

end Application

end HttpState
