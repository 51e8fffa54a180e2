import QuicRelay.Router.Dynamic

/-!
Concurrent `OnConnect` calls on one router.

A call touches shared state once: the atomic `counter.Add(1)` of its route. Its
checks before that read only its own context and the immutable key and backend
lists, and after it, the index and `ctx.Set` read only its own values. So a call
is two steps here: `begin` (the checks, the lookup and the `Add`) and `finish`
(the index and `ctx.Set`), and a run is any interleaving of the steps of any
number of calls. `increments` is a ghost log of the `Add`s in the order they
happened: the order in which the calls took their indices.

The model is generic in the checks made before the lookup (`gate`): the
`sni-router` admits `admitSNI`, the `simple-router` admits every context under
its one route. `Run.solo_dynamic` and `Run.solo_static` show that a call run
alone is the handler's `OnConnect`.

* `Run.reachable_inv` — in every reachable state, each route's counter is the
  number of increments of that route so far, modulo `2^64`, and every call that
  returned was dropped with its context unchanged or set `ctx["backend"]` to
  the backend at `(k mod 2^64) mod len`, where `k` is the number of increments
  of its route before its own.
* `Run.reachable_progress` — in every reachable state, a pending call run alone
  returns, and a call past its `Add` returns at its `finish`: no call is stuck.
-/

namespace QuicRelay

/-- One `OnConnect` call in a concurrent run. -/
inductive Call where
  | pending (ctx : Context)
  | added (ctx : Context) (backends : List String) (idx : UInt64)
  | returned (res : Result) (ctx : Context)
  | panicked (p : Panic)

/-- A concurrent run of `OnConnect` calls on one route table. -/
structure Run where
  routes : List (String × Route)
  calls : Nat → Call
  increments : List (Nat × String)

/-- The state before any call took a step. -/
def Run.init (routes : List (String × Route)) (ctxs : Nat → Context) : Run :=
  ⟨routes, fun i => .pending (ctxs i), []⟩

/-- Call `i` makes its checks, looks up its route and does `idx := counter.Add(1) - 1`. -/
def Run.begin (gate : Context → Except Result String) (st : Run) (i : Nat) : Option Run :=
  match st.calls i with
  | .pending ctx =>
    match gate ctx with
    | .error res => some { st with calls := Function.update st.calls i (.returned res ctx) }
    | .ok sni =>
      match lookupRoute st.routes sni with
      | none => some { st with
          calls := Function.update st.calls i (.returned (Result.drop ("unknown SNI: " ++ sni)) ctx) }
      | some r =>
        let c := r.counter + 1
        some ⟨setRoute st.routes sni { r with counter := c },
          Function.update st.calls i (.added ctx r.backends (c - 1)),
          st.increments ++ [(i, sni)]⟩
  | _ => none

/-- Call `i` reads `backends[idx % uint64(len(backends))]` and sets `ctx["backend"]`. -/
def Run.finish (st : Run) (i : Nat) : Option Run :=
  match st.calls i with
  | .added ctx backends idx =>
    match select backends idx with
    | .ok b => some { st with
        calls := Function.update st.calls i (.returned Result.cont (ctx.set "backend" (.string b))) }
    | .error p => some { st with calls := Function.update st.calls i (.panicked p) }
  | _ => none

/-- Call `i` runs alone: its `begin`, then its `finish` if it was admitted. -/
def Run.solo (gate : Context → Except Result String) (st : Run) (i : Nat) : Option Run :=
  (st.begin gate i).bind fun st₁ =>
    match st₁.calls i with
    | .added _ _ _ => st₁.finish i
    | _ => some st₁

/-- The states a run can reach from `Run.init routes ctxs`. -/
inductive Run.Reachable (gate : Context → Except Result String)
    (routes : List (String × Route)) (ctxs : Nat → Context) : Run → Prop
  | init : Run.Reachable gate routes ctxs (Run.init routes ctxs)
  | begin {st st' : Run} {i : Nat} : Run.Reachable gate routes ctxs st →
      st.begin gate i = some st' → Run.Reachable gate routes ctxs st'
  | finish {st st' : Run} {i : Nat} : Run.Reachable gate routes ctxs st →
      st.finish i = some st' → Run.Reachable gate routes ctxs st'

/-- The `simple-router` as a one-route table. -/
def StaticHandler.table (h : StaticHandler) : List (String × Route) :=
  [("", ⟨h.backends, h.counter⟩)]

/-- The `simple-router` makes no check before its pick. -/
def admitAll (_ : Context) : Except Result String := .ok ""

/-! ### Route-table bookkeeping -/

/-- How many increments of route `sni` a log holds. -/
def countFor (sni : String) (log : List (Nat × String)) : Nat :=
  log.countP fun e => decide (e.2 = sni)

theorem countFor_append (sni s : String) (log : List (Nat × String)) (i : Nat) :
    countFor sni (log ++ [(i, s)]) = countFor sni log + if s = sni then 1 else 0 := by
  by_cases same : s = sni <;> simp [countFor, List.countP_append, same]

/-- The key and backends of every route: what no call changes. -/
def shape (routes : List (String × Route)) : List (String × List String) :=
  routes.map fun e => (e.1, e.2.backends)

theorem lookupRoute_shape : ∀ {routes routes₀ : List (String × Route)},
    shape routes = shape routes₀ → ∀ sni,
      (lookupRoute routes sni).map Route.backends = (lookupRoute routes₀ sni).map Route.backends
  | [], [], _, _ => rfl
  | (k, r) :: rest, (k₀, r₀) :: rest₀, same, sni => by
    simp only [shape, List.map_cons, List.cons.injEq, Prod.mk.injEq] at same
    obtain ⟨⟨rfl, backends⟩, rest_same⟩ := same
    by_cases here : k = sni
    · simp [lookupRoute, here, backends]
    · simp only [lookupRoute, here, if_false]
      exact lookupRoute_shape rest_same sni

theorem shape_setRoute : ∀ {routes : List (String × Route)} {sni : String} {r : Route}
    (c : UInt64), lookupRoute routes sni = some r →
      shape (setRoute routes sni { r with counter := c }) = shape routes
  | (k, r₀) :: rest, sni, r, c, found => by
    unfold lookupRoute at found
    by_cases here : k = sni
    · simp only [here, if_true, Option.some.injEq] at found
      subst found
      simp [setRoute, here, shape]
    · simp only [here, if_false] at found
      have tail := shape_setRoute c found
      simp only [shape] at tail
      simp [setRoute, here, shape, tail]

/-! ### The invariant -/

section Invariant

variable (gate : Context → Except Result String) (routes₀ : List (String × Route))
  (ctxs : Nat → Context)

/-- What call `i` has done, given the increments so far: pending with its own
context and no increment; past its `Add` at the increment count of its route
before its own; dropped with its context unchanged and no increment; or served
the backend its position among its route's increments selects. -/
def CallInv (i : Nat) (log : List (Nat × String)) : Call → Prop
  | .pending ctx => ctx = ctxs i ∧ ∀ e ∈ log, e.1 ≠ i
  | .added ctx backends idx => ctx = ctxs i ∧ ∃ sni r, gate (ctxs i) = .ok sni ∧
      lookupRoute routes₀ sni = some r ∧ backends = r.backends ∧
      ∃ pre post, log = pre ++ (i, sni) :: post ∧ (∀ e ∈ pre ++ post, e.1 ≠ i) ∧
        idx.toNat = countFor sni pre % 2 ^ 64
  | .returned res ctx =>
      (ctx = ctxs i ∧ (∀ e ∈ log, e.1 ≠ i) ∧ (gate (ctxs i) = .error res ∨
        ∃ sni, gate (ctxs i) = .ok sni ∧ lookupRoute routes₀ sni = none ∧
          res = Result.drop ("unknown SNI: " ++ sni))) ∨
      (∃ sni r, gate (ctxs i) = .ok sni ∧ lookupRoute routes₀ sni = some r ∧
        res = Result.cont ∧ ∃ pre post, log = pre ++ (i, sni) :: post ∧
          (∀ e ∈ pre ++ post, e.1 ≠ i) ∧
          ctx = (ctxs i).set "backend"
            (.string (r.backends.getD (countFor sni pre % 2 ^ 64 % r.backends.length) "")))
  | .panicked _ => False

/-- The invariant of a run: the table keeps its keys and backends, every
counter is its route's increment count modulo `2^64`, and every call is where
`CallInv` says. -/
structure Run.Inv (st : Run) : Prop where
  shape : shape st.routes = shape routes₀
  counters : ∀ sni r, lookupRoute st.routes sni = some r →
    r.counter.toNat = countFor sni st.increments % 2 ^ 64
  calls : ∀ i, CallInv gate routes₀ ctxs i st.increments (st.calls i)

/-- No call of a run is stuck: a pending call run alone returns, and a call
past its `Add` returns at its `finish`, each to a state the run can reach. -/
def Run.Progress (st : Run) : Prop :=
  (∀ i ctx, st.calls i = .pending ctx → ∃ st', st.solo gate i = some st' ∧
      st'.Reachable gate routes₀ ctxs ∧ ∃ res ctx', st'.calls i = .returned res ctx') ∧
  (∀ i ctx backends idx, st.calls i = .added ctx backends idx → ∃ st', st.finish i = some st' ∧
      st'.Reachable gate routes₀ ctxs ∧ ∃ res ctx', st'.calls i = .returned res ctx')

variable {gate routes₀ ctxs}

/-- Another call's increment leaves a call where it was. -/
theorem CallInv.extend {i j : Nat} {log : List (Nat × String)} {sni : String} {c : Call}
    (other : j ≠ i) (inv : CallInv gate routes₀ ctxs i log c) :
    CallInv gate routes₀ ctxs i (log ++ [(j, sni)]) c := by
  have fresh : ∀ e ∈ [(j, sni)], e.1 ≠ i := by simp [other]
  cases c with
  | pending ctx =>
    exact ⟨inv.1, fun e mem => (List.mem_append.mp mem).elim (inv.2 e) (fresh e)⟩
  | added ctx backends idx =>
    obtain ⟨rfl, s, r, adm, found, rfl, pre, post, rfl, alone, idx_eq⟩ := inv
    refine ⟨rfl, s, r, adm, found, rfl, pre, post ++ [(j, sni)], by simp, ?_, idx_eq⟩
    intro e mem
    simp only [List.mem_append] at mem
    rcases mem with mem | mem | mem
    · exact alone e (List.mem_append_left _ mem)
    · exact alone e (List.mem_append_right _ mem)
    · exact fresh e mem
  | returned res ctx =>
    rcases inv with ⟨rfl, none_yet, why⟩ | ⟨s, r, adm, found, rfl, pre, post, rfl, alone, rfl⟩
    · exact .inl ⟨rfl, fun e mem => (List.mem_append.mp mem).elim (none_yet e) (fresh e), why⟩
    · refine .inr ⟨s, r, adm, found, rfl, pre, post ++ [(j, sni)], by simp, ?_, rfl⟩
      intro e mem
      simp only [List.mem_append] at mem
      rcases mem with mem | mem | mem
      · exact alone e (List.mem_append_left _ mem)
      · exact alone e (List.mem_append_right _ mem)
      · exact fresh e mem
  | panicked p => exact inv

theorem Run.init_inv (fresh : ∀ e ∈ routes₀, e.2.counter = 0) :
    (Run.init routes₀ ctxs).Inv gate routes₀ ctxs := by
  refine ⟨rfl, fun sni r found => ?_, fun i => ⟨rfl, fun e mem => absurd mem (List.not_mem_nil _)⟩⟩
  have zero : r.counter = 0 := fresh _ (lookupRoute_mem found)
  simp [zero, countFor, Run.init]

/-- Moving call `i` where `CallInv` allows keeps every call where `CallInv`
says, the others being there already. -/
theorem CallInv.update {calls : Nat → Call} {log : List (Nat × String)} {i : Nat} {c : Call}
    (here : CallInv gate routes₀ ctxs i log c)
    (others : ∀ k, k ≠ i → CallInv gate routes₀ ctxs k log (calls k)) :
    ∀ k, CallInv gate routes₀ ctxs k log (Function.update calls i c k) := by
  intro k
  by_cases same : k = i
  · subst same
    simpa only [Function.update_same] using here
  · simpa only [Function.update_noteq same] using others k same

/-- A `begin` keeps the invariant: a dropped call returns with its context, an
admitted one takes the next value of its route's counter. -/
theorem Run.begin_inv {st st' : Run} {i : Nat} (inv : st.Inv gate routes₀ ctxs)
    (step : st.begin gate i = some st') : st'.Inv gate routes₀ ctxs := by
  unfold Run.begin at step
  split at step
  case h_2 => cases step
  rename_i ctx pending
  have call := inv.calls i
  rw [pending] at call
  obtain ⟨rfl, none_yet⟩ := call
  split at step
  · -- the checks drop the call
    cases step
    exact ⟨inv.shape, inv.counters,
      CallInv.update (Or.inl ⟨rfl, none_yet, .inl ‹_›⟩) fun k _ => inv.calls k⟩
  · rename_i sni adm
    split at step
    · -- no route for its key
      rename_i missing
      cases step
      have missing₀ : lookupRoute routes₀ sni = none :=
        Option.map_eq_none'.mp ((lookupRoute_shape inv.shape sni).symm.trans (by rw [missing]; rfl))
      exact ⟨inv.shape, inv.counters,
        CallInv.update (Or.inl ⟨rfl, none_yet, .inr ⟨sni, adm, missing₀, rfl⟩⟩)
          fun k _ => inv.calls k⟩
    · -- the `Add` of its route's counter
      rename_i r found
      cases step
      obtain ⟨r₀, found₀, backends⟩ := Option.map_eq_some'.mp
        ((lookupRoute_shape inv.shape sni).symm.trans (by rw [found]; rfl))
      refine ⟨(shape_setRoute _ found).trans inv.shape, fun s r' found' => ?_,
        CallInv.update ⟨rfl, sni, r₀, adm, found₀, backends.symm, st.increments, [], rfl,
          by simpa using none_yet, ?_⟩ fun k other => (inv.calls k).extend (Ne.symm other)⟩
      · rw [countFor_append]
        by_cases same : s = sni
        · subst same
          rw [lookupRoute_setRoute_self found, Option.some.injEq] at found'
          subst found'
          have := inv.counters s r found
          simp only [if_true, toNat_add_wrap, toNat_one]
          omega
        · rw [lookupRoute_setRoute_other same] at found'
          simp only [Ne.symm same, if_false, Nat.add_zero]
          exact inv.counters s r' found'
      · rw [add_one_sub_one]
        exact inv.counters sni r found

/-- A `finish` keeps the invariant: the call reads its backend at the index it
took, which is in range since every route of the table has a backend. -/
theorem Run.finish_inv (wf : RoutesWellFormed routes₀) {st st' : Run} {i : Nat}
    (inv : st.Inv gate routes₀ ctxs) (step : st.finish i = some st') :
    st'.Inv gate routes₀ ctxs := by
  unfold Run.finish at step
  split at step
  case h_2 => cases step
  rename_i ctx backends idx added
  have call := inv.calls i
  rw [added] at call
  obtain ⟨rfl, sni, r, adm, found, rfl, pre, post, log, alone, idx_eq⟩ := call
  have ne := wf _ (lookupRoute_mem found)
  rw [select_of_ne_nil ne] at step
  cases step
  exact ⟨inv.shape, inv.counters, CallInv.update
    (Or.inr ⟨sni, r, adm, found, rfl, pre, post, log, alone, by rw [idx_eq]⟩)
    fun k _ => inv.calls k⟩

theorem Run.reachable_inv (wf : RoutesWellFormed routes₀)
    (fresh : ∀ e ∈ routes₀, e.2.counter = 0) {st : Run}
    (reach : st.Reachable gate routes₀ ctxs) : st.Inv gate routes₀ ctxs := by
  induction reach with
  | init => exact Run.init_inv fresh
  | begin _ step ih => exact Run.begin_inv ih step
  | finish _ step ih => exact Run.finish_inv wf ih step

/-- Only an admitted call increments, and only its own route. -/
theorem Run.Inv.increment_admitted {st : Run} (inv : st.Inv gate routes₀ ctxs) {j : Nat}
    {s : String} (mem : (j, s) ∈ st.increments) : gate (ctxs j) = .ok s := by
  have call := inv.calls j
  have placed : ∀ {sni : String} {pre post : List (Nat × String)},
      st.increments = pre ++ (j, sni) :: post → (∀ e ∈ pre ++ post, e.1 ≠ j) → s = sni := by
    intro sni pre post log alone
    rw [log] at mem
    rcases List.mem_append.mp mem with mem | mem
    · exact absurd rfl (alone _ (List.mem_append_left _ mem))
    · rcases List.mem_cons.mp mem with same | mem
      · exact (Prod.mk.inj same).2
      · exact absurd rfl (alone _ (List.mem_append_right _ mem))
  cases c : st.calls j <;> rw [c] at call
  case pending ctx => exact absurd rfl (call.2 _ mem)
  case added ctx backends idx =>
    obtain ⟨-, sni, r, adm, -, -, pre, post, log, alone, -⟩ := call
    rwa [placed log alone]
  case returned res ctx =>
    rcases call with ⟨-, none_yet, -⟩ | ⟨sni, r, adm, -, -, pre, post, log, alone, -⟩
    · exact absurd rfl (none_yet _ mem)
    · rwa [placed log alone]
  case panicked p => exact call.elim

/-! ### Progress -/

/-- A pending call's `begin` always takes its step: the call returns at once or
is past its `Add` with its own context. -/
theorem Run.begin_pending {st : Run} {i : Nat} {ctx : Context}
    (pending : st.calls i = .pending ctx) :
    ∃ st', st.begin gate i = some st' ∧ ((∃ res ctx', st'.calls i = .returned res ctx') ∨
      ∃ backends idx, st'.calls i = .added ctx backends idx) := by
  simp only [Run.begin, pending]
  split
  · -- the checks drop the call
    exact ⟨_, rfl, .inl ⟨_, _, Function.update_same ..⟩⟩
  · split
    · -- no route for its key
      exact ⟨_, rfl, .inl ⟨_, _, Function.update_same ..⟩⟩
    · -- the `Add` of its route's counter
      exact ⟨_, rfl, .inr ⟨_, _, Function.update_same ..⟩⟩

/-- An added call's `finish` returns: its backends are a route's of the table,
which has a backend, so its index selects one. -/
theorem Run.finish_added (wf : RoutesWellFormed routes₀) {st : Run}
    (inv : st.Inv gate routes₀ ctxs) {i : Nat} {ctx : Context} {backends : List String}
    {idx : UInt64} (added : st.calls i = .added ctx backends idx) :
    ∃ st', st.finish i = some st' ∧ ∃ res ctx', st'.calls i = .returned res ctx' := by
  have call := inv.calls i
  rw [added] at call
  obtain ⟨-, sni, r, -, found, rfl, -⟩ := call
  simp only [Run.finish, added, select_of_ne_nil (wf _ (lookupRoute_mem found))]
  exact ⟨_, rfl, _, _, Function.update_same ..⟩

theorem Run.reachable_progress (wf : RoutesWellFormed routes₀)
    (fresh : ∀ e ∈ routes₀, e.2.counter = 0) {st : Run}
    (reach : st.Reachable gate routes₀ ctxs) : st.Progress gate routes₀ ctxs := by
  have inv := Run.reachable_inv wf fresh reach
  refine ⟨fun i ctx pending => ?_, fun i ctx backends idx added => ?_⟩
  · -- a pending call: its `begin`, then its `finish` if it was admitted
    obtain ⟨st₁, began, after⟩ := @Run.begin_pending gate _ _ _ pending
    rcases after with ⟨res, ctx', returned⟩ | ⟨backends, idx, added⟩
    · exact ⟨st₁, by simp [Run.solo, began, returned], reach.begin began, res, ctx', returned⟩
    · obtain ⟨st₂, finished, returned⟩ := Run.finish_added wf (Run.begin_inv inv began) added
      exact ⟨st₂, by simp [Run.solo, began, added, finished],
        (reach.begin began).finish finished, returned⟩
  · -- a call past its `Add`
    obtain ⟨st', finished, returned⟩ := Run.finish_added wf inv added
    exact ⟨st', finished, reach.finish finished, returned⟩

end Invariant

/-! ### A call run alone is `OnConnect` -/

/-- With no other call in between, `begin` and `finish` compute the
`sni-router`'s `OnConnect` on the current table. -/
theorem Run.solo_dynamic {st : Run} {i : Nat} {ctx : Context}
    (pending : st.calls i = .pending ctx) (wf : RoutesWellFormed st.routes) :
    ∃ res ctx' h', (⟨st.routes⟩ : DynamicHandler).onConnect ctx = .ok (res, ctx', h') ∧
      (st.solo admitSNI i).map (fun st' => (st'.calls i, st'.routes)) =
        some (.returned res ctx', h'.routes) := by
  rw [DynamicHandler.onConnect_eq_admit]
  cases adm : admitSNI ctx with
  | error res => exact ⟨_, _, _, rfl, by simp [Run.solo, Run.begin, pending, adm]⟩
  | ok sni =>
    cases found : lookupRoute st.routes sni with
    | none =>
      simp only [found]
      exact ⟨_, _, _, rfl, by simp [Run.solo, Run.begin, pending, adm, found]⟩
    | some r =>
      have ne := wf _ (lookupRoute_mem found)
      simp only [found, Route.next_of_ne_nil ne]
      exact ⟨_, _, _, rfl, by
        simp [Run.solo, Run.begin, Run.finish, pending, adm, found, select_of_ne_nil ne]⟩

/-- With no other call in between, `begin` and `finish` compute the
`simple-router`'s `OnConnect`. -/
theorem Run.solo_static {st : Run} {i : Nat} {ctx : Context} {h : StaticHandler}
    (pending : st.calls i = .pending ctx) (table : st.routes = h.table) (ne : h.backends ≠ []) :
    ∃ res ctx' h', h.onConnect ctx = .ok (res, ctx', h') ∧
      (st.solo admitAll i).map (fun st' => (st'.calls i, st'.routes)) =
        some (.returned res ctx', h'.table) := by
  rw [StaticHandler.onConnect_of_ne_nil ne]
  exact ⟨_, _, _, rfl, by
    simp [Run.solo, Run.begin, Run.finish, pending, table, admitAll, StaticHandler.table,
      lookupRoute, setRoute, select_of_ne_nil ne]⟩

/-! ### The `k`-th call -/

/-- A returned `sni-router` call, read off the invariant: it returned `Continue`
exactly when its SNI has a route; otherwise it left its context alone and
incremented nothing; when served, it set the backend its position among its
route's increments selects. -/
theorem Run.Inv.dynamic_returned {routes₀ : List (String × Route)} {ctxs : Nat → Context}
    {st : Run} (inv : st.Inv admitSNI routes₀ ctxs) {i : Nat} {res : Result} {ctx' : Context}
    (returned : st.calls i = .returned res ctx') :
    (res.action = .Continue ↔ ∃ hello, (ctxs i).hello = some hello ∧ hello.sni ≠ "" ∧
        (lookupRoute routes₀ hello.sni).isSome) ∧
      (res.action ≠ .Continue → ctx' = ctxs i ∧ ∀ e ∈ st.increments, e.1 ≠ i) ∧
      ∀ hello r, (ctxs i).hello = some hello → hello.sni ≠ "" →
        lookupRoute routes₀ hello.sni = some r →
        ∃ pre post, st.increments = pre ++ (i, hello.sni) :: post ∧
          (∀ e ∈ pre ++ post, e.1 ≠ i) ∧
          ctx' = (ctxs i).set "backend" (.string (r.backends.getD
            (countFor hello.sni pre % 2 ^ 64 % r.backends.length) "")) := by
  have call := inv.calls i
  rw [returned] at call
  have not_dropped : ∀ hello, (ctxs i).hello = some hello → hello.sni ≠ "" →
      (lookupRoute routes₀ hello.sni).isSome →
      ¬ (admitSNI (ctxs i) = .error res ∨ ∃ sni, admitSNI (ctxs i) = .ok sni ∧
        lookupRoute routes₀ sni = none ∧ res = Result.drop ("unknown SNI: " ++ sni)) := by
    intro hello hh sni_ne known
    have adm : admitSNI (ctxs i) = .ok hello.sni := admitSNI_eq_ok.mpr ⟨hello, hh, sni_ne, rfl⟩
    rintro (bad | ⟨sni, adm', missing, -⟩)
    · rw [adm] at bad; cases bad
    · rw [adm] at adm'; cases adm'; simp [missing] at known
  rcases call with ⟨same, none_yet, why⟩ | ⟨sni, r, adm, found, rfl, pre, post, log, alone, set⟩
  · have drop : res.action = .Drop := by
      rcases why with bad | ⟨sni, -, -, rfl⟩
      · exact admitSNI_error bad
      · rfl
    refine ⟨⟨fun cont => (by rw [drop] at cont; cases cont), fun ⟨hello, hh, ne, known⟩ =>
      absurd why (not_dropped hello hh ne known)⟩, fun _ => ⟨same, none_yet⟩,
      fun hello r hh ne found => absurd why (not_dropped hello hh ne (by simp [found]))⟩
  · obtain ⟨hello, hh, ne, rfl⟩ := admitSNI_eq_ok.mp adm
    refine ⟨⟨fun _ => ⟨hello, hh, ne, by simp [found]⟩, fun _ => rfl⟩,
      fun cont => absurd rfl cont, fun hello' r' hh' _ found' => ?_⟩
    rw [hh, Option.some.injEq] at hh'
    subst hh'
    rw [found, Option.some.injEq] at found'
    subst found'
    exact ⟨pre, post, log, alone, set⟩

/-- A returned `simple-router` call, read off the invariant: it returned
`Continue` and set the backend its position among all increments selects. -/
theorem Run.Inv.static_returned {h : StaticHandler} {ctxs : Nat → Context} {st : Run}
    (inv : st.Inv admitAll h.table ctxs) {i : Nat} {res : Result} {ctx' : Context}
    (returned : st.calls i = .returned res ctx') :
    res = Result.cont ∧ ∃ pre post, st.increments = pre ++ (i, "") :: post ∧
      (∀ e ∈ pre ++ post, e.1 ≠ i) ∧
      ctx' = (ctxs i).set "backend" (.string (h.backends.getD
        (pre.length % 2 ^ 64 % h.backends.length) "")) := by
  have call := inv.calls i
  rw [returned] at call
  rcases call with ⟨-, -, bad | ⟨sni, adm, missing, -⟩⟩ |
    ⟨sni, r, adm, found, rfl, pre, post, log, alone, set⟩
  · cases bad
  · cases adm
    cases missing
  · cases adm
    simp only [StaticHandler.table, lookupRoute, if_true, Option.some.injEq] at found
    subst found
    have all_static : countFor "" pre = pre.length := by
      apply List.countP_eq_length.mpr
      intro e mem
      have := inv.increment_admitted (j := e.1) (s := e.2)
        (by rw [log]; exact List.mem_append_left _ mem)
      simp only [admitAll, Except.ok.injEq] at this
      simp [← this]
    exact ⟨rfl, pre, post, log, alone, by rw [set, all_static]⟩

/-- Concurrent `OnConnect` calls on a router built from an accepted
configuration, in any interleaving of their steps. For the `sni-router`: a call
returns `Continue` exactly when its ClientHello has a non-empty SNI with a
route; a call that does not leaves its context as it was and increments no
counter; the call whose increment is preceded by `k` increments of its route `s`
sets `ctx["backend"]` to `backends_s[(k mod 2^64) mod N_s]`; no call panics;
increments of `s` come only from calls for `s`; and each counter is the number
of its route's increments, modulo `2^64`. For the `simple-router`, the call
preceded by `k` increments sets `backends[(k mod 2^64) mod N]`. For both, every
call that has not returned returns when it is scheduled (`Run.Progress`). -/
theorem concurrent_onConnect_kth :
    (∀ (unmarshal : Bytes → Except String DynamicConfig) (raw : Bytes) (h : DynamicHandler),
      newDynamicHandler unmarshal raw = .ok h →
      ∀ (ctxs : Nat → Context) (st : Run), st.Reachable admitSNI h.routes ctxs →
        (∀ i res ctx', st.calls i = .returned res ctx' →
          (res.action = .Continue ↔ ∃ hello, (ctxs i).hello = some hello ∧ hello.sni ≠ "" ∧
              (lookupRoute h.routes hello.sni).isSome) ∧
          (res.action ≠ .Continue → ctx' = ctxs i ∧ ∀ e ∈ st.increments, e.1 ≠ i) ∧
          ∀ hello r, (ctxs i).hello = some hello → hello.sni ≠ "" →
            lookupRoute h.routes hello.sni = some r →
            ∃ pre post, st.increments = pre ++ (i, hello.sni) :: post ∧
              (∀ e ∈ pre ++ post, e.1 ≠ i) ∧
              ctx' = (ctxs i).set "backend" (.string (r.backends.getD
                (countFor hello.sni pre % 2 ^ 64 % r.backends.length) ""))) ∧
        (∀ i p, st.calls i ≠ .panicked p) ∧
        (∀ j s, (j, s) ∈ st.increments → ∃ hello, (ctxs j).hello = some hello ∧ hello.sni = s) ∧
        (∀ s r, lookupRoute st.routes s = some r →
          r.counter.toNat = countFor s st.increments % 2 ^ 64) ∧
        st.Progress admitSNI h.routes ctxs) ∧
    (∀ (unmarshal : Bytes → Except String StaticConfig) (getenv : String → String)
        (raw : Bytes) (h : StaticHandler), newStaticHandler unmarshal getenv raw = .ok h →
      ∀ (ctxs : Nat → Context) (st : Run), st.Reachable admitAll h.table ctxs →
        (∀ i res ctx', st.calls i = .returned res ctx' →
          res = Result.cont ∧ ∃ pre post, st.increments = pre ++ (i, "") :: post ∧
            (∀ e ∈ pre ++ post, e.1 ≠ i) ∧
            ctx' = (ctxs i).set "backend" (.string (h.backends.getD
              (pre.length % 2 ^ 64 % h.backends.length) ""))) ∧
        st.Progress admitAll h.table ctxs) := by
  refine ⟨fun unmarshal raw h accepted ctxs st reach => ?_,
    fun unmarshal getenv raw h accepted ctxs st reach => ?_⟩
  · have routes := newDynamicHandler_routes accepted
    have wf : RoutesWellFormed h.routes := fun e mem => (routes e mem).1
    have fresh : ∀ e ∈ h.routes, e.2.counter = 0 := fun e mem => (routes e mem).2
    have inv := Run.reachable_inv wf fresh reach
    refine ⟨fun i res ctx' returned => inv.dynamic_returned returned, fun i p panicked => ?_,
      fun j s mem => ?_, inv.counters, Run.reachable_progress wf fresh reach⟩
    · have call := inv.calls i
      rw [panicked] at call
      exact call
    · obtain ⟨hello, hh, _, rfl⟩ := admitSNI_eq_ok.mp (inv.increment_admitted mem)
      exact ⟨hello, hh, rfl⟩
  · obtain ⟨ne, zero⟩ := newStaticHandler_ne_nil accepted
    have wf : RoutesWellFormed h.table := by simpa [RoutesWellFormed, StaticHandler.table] using ne
    have fresh : ∀ e ∈ h.table, e.2.counter = 0 := by simp [StaticHandler.table, zero]
    exact ⟨fun i res ctx' returned => (Run.reachable_inv wf fresh reach).static_returned returned,
      Run.reachable_progress wf fresh reach⟩

end QuicRelay
