import QuicRelay.Router.Static

/-!
`sni-router`: `NewDynamicHandler` and `DynamicHandler.OnConnect`.

`routes` decodes into `map[string]any`; its values are `JsonValue`s, the Go
values `encoding/json` produces for `any`, and the map is a `GoMap`, listed in
one iteration order. `json.Unmarshal` is a parameter.

* `newDynamicHandler_wellFormed` — every route an accepted configuration builds
  has a backend.
* `newDynamicHandler_outcome` — for every decoded configuration and iteration
  order, the constructor fails exactly when the routes are empty or some value
  is not a string or a non-empty array of strings; otherwise its table lists
  each key with the value's strings and a zero counter.
* `newDynamicHandler_error_names` — every refusal names its cause, a bad route
  by its SNI.
* `DynamicHandler.onConnect_wellFormed` — on such a table `OnConnect` never
  panics, whatever the counters, and the table stays well formed.
* `accepted_handlers_never_panic` — both routers together: an accepted
  configuration never leads `OnConnect` to a division by zero or a bad index.
-/

namespace QuicRelay

/-- The Go value `encoding/json` decodes into `any`. -/
inductive JsonValue where
  | null
  | bool (b : Bool)
  | number (n : Int)
  | string (s : String)
  | array (xs : List JsonValue)
  | object (fields : List (String × JsonValue))
deriving Repr

/-- A Go map with string keys, listed in one iteration order; its keys are
distinct. -/
structure GoMap (α : Type) where
  entries : List (String × α)
  nodup : (entries.map Prod.fst).Nodup

/-- The anonymous config struct of `NewDynamicHandler`; a nil map is empty. -/
structure DynamicConfig where
  routes : GoMap JsonValue

/-- The `switch v := val.(type)` of one route: a string is one backend, an array
must hold only strings. -/
def routeBackends (sni : String) : JsonValue → Except String (List String)
  | .string v => .ok [v]
  | .array v => v.mapM fun b =>
      match b with
      | .string s => .ok s
      | _ => .error ("invalid backend for SNI " ++ sni ++ ": expected string")
  | _ => .error ("invalid backend for SNI " ++ sni ++ ": expected string or array")

/-- The `for sni, val := range cfg.Routes` loop, in the map's iteration order;
the first bad entry ends it with its error. -/
def buildRoutes : List (String × JsonValue) → Except String (List (String × Route))
  | [] => .ok []
  | (sni, val) :: rest => do
    let backends ← routeBackends sni val
    if backends.length = 0 then .error ("empty backends for SNI " ++ sni)
    else do
      let routes ← buildRoutes rest
      return (sni, ⟨backends, 0⟩) :: routes

/-- `DynamicHandler`: the route table, one entry per SNI. -/
structure DynamicHandler where
  routes : List (String × Route)
deriving DecidableEq, Repr

/-- The config filled by `json.Unmarshal` when `raw` is non-empty. -/
def decodeDynamicConfig (unmarshal : Bytes → Except String DynamicConfig) (raw : Bytes) :
    Except String DynamicConfig :=
  if raw.length > 0 then
    match unmarshal raw with
    | .ok cfg => .ok cfg
    | .error e => .error ("invalid dynamic config: " ++ e)
  else .ok ⟨⟨[], List.nodup_nil⟩⟩

/-- `NewDynamicHandler`. -/
def newDynamicHandler (unmarshal : Bytes → Except String DynamicConfig) (raw : Bytes) :
    Except String DynamicHandler := do
  let cfg ← decodeDynamicConfig unmarshal raw
  if cfg.routes.entries.length = 0 then .error "dynamic handler requires 'routes' config"
  else do
    let routes ← buildRoutes cfg.routes.entries
    return ⟨routes⟩

/-- `h.routes[sni]`. -/
def lookupRoute : List (String × Route) → String → Option Route
  | [], _ => none
  | (k, r) :: rest, sni => if k = sni then some r else lookupRoute rest sni

/-- The table after the route of `sni` advanced its counter in place. -/
def setRoute : List (String × Route) → String → Route → List (String × Route)
  | [], _, _ => []
  | (k, r) :: rest, sni, r' => if k = sni then (k, r') :: rest else (k, r) :: setRoute rest sni r'

/-- The checks `OnConnect` makes before the route lookup: a ClientHello with a
non-empty SNI. -/
def admitSNI (ctx : Context) : Except Result String :=
  match ctx.hello with
  | none => .error (Result.drop "no ClientHello")
  | some hello => if hello.sni = "" then .error (Result.drop "no SNI") else .ok hello.sni

/-- `DynamicHandler.OnConnect`. -/
def DynamicHandler.onConnect (h : DynamicHandler) (ctx : Context) :
    Except Panic (Result × Context × DynamicHandler) :=
  match ctx.hello with
  | none => .ok (Result.drop "no ClientHello", ctx, h)
  | some hello =>
    if hello.sni = "" then .ok (Result.drop "no SNI", ctx, h)
    else match lookupRoute h.routes hello.sni with
      | none => .ok (Result.drop ("unknown SNI: " ++ hello.sni), ctx, h)
      | some r => do
        let (b, r') ← r.next
        return (Result.cont, ctx.set "backend" (.string b), ⟨setRoute h.routes hello.sni r'⟩)

/-! ### The route table -/

/-- Every route of the table has a backend. -/
def RoutesWellFormed (routes : List (String × Route)) : Prop :=
  ∀ e ∈ routes, e.2.backends ≠ []

theorem lookupRoute_mem : ∀ {routes : List (String × Route)} {sni : String} {r : Route},
    lookupRoute routes sni = some r → (sni, r) ∈ routes
  | (k, r) :: rest, sni, r', found => by
    unfold lookupRoute at found
    split at found
    · cases found; subst k; exact List.mem_cons_self _ _
    · exact List.mem_cons_of_mem _ (lookupRoute_mem found)

theorem lookupRoute_setRoute_self : ∀ {routes : List (String × Route)} {sni : String}
    {r r' : Route}, lookupRoute routes sni = some r →
      lookupRoute (setRoute routes sni r') sni = some r'
  | (k, r) :: rest, sni, r₀, r', found => by
    unfold lookupRoute at found
    by_cases same : k = sni
    · simp [setRoute, lookupRoute, same]
    · simp only [same, if_false] at found
      simp [setRoute, lookupRoute, same, lookupRoute_setRoute_self found]

theorem lookupRoute_setRoute_other : ∀ {routes : List (String × Route)} {sni s : String}
    {r' : Route}, s ≠ sni → lookupRoute (setRoute routes sni r') s = lookupRoute routes s
  | [], _, _, _, _ => rfl
  | (k, r) :: rest, sni, s, r', other => by
    by_cases same : k = sni
    · subst same
      simp [setRoute, lookupRoute, Ne.symm other]
    · by_cases here : k = s
      · subst here
        simp [setRoute, lookupRoute, other]
      · simp [setRoute, lookupRoute, same, here, lookupRoute_setRoute_other other]

theorem setRoute_wellFormed : ∀ {routes : List (String × Route)} {sni : String} {r' : Route},
    RoutesWellFormed routes → r'.backends ≠ [] → RoutesWellFormed (setRoute routes sni r')
  | [], _, _, _, _ => fun _ mem => absurd mem (List.not_mem_nil _)
  | (k, r) :: rest, sni, r', wf, ne => by
    have tail : RoutesWellFormed rest := fun e mem => wf e (List.mem_cons_of_mem _ mem)
    unfold setRoute
    split
    · intro e mem
      rcases List.mem_cons.mp mem with rfl | mem
      · exact ne
      · exact tail e mem
    · intro e mem
      rcases List.mem_cons.mp mem with rfl | mem
      · exact wf _ (List.mem_cons_self _ _)
      · exact setRoute_wellFormed tail ne e mem

/-! ### Construction -/

/-- Every route the loop builds has a backend and a zero counter. -/
theorem buildRoutes_routes : ∀ {entries : List (String × JsonValue)}
    {routes : List (String × Route)}, buildRoutes entries = .ok routes →
      ∀ e ∈ routes, e.2.backends ≠ [] ∧ e.2.counter = 0
  | [], routes, built => by
    cases built
    exact fun e mem => absurd mem (List.not_mem_nil _)
  | (sni, val) :: rest, routes, built => by
    rw [buildRoutes] at built
    obtain ⟨backends, -, built⟩ := bind_eq_ok.mp built
    split at built
    · cases built
    · obtain ⟨routes', restBuilt, done⟩ := bind_eq_ok.mp built
      cases done
      intro e mem
      rcases List.mem_cons.mp mem with rfl | mem
      · exact ⟨List.ne_nil_of_length_pos (Nat.pos_of_ne_zero ‹_›), rfl⟩
      · exact buildRoutes_routes restBuilt e mem

theorem newDynamicHandler_routes {unmarshal : Bytes → Except String DynamicConfig}
    {raw : Bytes} {h : DynamicHandler} (accepted : newDynamicHandler unmarshal raw = .ok h) :
    ∀ e ∈ h.routes, e.2.backends ≠ [] ∧ e.2.counter = 0 := by
  obtain ⟨cfg, -, built⟩ := bind_eq_ok.mp accepted
  split at built
  · cases built
  · obtain ⟨routes, routesBuilt, done⟩ := bind_eq_ok.mp built
    cases done
    exact buildRoutes_routes routesBuilt

theorem newDynamicHandler_wellFormed {unmarshal : Bytes → Except String DynamicConfig}
    {raw : Bytes} {h : DynamicHandler} (accepted : newDynamicHandler unmarshal raw = .ok h) :
    RoutesWellFormed h.routes :=
  fun e mem => (newDynamicHandler_routes accepted e mem).1

/-! ### What the constructor accepts -/

/-- From the spec's words: the strings of an array of route values, in array
order, when every element is a string. -/
def specStrings : List JsonValue → Option (List String)
  | [] => some []
  | .string s :: rest => (specStrings rest).map (s :: ·)
  | _ :: _ => none

/-- From the spec's words: the backends a route value stands for. A string is a
one-element list, a non-empty array of strings is its strings in array order,
and any other value stands for none. -/
def specBackends : JsonValue → Option (List String)
  | .string s => some [s]
  | .array (x :: xs) => specStrings (x :: xs)
  | _ => none

/-- The `case []any` loop of one route accepts exactly an array of strings. -/
theorem routeBackends_array (sni : String) : ∀ (xs : List JsonValue) (bs : List String),
    routeBackends sni (.array xs) = .ok bs ↔ specStrings xs = some bs
  | [], bs => by
    rw [show routeBackends sni (.array []) = .ok [] from rfl]
    simp [specStrings, eq_comm]
  | x :: xs, bs => by
    have ih := routeBackends_array sni xs
    cases rest : routeBackends sni (.array xs) with
    | error e =>
      have none : specStrings xs = none := by
        cases h : specStrings xs with
        | none => rfl
        | some ys => rw [(ih ys).mpr h] at rest; cases rest
      simp only [routeBackends, List.mapM_cons] at rest ⊢
      rw [rest]
      cases x <;> simp [specStrings, none, bind, Except.bind]
    | ok ys =>
      have some : specStrings xs = some ys := (ih ys).mp rest
      simp only [routeBackends, List.mapM_cons] at rest ⊢
      rw [rest]
      cases x <;> simp [specStrings, some, bind, Except.bind, pure, Except.pure, eq_comm]

theorem specStrings_length : ∀ {xs : List JsonValue} {bs : List String},
    specStrings xs = some bs → bs.length = xs.length
  | [], bs, strings => by cases strings; rfl
  | .string s :: xs, bs, strings => by
    cases rest : specStrings xs with
    | none => simp [specStrings, rest] at strings
    | some ys =>
      simp only [specStrings, rest, Option.map_some', Option.some.injEq] at strings
      subst strings
      simp [specStrings_length rest]
  | .null :: _, _, strings | .bool _ :: _, _, strings | .number _ :: _, _, strings
  | .array _ :: _, _, strings | .object _ :: _, _, strings => by cases strings

/-- The `switch` of one route and the emptiness check after it accept exactly
the values the spec reads as backends. -/
theorem routeBackends_eq_ok (sni : String) {v : JsonValue} {bs : List String} :
    routeBackends sni v = .ok bs ∧ bs ≠ [] ↔ specBackends v = some bs := by
  cases v
  case string s =>
    simp only [routeBackends, specBackends, Except.ok.injEq, Option.some.injEq]
    exact ⟨fun ok => ok.1, fun named => ⟨named, named ▸ List.cons_ne_nil _ _⟩⟩
  case array xs =>
    cases xs with
    | nil =>
      rw [show routeBackends sni (.array []) = .ok [] from rfl]
      simp [specBackends]
    | cons x xs =>
      rw [routeBackends_array, specBackends]
      refine ⟨And.left, fun strings => ⟨strings, fun empty => ?_⟩⟩
      have := specStrings_length strings
      simp [empty] at this
  all_goals simp [routeBackends, specBackends]

theorem exists_map_eq_error {ε α β : Type} {f : α → β} {x : Except ε α} :
    (∃ e, x.map f = .error e) ↔ ∃ e, x = .error e := by
  cases x <;> simp [Except.map]

theorem buildRoutes_cons_ok {sni : String} {v : JsonValue} {bs : List String}
    (rest : List (String × JsonValue)) (good : specBackends v = some bs) :
    buildRoutes ((sni, v) :: rest) = (buildRoutes rest).map ((sni, ⟨bs, 0⟩) :: ·) := by
  obtain ⟨checked, ne⟩ := (routeBackends_eq_ok sni).mpr good
  have nonempty : bs.length ≠ 0 := fun zero => ne (List.length_eq_zero.mp zero)
  simp only [buildRoutes, checked, bind, Except.bind, nonempty, if_false]
  cases buildRoutes rest <;> rfl

theorem buildRoutes_cons_error {sni : String} {v : JsonValue} (rest : List (String × JsonValue))
    (bad : specBackends v = none) : ∃ e, buildRoutes ((sni, v) :: rest) = .error e := by
  cases checked : routeBackends sni v with
  | error e => exact ⟨e, by simp [buildRoutes, checked, bind, Except.bind]⟩
  | ok bs =>
    have empty : bs = [] := by
      by_contra ne
      rw [(routeBackends_eq_ok sni).mp ⟨checked, ne⟩] at bad
      cases bad
    subst empty
    exact ⟨"empty backends for SNI " ++ sni, by simp [buildRoutes, checked, bind, Except.bind]⟩

/-- The loop fails exactly when some entry is not a backend list: which entry it
fails at depends on the iteration order, that it fails does not. -/
theorem buildRoutes_error_iff : ∀ entries : List (String × JsonValue),
    (∃ e, buildRoutes entries = .error e) ↔ ∃ x ∈ entries, specBackends x.2 = none
  | [] => by simp [buildRoutes]
  | (sni, v) :: rest => by
    cases good : specBackends v with
    | none => exact iff_of_true (buildRoutes_cons_error rest good) ⟨_, List.mem_cons_self _ _, good⟩
    | some bs =>
      rw [buildRoutes_cons_ok rest good, exists_map_eq_error, buildRoutes_error_iff rest]
      simp [good]

/-- A loop that succeeds lists each entry's key with the value's backends and a
zero counter, in iteration order. -/
theorem buildRoutes_eq_ok : ∀ {entries : List (String × JsonValue)} {routes : List (String × Route)},
    buildRoutes entries = .ok routes →
      List.Forall₂ (fun x r => r.1 = x.1 ∧ specBackends x.2 = some r.2.backends ∧ r.2.counter = 0)
        entries routes
  | [], routes, built => by cases built; exact .nil
  | (sni, v) :: rest, routes, built => by
    cases good : specBackends v with
    | none =>
      obtain ⟨e, bad⟩ := buildRoutes_cons_error rest good
      rw [bad] at built
      cases built
    | some bs =>
      rw [buildRoutes_cons_ok rest good] at built
      cases restBuilt : buildRoutes rest with
      | error e => rw [restBuilt] at built; cases built
      | ok routes' =>
        rw [restBuilt] at built
        cases built
        exact .cons ⟨rfl, good, rfl⟩ (buildRoutes_eq_ok restBuilt)

/-- `NewDynamicHandler` past the decoding: the emptiness check, then the loop. -/
theorem newDynamicHandler_of_decoded {unmarshal : Bytes → Except String DynamicConfig} {raw : Bytes}
    {cfg : DynamicConfig} (decoded : decodeDynamicConfig unmarshal raw = .ok cfg) :
    newDynamicHandler unmarshal raw =
      if cfg.routes.entries.length = 0 then .error "dynamic handler requires 'routes' config"
      else (buildRoutes cfg.routes.entries).map DynamicHandler.mk := by
  simp only [newDynamicHandler, decoded, bind, Except.bind]
  split
  · rfl
  · cases buildRoutes cfg.routes.entries <;> rfl

theorem newDynamicHandler_error_iff {unmarshal : Bytes → Except String DynamicConfig} {raw : Bytes}
    {cfg : DynamicConfig} (decoded : decodeDynamicConfig unmarshal raw = .ok cfg) :
    (∃ e, newDynamicHandler unmarshal raw = .error e) ↔
      cfg.routes.entries = [] ∨ ∃ x ∈ cfg.routes.entries, specBackends x.2 = none := by
  rw [newDynamicHandler_of_decoded decoded]
  by_cases empty : cfg.routes.entries = []
  · simp [empty]
  · simp only [List.length_eq_zero, empty, if_false, exists_map_eq_error, buildRoutes_error_iff,
      false_or]

/-- For every decoded configuration, listed in any iteration order: the
constructor fails exactly when the routes are empty or some value is not a
string or a non-empty array of strings, so whether it fails does not depend on
the order; when it succeeds, its table lists exactly the routes' keys, each with
the value's strings and a zero counter. -/
theorem newDynamicHandler_outcome {unmarshal : Bytes → Except String DynamicConfig} {raw : Bytes}
    {cfg : DynamicConfig} (decoded : decodeDynamicConfig unmarshal raw = .ok cfg) :
    ((∃ e, newDynamicHandler unmarshal raw = .error e) ↔
        cfg.routes.entries = [] ∨ ∃ x ∈ cfg.routes.entries, specBackends x.2 = none) ∧
      (∀ (unmarshal' : Bytes → Except String DynamicConfig) (raw' : Bytes) (cfg' : DynamicConfig),
        decodeDynamicConfig unmarshal' raw' = .ok cfg' →
        cfg'.routes.entries.Perm cfg.routes.entries →
        ((∃ e, newDynamicHandler unmarshal' raw' = .error e) ↔
          ∃ e, newDynamicHandler unmarshal raw = .error e)) ∧
      ∀ h, newDynamicHandler unmarshal raw = .ok h →
        List.Forall₂ (fun x r => r.1 = x.1 ∧ specBackends x.2 = some r.2.backends ∧ r.2.counter = 0)
          cfg.routes.entries h.routes := by
  refine ⟨newDynamicHandler_error_iff decoded, fun unmarshal' raw' cfg' decoded' reordered => ?_,
    fun h accepted => ?_⟩
  · rw [newDynamicHandler_error_iff decoded', newDynamicHandler_error_iff decoded]
    refine or_congr ?_ (exists_congr fun x => and_congr_left' reordered.mem_iff)
    rw [← List.length_eq_zero, reordered.length_eq, List.length_eq_zero]
  · rw [newDynamicHandler_of_decoded decoded] at accepted
    split at accepted
    · cases accepted
    · cases built : buildRoutes cfg.routes.entries with
      | error e => rw [built] at accepted; cases accepted
      | ok routes =>
        rw [built] at accepted
        cases accepted
        exact buildRoutes_eq_ok built

/-- Two of the README's routes, one a string and one an array. -/
def readmeRoutes : DynamicConfig :=
  ⟨⟨[("play.example.com", .string "10.0.0.1:5520"),
    ("lobby.example.com", .array [.string "10.0.0.2:5521", .string "10.0.0.3:5521"])], by decide⟩⟩

/-- The README's routes decode and build a two-route table. -/
theorem newDynamicHandler_outcome_readme :
    decodeDynamicConfig (fun _ => .ok readmeRoutes) [0x7B] = .ok readmeRoutes ∧
      ((∃ e, newDynamicHandler (fun _ => .ok readmeRoutes) [0x7B] = .error e) ↔
          readmeRoutes.routes.entries = [] ∨
            ∃ x ∈ readmeRoutes.routes.entries, specBackends x.2 = none) ∧
      (∀ (unmarshal' : Bytes → Except String DynamicConfig) (raw' : Bytes) (cfg' : DynamicConfig),
        decodeDynamicConfig unmarshal' raw' = .ok cfg' →
        cfg'.routes.entries.Perm readmeRoutes.routes.entries →
        ((∃ e, newDynamicHandler unmarshal' raw' = .error e) ↔
          ∃ e, newDynamicHandler (fun _ => .ok readmeRoutes) [0x7B] = .error e)) ∧
      ∀ h, newDynamicHandler (fun _ => .ok readmeRoutes) [0x7B] = .ok h →
        List.Forall₂ (fun x r => r.1 = x.1 ∧ specBackends x.2 = some r.2.backends ∧ r.2.counter = 0)
          readmeRoutes.routes.entries h.routes :=
  have decoded : decodeDynamicConfig (fun _ => .ok readmeRoutes) [0x7B] = .ok readmeRoutes := rfl
  ⟨decoded, newDynamicHandler_outcome decoded⟩

/-! ### What the constructor's errors say -/

/-- A `mapM` over `Except` fails with the error of one of its elements. -/
theorem mapM_error {ε α β : Type} {f : α → Except ε β} :
    ∀ {xs : List α} {e : ε}, xs.mapM f = .error e → ∃ x ∈ xs, f x = .error e
  | [], e, refused => by cases refused
  | x :: xs, e, refused => by
    rw [List.mapM_cons] at refused
    cases fx : f x with
    | error e' =>
      simp only [fx, bind, Except.bind, Except.error.injEq] at refused
      exact ⟨x, List.mem_cons_self _ _, refused ▸ fx⟩
    | ok b =>
      cases rest : xs.mapM f with
      | error e' =>
        simp only [fx, rest, bind, Except.bind, Except.error.injEq] at refused
        obtain ⟨y, mem, fy⟩ := mapM_error rest
        exact ⟨y, List.mem_cons_of_mem _ mem, refused ▸ fy⟩
      | ok bs => simp only [fx, rest, bind, Except.bind, pure, Except.pure, reduceCtorEq] at refused

/-- Every error of one route's `switch` names its SNI. -/
theorem routeBackends_error {sni : String} {v : JsonValue} {e : String}
    (refused : routeBackends sni v = .error e) :
    e = "invalid backend for SNI " ++ sni ++ ": expected string" ∨
      e = "invalid backend for SNI " ++ sni ++ ": expected string or array" := by
  cases v
  case string s => cases refused
  case array xs =>
    obtain ⟨x, -, bad⟩ := mapM_error refused
    cases x <;> simp only [reduceCtorEq, Except.error.injEq] at bad
    all_goals exact .inl bad.symm
  all_goals exact .inr (Except.error.inj refused).symm

/-- Every error of the loop names the route it stopped at, one whose value is
not a backend list. -/
theorem buildRoutes_error_names : ∀ {entries : List (String × JsonValue)} {e : String},
    buildRoutes entries = .error e → ∃ x ∈ entries, specBackends x.2 = none ∧
      (e = "invalid backend for SNI " ++ x.1 ++ ": expected string" ∨
        e = "invalid backend for SNI " ++ x.1 ++ ": expected string or array" ∨
        e = "empty backends for SNI " ++ x.1)
  | [], e, refused => by cases refused
  | (sni, v) :: rest, e, refused => by
    cases good : specBackends v with
    | none =>
      -- the loop stops at this entry
      refine ⟨(sni, v), List.mem_cons_self _ _, good, ?_⟩
      cases checked : routeBackends sni v with
      | error e' =>
        simp only [buildRoutes, checked, bind, Except.bind, Except.error.injEq] at refused
        subst refused
        exact (routeBackends_error checked).elim .inl (.inr ∘ .inl)
      | ok bs =>
        have empty : bs = [] := by
          by_contra ne
          rw [(routeBackends_eq_ok sni).mp ⟨checked, ne⟩] at good
          cases good
        subst empty
        simp only [buildRoutes, checked, bind, Except.bind, List.length_nil, if_true,
          Except.error.injEq] at refused
        exact .inr (.inr refused.symm)
    | some bs =>
      -- this entry is good: the loop stops at a later one
      rw [buildRoutes_cons_ok rest good] at refused
      cases restBuilt : buildRoutes rest with
      | error e' =>
        rw [restBuilt] at refused
        cases refused
        obtain ⟨x, mem, bad, named⟩ := buildRoutes_error_names restBuilt
        exact ⟨x, List.mem_cons_of_mem _ mem, bad, named⟩
      | ok routes => rw [restBuilt] at refused; cases refused

/-- Every refusal of `NewDynamicHandler` names its cause: the decoder's error,
the missing routes, or a route that is not a backend list, by its SNI. -/
theorem newDynamicHandler_error_names {unmarshal : Bytes → Except String DynamicConfig}
    {raw : Bytes} {msg : String} (refused : newDynamicHandler unmarshal raw = .error msg) :
    (∃ e, unmarshal raw = .error e ∧ msg = "invalid dynamic config: " ++ e) ∨
      msg = "dynamic handler requires 'routes' config" ∨
      ∃ cfg, decodeDynamicConfig unmarshal raw = .ok cfg ∧
        ∃ x ∈ cfg.routes.entries, specBackends x.2 = none ∧
          (msg = "invalid backend for SNI " ++ x.1 ++ ": expected string" ∨
            msg = "invalid backend for SNI " ++ x.1 ++ ": expected string or array" ∨
            msg = "empty backends for SNI " ++ x.1) := by
  cases decoded : decodeDynamicConfig unmarshal raw with
  | error e =>
    simp only [newDynamicHandler, decoded, bind, Except.bind, Except.error.injEq] at refused
    subst refused
    unfold decodeDynamicConfig at decoded
    split at decoded
    · split at decoded
      · cases decoded
      · rename_i e' failed
        cases decoded
        exact .inl ⟨e', failed, rfl⟩
    · cases decoded
  | ok cfg =>
    rw [newDynamicHandler_of_decoded decoded] at refused
    split at refused
    · exact .inr (.inl (Except.error.inj refused).symm)
    · cases built : buildRoutes cfg.routes.entries with
      | error e =>
        rw [built] at refused
        cases refused
        exact .inr (.inr ⟨cfg, rfl, buildRoutes_error_names built⟩)
      | ok routes => rw [built] at refused; cases refused

/-! ### `OnConnect` -/

theorem admitSNI_eq_ok {ctx : Context} {sni : String} :
    admitSNI ctx = .ok sni ↔ ∃ hello, ctx.hello = some hello ∧ hello.sni ≠ "" ∧ sni = hello.sni := by
  unfold admitSNI
  split
  · simp_all
  · split <;> simp_all [eq_comm]

theorem admitSNI_error {ctx : Context} {res : Result} (dropped : admitSNI ctx = .error res) :
    res.action = .Drop := by
  unfold admitSNI at dropped
  split at dropped
  · cases dropped; rfl
  · split at dropped <;> cases dropped; rfl

/-- `OnConnect` is `admitSNI`, the lookup, then for a known SNI one `route.next`. -/
theorem DynamicHandler.onConnect_eq_admit (h : DynamicHandler) (ctx : Context) :
    h.onConnect ctx = match admitSNI ctx with
      | .error res => .ok (res, ctx, h)
      | .ok sni => match lookupRoute h.routes sni with
        | none => .ok (Result.drop ("unknown SNI: " ++ sni), ctx, h)
        | some r => do
          let (b, r') ← r.next
          return (Result.cont, ctx.set "backend" (.string b), ⟨setRoute h.routes sni r'⟩) := by
  unfold DynamicHandler.onConnect admitSNI
  split
  · rfl
  · split <;> rfl

/-- On a well-formed table `OnConnect` never panics, whatever the counters, and
the table it leaves is well formed. -/
theorem DynamicHandler.onConnect_wellFormed {h : DynamicHandler}
    (wf : RoutesWellFormed h.routes) (ctx : Context) :
    ∃ res ctx' h', h.onConnect ctx = .ok (res, ctx', h') ∧ RoutesWellFormed h'.routes := by
  rw [DynamicHandler.onConnect_eq_admit]
  split
  · exact ⟨_, _, _, rfl, wf⟩
  · split
    · exact ⟨_, _, _, rfl, wf⟩
    · rename_i found
      have ne := wf _ (lookupRoute_mem found)
      rw [Route.next_of_ne_nil ne]
      exact ⟨_, _, _, rfl, setRoute_wellFormed wf ne⟩

/-- Accepted configurations never make `OnConnect` divide by zero or index out of
range: every backend list of a built handler is non-empty, so `OnConnect`
succeeds from every counter value, for the static router and for every SNI of
the dynamic one. -/
theorem accepted_handlers_never_panic :
    (∀ (unmarshal : Bytes → Except String StaticConfig) (getenv : String → String)
        (raw : Bytes) (h : StaticHandler), newStaticHandler unmarshal getenv raw = .ok h →
      h.backends ≠ [] ∧
        ∀ (c : UInt64) (ctx : Context), ∃ out, { h with counter := c }.onConnect ctx = .ok out) ∧
    (∀ (unmarshal : Bytes → Except String DynamicConfig) (raw : Bytes) (h : DynamicHandler),
      newDynamicHandler unmarshal raw = .ok h →
      RoutesWellFormed h.routes ∧
        ∀ h' : DynamicHandler,
          h'.routes.map (fun e => (e.1, e.2.backends)) = h.routes.map (fun e => (e.1, e.2.backends)) →
          ∀ ctx : Context, ∃ out, h'.onConnect ctx = .ok out) := by
  refine ⟨fun unmarshal getenv raw h accepted => ?_, fun unmarshal raw h accepted => ?_⟩
  · have ne := (newStaticHandler_ne_nil accepted).1
    exact ⟨ne, fun c ctx => ⟨_, StaticHandler.onConnect_of_ne_nil (h := { h with counter := c }) ne ctx⟩⟩
  · have wf := newDynamicHandler_wellFormed accepted
    refine ⟨wf, fun h' same ctx => ?_⟩
    have wf' : RoutesWellFormed h'.routes := by
      intro e mem
      have : (e.1, e.2.backends) ∈ h.routes.map (fun e => (e.1, e.2.backends)) :=
        same ▸ List.mem_map_of_mem _ mem
      obtain ⟨e₀, mem₀, eq⟩ := List.mem_map.mp this
      obtain ⟨-, backends⟩ := Prod.mk.inj eq
      rw [← backends]
      exact wf e₀ mem₀
    obtain ⟨res, ctx', h'', eq, -⟩ := DynamicHandler.onConnect_wellFormed wf' ctx
    exact ⟨_, eq⟩

end QuicRelay
