import QuicRelay.Chain

/-!
`ratelimit-global`: `NewRateLimitGlobalHandler` and
`RateLimitGlobalHandler.OnConnect`, and the proxy loop's admission of new
connections, which the limiter guards.

The limiter only reads `_session_count`, which the proxy loop sets to the size
of its session table before it walks the chain (spec §4.4, §4.7). The loop and
its table are not among the sources and are modelled from the spec, over the
chain walk of `QuicRelay.Chain`. The rest of the chain is an input of every new
connection, so what is proved holds whatever the routers and the forwarder
answer.

* `Proxy.next_fresh` — below the limit the limiter stays out of the way: a new
  client is admitted exactly when the rest of the chain handles it; at the
  limit it is never admitted.
* `sessions_within_limit` — over every run of the loop with an accepted limiter
  at the head of the chain, the table holds each client at most once and never
  more sessions than the limit.
-/

namespace QuicRelay

/-- `RateLimitGlobalConfig` after `json.Unmarshal`. -/
structure RateLimitGlobalConfig where
  maxParallelConnections : Int
deriving DecidableEq, Repr

/-- `RateLimitGlobalHandler`. -/
structure RateLimitGlobalHandler where
  maxParallelConnections : Int
deriving DecidableEq, Repr

/-- `var cfg RateLimitGlobalConfig` filled by `json.Unmarshal` when `raw` is
non-empty. -/
def decodeRateLimitGlobalConfig (unmarshal : Bytes → Except String RateLimitGlobalConfig)
    (raw : Bytes) : Except String RateLimitGlobalConfig :=
  if raw.length > 0 then
    match unmarshal raw with
    | .ok cfg => .ok cfg
    | .error e => .error ("invalid ratelimit-global config: " ++ e)
  else .ok ⟨0⟩

/-- `NewRateLimitGlobalHandler`: `unmarshal` is `json.Unmarshal` into a
`RateLimitGlobalConfig`. -/
def newRateLimitGlobalHandler (unmarshal : Bytes → Except String RateLimitGlobalConfig)
    (raw : Bytes) : Except String RateLimitGlobalHandler := do
  let cfg ← decodeRateLimitGlobalConfig unmarshal raw
  if cfg.maxParallelConnections ≤ 0 then
    throw "ratelimit-global requires 'max_parallel_connections' > 0"
  return ⟨cfg.maxParallelConnections⟩

/-- `RateLimitGlobalHandler.OnConnect`: `Drop` once the proxy's session count has
reached the limit. -/
def RateLimitGlobalHandler.onConnect (h : RateLimitGlobalHandler) (ctx : Context) : Result :=
  let currentCount := ctx.getInt64 "_session_count"
  if currentCount ≥ h.maxParallelConnections then
    Result.drop ("max connections exceeded (" ++ toString currentCount ++ "/" ++
      toString h.maxParallelConnections ++ ")")
  else Result.cont

/-- The constructor's `do` block, as one match on the decoded configuration. -/
theorem newRateLimitGlobalHandler_eq (unmarshal : Bytes → Except String RateLimitGlobalConfig)
    (raw : Bytes) :
    newRateLimitGlobalHandler unmarshal raw =
      match decodeRateLimitGlobalConfig unmarshal raw with
      | .ok cfg =>
        if cfg.maxParallelConnections ≤ 0 then
          .error "ratelimit-global requires 'max_parallel_connections' > 0"
        else .ok ⟨cfg.maxParallelConnections⟩
      | .error e => .error e := by
  simp only [newRateLimitGlobalHandler]
  cases decodeRateLimitGlobalConfig unmarshal raw with
  | error e => rfl
  | ok cfg =>
    by_cases low : cfg.maxParallelConnections ≤ 0 <;>
      simp [low, bind, Except.bind, throw, throwThe, MonadExceptOf.throw, Functor.map,
        Except.map, pure, Except.pure]

/-- Every refusal names its cause: the decoder's error, or the limit. -/
theorem newRateLimitGlobalHandler_error {unmarshal : Bytes → Except String RateLimitGlobalConfig}
    {raw : Bytes} {msg : String} (refused : newRateLimitGlobalHandler unmarshal raw = .error msg) :
    (∃ e, unmarshal raw = .error e ∧ msg = "invalid ratelimit-global config: " ++ e) ∨
      msg = "ratelimit-global requires 'max_parallel_connections' > 0" := by
  rw [newRateLimitGlobalHandler_eq] at refused
  cases raw with
  | nil => exact .inr (by simpa [decodeRateLimitGlobalConfig] using refused.symm)
  | cons b raw =>
    simp only [decodeRateLimitGlobalConfig, List.length_cons, Nat.succ_pos, if_true] at refused
    cases decoded : unmarshal (b :: raw) with
    | error e =>
      simp only [decoded, Except.error.injEq] at refused
      exact .inl ⟨e, rfl, refused.symm⟩
    | ok cfg =>
      by_cases low : cfg.maxParallelConnections ≤ 0 <;> simp [decoded, low] at refused
      exact .inr refused.symm

/-- An accepted limiter has a positive limit. -/
theorem newRateLimitGlobalHandler_positive
    {unmarshal : Bytes → Except String RateLimitGlobalConfig} {raw : Bytes}
    {h : RateLimitGlobalHandler} (accepted : newRateLimitGlobalHandler unmarshal raw = .ok h) :
    0 < h.maxParallelConnections := by
  rw [newRateLimitGlobalHandler_eq] at accepted
  split at accepted
  · split at accepted
    · cases accepted
    · rename_i low
      cases accepted
      exact Int.not_le.mp low
  · cases accepted

theorem RateLimitGlobalHandler.onConnect_of_lt {h : RateLimitGlobalHandler} {ctx : Context}
    (below : ctx.getInt64 "_session_count" < h.maxParallelConnections) :
    h.onConnect ctx = Result.cont := by
  simp only [RateLimitGlobalHandler.onConnect]
  exact if_neg (Int.not_le.mpr below)

theorem RateLimitGlobalHandler.onConnect_of_ge {h : RateLimitGlobalHandler} {ctx : Context}
    (full : h.maxParallelConnections ≤ ctx.getInt64 "_session_count") :
    (h.onConnect ctx).action = .Drop := by
  simp [RateLimitGlobalHandler.onConnect, full, Result.drop]

/-! ### The limiter in the chain and the proxy loop -/

/-- `RateLimitGlobalHandler.OnConnect` in the chain: it leaves the context alone. -/
def RateLimitGlobalHandler.link (h : RateLimitGlobalHandler) : Link :=
  fun ctx => .ok (h.onConnect ctx, ctx)

/-- Below the limit, the limiter hands the walk on untouched; at the limit, it
ends it with `Drop`. -/
theorem walkChain_link (h : RateLimitGlobalHandler) (rest : List Link) (ctx : Context) :
    walkChain (h.link :: rest) ctx =
      if ctx.getInt64 "_session_count" < h.maxParallelConnections then walkChain rest ctx
      else .ok (h.onConnect ctx, ctx) := by
  by_cases below : ctx.getInt64 "_session_count" < h.maxParallelConnections
  · simp [walkChain, RateLimitGlobalHandler.link, below,
      RateLimitGlobalHandler.onConnect_of_lt below, Result.cont, bind, Except.bind]
  · have drop := RateLimitGlobalHandler.onConnect_of_ge (Int.not_lt.mp below)
    simp [walkChain, RateLimitGlobalHandler.link, below, drop, bind, Except.bind, pure,
      Except.pure]

/-- Modelled from the spec: the proxy loop's session table (§4.7), by the client
address each live session is keyed by. -/
structure Proxy where
  sessions : List UDPAddr
deriving DecidableEq, Repr

/-- Modelled from the spec: the context the loop builds for a first datagram that
parses as a ClientHello (§4.7 step 4): the datagram as `InitialPacket`, and the
table's size as `_session_count`. -/
def Proxy.newContext (p : Proxy) (client : UDPAddr) (datagram : Bytes) (hello : ClientHello) :
    Context :=
  Context.set ⟨client, datagram, some hello, fun _ => none, true, none⟩
    "_session_count" (.int64 p.sessions.length)

@[simp] theorem Proxy.newContext_count (p : Proxy) (client : UDPAddr) (datagram : Bytes)
    (hello : ClientHello) :
    (p.newContext client datagram hello).getInt64 "_session_count" = p.sessions.length :=
  Context.getInt64_set _ _ _

/-- Modelled from the spec: what changes the loop's table. -/
inductive ProxyStep where
  /-- A datagram from `client` that parses as a ClientHello; `rest` is the chain
  after the limiter, as it answers this connection. -/
  | hello (client : UDPAddr) (datagram : Bytes) (hello : ClientHello) (rest : List Link)
  /-- The session of `client` ends: idle sweep, shutdown, a failed write. -/
  | close (client : UDPAddr)

/-- Modelled from the spec: one step of the loop with `limiter` at the head of
the chain (§4.7). A datagram from a client with a session is no new connection;
a walk ending in `Handled` adds the new session; a panic stops the process. -/
def Proxy.next (limiter : RateLimitGlobalHandler) (p : Proxy) : ProxyStep → Option Proxy
  | .hello client datagram hello rest =>
    if client ∈ p.sessions then some p
    else match walkChain (limiter.link :: rest) (p.newContext client datagram hello) with
      | .ok (r, _) => some (if r.action = .Handled then ⟨client :: p.sessions⟩ else p)
      | .error _ => none
  | .close client => some ⟨p.sessions.erase client⟩

/-- Steps in order. -/
def Proxy.run (limiter : RateLimitGlobalHandler) : Proxy → List ProxyStep → Option Proxy
  | p, [] => some p
  | p, st :: rest => (p.next limiter st).bind (Proxy.run limiter · rest)

/-- The chain after the limiter in the README's `simple-router` example: the
router with one backend at counter `c`, and the forwarder at session counter
`n`, whose socket calls succeed on descriptor `fd`. -/
def readmeChain (c : UInt64) (n : UInt64) (fd : Nat) : List Link :=
  [StaticHandler.link ⟨["10.0.0.1:5527"], c⟩,
    ForwarderHandler.link ⟨n⟩ ⟨.ok ⟨"10.0.0.1", 5527⟩, .ok ⟨fd⟩, .ok ()⟩]

/-- A client of the examples, by source port. -/
def player (port : Nat) : UDPAddr := ⟨"203.0.113.7", port⟩

/-- A new client's step: the table grows by the client exactly when the count
is below the limit and the rest of the chain handles the connection; otherwise
it stays as it was. -/
theorem Proxy.next_fresh {limiter : RateLimitGlobalHandler} {p p' : Proxy} {client : UDPAddr}
    {datagram : Bytes} {hello : ClientHello} {rest : List Link} (fresh : client ∉ p.sessions)
    (stepped : p.next limiter (.hello client datagram hello rest) = some p') :
    let handles := ∃ r ctx', walkChain rest (p.newContext client datagram hello) = .ok (r, ctx') ∧
      r.action = .Handled
    (p' = ⟨client :: p.sessions⟩ ∧ (p.sessions.length : Int) < limiter.maxParallelConnections ∧
        handles) ∨
      (p' = p ∧ ¬((p.sessions.length : Int) < limiter.maxParallelConnections ∧ handles)) := by
  simp only [Proxy.next, if_neg fresh, walkChain_link, Proxy.newContext_count] at stepped
  by_cases below : (p.sessions.length : Int) < limiter.maxParallelConnections
  · rw [if_pos below] at stepped
    cases walked : walkChain rest (p.newContext client datagram hello) with
    | error e => rw [walked] at stepped; cases stepped
    | ok rc =>
      obtain ⟨r, ctx'⟩ := rc
      rw [walked] at stepped
      by_cases handled : r.action = .Handled
      · simp only [handled, if_true, Option.some.injEq] at stepped
        exact .inl ⟨stepped.symm, below, r, ctx', rfl, handled⟩
      · simp only [handled, if_false, Option.some.injEq] at stepped
        refine .inr ⟨stepped.symm, fun ⟨_, r', ctx'', walked', handled'⟩ => handled ?_⟩
        cases walked'
        exact handled'
  · have drop : (limiter.onConnect (p.newContext client datagram hello)).action = .Drop :=
      RateLimitGlobalHandler.onConnect_of_ge (by simpa using Int.not_lt.mp below)
    simp only [if_neg below] at stepped
    simp only [drop, reduceCtorEq, if_false, Option.some.injEq] at stepped
    exact .inr ⟨stepped.symm, fun ⟨b, _⟩ => below b⟩

/-- What the loop keeps of its table under `limiter`: one session per client,
and no more sessions than the limit. -/
structure Proxy.Inv (limiter : RateLimitGlobalHandler) (p : Proxy) : Prop where
  nodup : p.sessions.Nodup
  within : (p.sessions.length : Int) ≤ limiter.maxParallelConnections

theorem Proxy.Inv.next {limiter : RateLimitGlobalHandler} {p p' : Proxy} {st : ProxyStep}
    (inv : p.Inv limiter) (stepped : p.next limiter st = some p') : p'.Inv limiter := by
  cases st with
  | close client =>
    cases stepped
    have shorter : (p.sessions.erase client).length ≤ p.sessions.length := List.length_erase_le _ _
    exact ⟨inv.nodup.erase client, Int.le_trans (Int.ofNat_le.mpr shorter) inv.within⟩
  | hello client datagram hello rest =>
    by_cases mem : client ∈ p.sessions
    · simp only [Proxy.next, mem, if_true, Option.some.injEq] at stepped
      exact stepped ▸ inv
    · rcases Proxy.next_fresh mem stepped with ⟨rfl, below, -⟩ | ⟨rfl, -⟩
      · refine ⟨List.nodup_cons.mpr ⟨mem, inv.nodup⟩, ?_⟩
        simp only [List.length_cons]
        omega
      · exact inv

theorem Proxy.run_inv {limiter : RateLimitGlobalHandler} :
    ∀ {p p' : Proxy} {steps : List ProxyStep}, p.Inv limiter →
      Proxy.run limiter p steps = some p' → p'.Inv limiter
  | p, p', [], inv, ran => by cases ran; exact inv
  | p, p', st :: rest, inv, ran => by
    simp only [Proxy.run, Option.bind_eq_some] at ran
    obtain ⟨p₁, stepped, ran⟩ := ran
    exact Proxy.run_inv (inv.next stepped) ran

/-- With an accepted limiter at the head of the chain, every run of the loop
keeps one session per client and never more sessions than the limit. -/
theorem sessions_within_limit {unmarshal : Bytes → Except String RateLimitGlobalConfig}
    {raw : Bytes} {limiter : RateLimitGlobalHandler}
    (accepted : newRateLimitGlobalHandler unmarshal raw = .ok limiter) {steps : List ProxyStep}
    {p : Proxy} (ran : Proxy.run limiter ⟨[]⟩ steps = some p) :
    p.sessions.Nodup ∧ (p.sessions.length : Int) ≤ limiter.maxParallelConnections := by
  have positive := newRateLimitGlobalHandler_positive accepted
  have inv := Proxy.run_inv ⟨List.nodup_nil, by simp only [List.length_nil]; omega⟩ ran
  exact ⟨inv.nodup, inv.within⟩

/-- The spec's rate-limit scenario on the README's chain with a limit of two:
three clients in a row, the third refused; the first leaves, and a fourth is
admitted. -/
theorem sessions_within_limit_of_two :
    newRateLimitGlobalHandler (fun _ => .ok ⟨2⟩) [0x7B] = .ok ⟨2⟩ ∧
      Proxy.run ⟨2⟩ ⟨[]⟩
        [.hello (player 1) [0xC0] ⟨"play.example.com"⟩ (readmeChain 0 0 3),
          .hello (player 2) [0xC0] ⟨"play.example.com"⟩ (readmeChain 1 1 4),
          .hello (player 3) [0xC0] ⟨"play.example.com"⟩ (readmeChain 2 2 5),
          .close (player 1),
          .hello (player 4) [0xC0] ⟨"play.example.com"⟩ (readmeChain 2 2 5)] =
        some ⟨[player 4, player 2]⟩ ∧
      ((⟨[player 4, player 2]⟩ : Proxy).sessions.Nodup ∧
        ((⟨[player 4, player 2]⟩ : Proxy).sessions.length : Int) ≤
          (⟨2⟩ : RateLimitGlobalHandler).maxParallelConnections) :=
  have accepted : newRateLimitGlobalHandler (fun _ => .ok ⟨2⟩) [0x7B] = .ok ⟨2⟩ := rfl
  have ran : Proxy.run ⟨2⟩ ⟨[]⟩
      [.hello (player 1) [0xC0] ⟨"play.example.com"⟩ (readmeChain 0 0 3),
        .hello (player 2) [0xC0] ⟨"play.example.com"⟩ (readmeChain 1 1 4),
        .hello (player 3) [0xC0] ⟨"play.example.com"⟩ (readmeChain 2 2 5),
        .close (player 1),
        .hello (player 4) [0xC0] ⟨"play.example.com"⟩ (readmeChain 2 2 5)] =
      some ⟨[player 4, player 2]⟩ := rfl
  ⟨accepted, ran, sessions_within_limit accepted ran⟩

end QuicRelay
