import QuicRelay.Router.RoundRobin

/-!
`simple-router`: `NewStaticHandler` and `StaticHandler.OnConnect`.

`json.Unmarshal` and `os.Getenv` are parameters of the constructor, so what is
proved holds for every decoder result and every environment. The constructor
never accepts a configuration without a backend (`newStaticHandler_ne_nil`),
every refusal names its cause (`newStaticHandler_error`), and
`OnConnect` on a handler with a backend never panics, from any counter value
(`StaticHandler.onConnect_of_ne_nil`).
-/

namespace QuicRelay

/-- `StaticConfig` after `json.Unmarshal`. -/
structure StaticConfig where
  backend : String
  backends : List String
deriving DecidableEq, Repr

/-- `StaticHandler`. -/
structure StaticHandler where
  backends : List String
  counter : UInt64
deriving DecidableEq, Repr

/-- `var cfg StaticConfig` filled by `json.Unmarshal` when `raw` is non-empty. -/
def decodeStaticConfig (unmarshal : Bytes → Except String StaticConfig) (raw : Bytes) :
    Except String StaticConfig :=
  if raw.length > 0 then
    match unmarshal raw with
    | .ok cfg => .ok cfg
    | .error e => .error ("invalid static config: " ++ e)
  else .ok ⟨"", []⟩

/-- The choice of backends: `Backends`, else `Backend`, else `QUIC_RELAY_BACKEND`. -/
def staticBackends (getenv : String → String) (cfg : StaticConfig) :
    Except String (List String) :=
  if cfg.backends.length > 0 then .ok cfg.backends
  else if cfg.backend ≠ "" then .ok [cfg.backend]
  else if getenv "QUIC_RELAY_BACKEND" ≠ "" then .ok [getenv "QUIC_RELAY_BACKEND"]
  else .error "simple-router requires 'backend', 'backends' config or QUIC_RELAY_BACKEND env"

/-- `NewStaticHandler`: `unmarshal` is `json.Unmarshal` into a `StaticConfig`,
`getenv` is `os.Getenv`. -/
def newStaticHandler (unmarshal : Bytes → Except String StaticConfig)
    (getenv : String → String) (raw : Bytes) : Except String StaticHandler := do
  let cfg ← decodeStaticConfig unmarshal raw
  let backends ← staticBackends getenv cfg
  return ⟨backends, 0⟩

/-- `StaticHandler.OnConnect`: one round-robin pick, stored as `ctx["backend"]`. -/
def StaticHandler.onConnect (h : StaticHandler) (ctx : Context) :
    Except Panic (Result × Context × StaticHandler) := do
  let (backend, c) ← pick h.backends h.counter
  return (Result.cont, ctx.set "backend" (.string backend), { h with counter := c })

theorem staticBackends_ne_nil {getenv : String → String} {cfg : StaticConfig}
    {backends : List String} (chosen : staticBackends getenv cfg = .ok backends) :
    backends ≠ [] := by
  unfold staticBackends at chosen
  split at chosen
  · cases chosen; exact List.ne_nil_of_length_pos ‹_›
  · split at chosen
    · cases chosen; simp
    · split at chosen
      · cases chosen; simp
      · cases chosen

/-- The three sources of backends each give a non-empty list; the counter
starts at zero. -/
theorem newStaticHandler_ne_nil {unmarshal : Bytes → Except String StaticConfig}
    {getenv : String → String} {raw : Bytes} {h : StaticHandler}
    (accepted : newStaticHandler unmarshal getenv raw = .ok h) :
    h.backends ≠ [] ∧ h.counter = 0 := by
  obtain ⟨cfg, -, built⟩ := bind_eq_ok.mp accepted
  obtain ⟨backends, chosen, done⟩ := bind_eq_ok.mp built
  cases done
  exact ⟨staticBackends_ne_nil chosen, rfl⟩

theorem staticBackends_error {getenv : String → String} {cfg : StaticConfig} {msg : String}
    (chosen : staticBackends getenv cfg = .error msg) :
    msg = "simple-router requires 'backend', 'backends' config or QUIC_RELAY_BACKEND env" := by
  unfold staticBackends at chosen
  split at chosen
  · cases chosen
  · split at chosen
    · cases chosen
    · split at chosen
      · cases chosen
      · exact (Except.error.inj chosen).symm

/-- Every refusal of `NewStaticHandler` names its cause: the decoder's error, or
no backend from any of the three sources. -/
theorem newStaticHandler_error {unmarshal : Bytes → Except String StaticConfig}
    {getenv : String → String} {raw : Bytes} {msg : String}
    (refused : newStaticHandler unmarshal getenv raw = .error msg) :
    (∃ e, unmarshal raw = .error e ∧ msg = "invalid static config: " ++ e) ∨
      msg = "simple-router requires 'backend', 'backends' config or QUIC_RELAY_BACKEND env" := by
  cases decoded : decodeStaticConfig unmarshal raw with
  | error e =>
    simp only [newStaticHandler, decoded, bind, Except.bind, Except.error.injEq] at refused
    subst refused
    unfold decodeStaticConfig at decoded
    split at decoded
    · split at decoded
      · cases decoded
      · rename_i e' failed
        cases decoded
        exact .inl ⟨e', failed, rfl⟩
    · cases decoded
  | ok cfg =>
    simp only [newStaticHandler, decoded, bind, Except.bind] at refused
    cases chosen : staticBackends getenv cfg with
    | error e =>
      rw [chosen] at refused
      cases refused
      exact .inr (staticBackends_error chosen)
    | ok backends => rw [chosen] at refused; cases refused

/-- `OnConnect` on a handler with a backend picks at `counter % len` and never
panics, whatever the counter. -/
theorem StaticHandler.onConnect_of_ne_nil {h : StaticHandler} (ne : h.backends ≠ [])
    (ctx : Context) :
    h.onConnect ctx = .ok (Result.cont,
      ctx.set "backend" (.string (h.backends.getD (h.counter.toNat % h.backends.length) "")),
      { h with counter := h.counter + 1 }) := by
  simp [StaticHandler.onConnect, pick_of_ne_nil ne, bind, Except.bind, pure, Except.pure]

end QuicRelay
