import QuicRelay.Forwarder.System

/-!
What every run of one connection guarantees, and the runs that break the
forwarder's contract.

Over every run and every interleaving (from `Sys.reachable_inv`):

* `pump_buffers_balanced` — the pump's pool discipline;
* `relay_in_order` — what reaches the backend and the client, and in which order;
* `pump_exit_reasons` — the pump returns on a read error, a client write error,
  or the closed flag, which is then set;
* `panic_only_on_empty_inbound` — the only panic is `OnPacket`'s `packet[0]`.

From states any run reaches:

* `pump_returns_while_open` — a read error (the five-minute deadline included)
  ends the pump while the session stays open, and `OnPacket` goes on writing
  the client's datagrams to the backend;
* `empty_inbound_panics` — an empty `Inbound` datagram on an open session
  panics in `debug.Printf`'s eagerly evaluated `packet[0]`;
* `write_after_close` — `OnPacket` checks `IsClosed`, `OnDisconnect` wins the
  compare-and-swap and closes the socket, then `OnPacket` writes to it;
* `initial_write_failure_closes_twice` — after the initial write fails,
  `OnConnect` closes the socket but leaves the session attached with its closed
  flag clear, so `OnDisconnect` closes the socket again.

The concrete connection used at fixed inputs is a client at
`203.0.113.7:40000` routed to `127.0.0.1:9`, its first datagram `0xC0`; the
runs of one datagram each way (`inbound_forwarded`, `datagram_relayed`) and of
a read error (`pump_stops_on_read_error`) take it to the states the results are
shown at.
-/

namespace QuicRelay

/-! ### A connection -/

/-- A client at `203.0.113.7:40000` routed to `127.0.0.1:9` with its first
datagram `0xC0`, through the proxy's connection. -/
def clientCtx : Context :=
  ⟨⟨"203.0.113.7", 40000⟩, [0xC0], none,
    fun k => if k = "backend" then some (.string "127.0.0.1:9") else none, true, none⟩

/-- `127.0.0.1:9` resolves, socket `3` is dialed and the initial write succeeds. -/
def acceptingBackend : ConnectOutcome := ⟨.ok ⟨"127.0.0.1", 9⟩, .ok ⟨3⟩, .ok ()⟩

/-- A pool of buffers of the least size the pool may hand out. -/
def minimalPool : Pool := ⟨65535, Nat.le_refl _⟩

/-- The session `OnConnect` attaches for `clientCtx`. -/
def clientSession : Session := ⟨1, ⟨"127.0.0.1", 9⟩, ⟨3⟩, ⟨"203.0.113.7", 40000⟩, false⟩

/-- The connection right after `OnConnect` returned `Handled`. -/
def connectedSys : Sys :=
  ⟨⟨1⟩, { clientCtx with session := some clientSession, initialPacket := [] },
    some Result.handled, .idle, .loop, fun _ => .idle,
    [.dial ⟨3⟩, .backendWrite .onConnect ⟨3⟩ [0xC0] true], false⟩

theorem connectedSys_reachable : connectedSys.Reachable minimalPool ⟨0⟩ clientCtx :=
  .step .init
    (rfl : (Sys.init ⟨0⟩ clientCtx).next minimalPool (.connect acceptingBackend) = some connectedSys)

/-- A read error ends the pump while the session stays open. -/
theorem pump_stops_on_read_error {pool : Pool} {s : Sys} {session : Session} (b : Nat)
    (err : String) (alive : s.panicked = false) (connected : s.connected.isSome)
    (attached : s.ctx.session = some session) (unclosed : session.closed = false)
    (looping : s.pump = .loop) :
    s.run pool [.pump .check, .pump (.acquire ⟨b, List.replicate pool.size 0⟩),
        .pump (.read (.error err)), .pump .release] =
      some { s with
        pump := .returned .readError, log := s.log ++ [.getBuffer b, .readFailed b, .putBuffer b] } := by
  have check : ForwarderHandler.backendToClient pool session s.ctx.proxyConn .loop .check =
      some (.ok (.acquiring, [])) := by
    simp [ForwarderHandler.backendToClient, unclosed]
  have acquire : ForwarderHandler.backendToClient pool session s.ctx.proxyConn .acquiring
      (.acquire ⟨b, List.replicate pool.size 0⟩) =
      some (.ok (.reading ⟨b, List.replicate pool.size 0⟩, [.getBuffer b])) := by
    simp [ForwarderHandler.backendToClient]
  have read : ForwarderHandler.backendToClient pool session s.ctx.proxyConn
      (.reading ⟨b, List.replicate pool.size 0⟩) (.read (.error err)) =
      some (.ok (.releasing ⟨b, List.replicate pool.size 0⟩ (some .readError),
        [.readFailed b])) := rfl
  have release : ForwarderHandler.backendToClient pool session s.ctx.proxyConn
      (.releasing ⟨b, List.replicate pool.size 0⟩ (some .readError)) .release =
      some (.ok (.returned .readError, [.putBuffer b])) := rfl
  simp [Sys.run, Sys.next, alive, Option.isSome_iff_ne_none.mp connected, attached, looping, check,
    acquire, read, release]

/-- `connectedSys` once the backend read timed out. -/
def timedOutSys : Sys :=
  { connectedSys with
    pump := .returned .readError,
    log := connectedSys.log ++ [.getBuffer 0, .readFailed 0, .putBuffer 0] }

theorem timedOutSys_reachable : timedOutSys.Reachable minimalPool ⟨0⟩ clientCtx :=
  Sys.run_reachable connectedSys_reachable (pump_stops_on_read_error 0 "i/o timeout" rfl rfl rfl rfl rfl)

/-- An `Inbound` datagram on an open session reaches the backend: `OnPacket`
passes its checks, touches the session, indexes `packet[0]` and writes. -/
theorem inbound_forwarded {pool : Pool} {s : Sys} {session : Session} {p : Bytes}
    (alive : s.panicked = false) (connected : s.connected.isSome)
    (attached : s.ctx.session = some session) (unclosed : session.closed = false)
    (idle : s.packet = .idle) (nonempty : p ≠ []) :
    s.run pool [.packet (.call p .Inbound), .packet .touch, .packet .index,
        .packet (.write (.ok ()))] =
      some { s with packet := .idle, log := s.log ++ [.touch .onPacket,
        .backendWrite .onPacket session.backendConn p true,
        .packetResult p .Inbound Result.handled] } := by
  obtain ⟨x, rest, rfl⟩ := List.exists_cons_of_ne_nil nonempty
  simp [Sys.run, Sys.next, ForwarderHandler.onPacket, alive, Option.isSome_iff_ne_none.mp connected,
    attached, unclosed, idle, Except.map]

/-- `connectedSys` once an empty `Inbound` datagram panicked `OnPacket`. -/
def panickedSys : Sys :=
  { connectedSys with
    packet := .logging []
    log := connectedSys.log ++ [.touch .onPacket]
    panicked := true }

theorem panickedSys_reachable : panickedSys.Reachable minimalPool ⟨0⟩ clientCtx :=
  Sys.run_reachable connectedSys_reachable
    (rfl : connectedSys.run minimalPool [.packet (.call [] .Inbound), .packet .touch,
      .packet .index] = some panickedSys)

/-! ### Over every run -/

section
variable {pool : Pool} {h : ForwarderHandler} {ctx : Context} {s : Sys}

/-- A new client write of a step goes to the session's client address. -/
theorem SysMove.clientWrite {s' : Sys} (move : SysMove pool s s') {b : Nat} {d : Bytes}
    {a : UDPAddr} {ok : Bool} (mem : .clientWrite b d a ok ∈ s'.log) :
    .clientWrite b d a ok ∈ s.log ∨ ∃ session, s.ctx.session = some session ∧ a = session.clientAddr := by
  have old : ∀ {evs : List Event} {who : Caller}, (∀ e ∈ evs, e.caller = who) → who ≠ .pump →
      .clientWrite b d a ok ∈ s.log ++ evs → .clientWrite b d a ok ∈ s.log :=
    fun all other mem => (List.mem_append.mp mem).resolve_right fun new => other (all _ new).symm
  cases move with
  | connect o _ _ => exact .inl (old onConnect_caller (by decide) mem)
  | packet _ _ move => exact .inl (old move.caller (by decide) mem)
  | pump _ _ attached move =>
    exact (List.mem_append.mp mem).imp id fun new => ⟨_, attached, move.client_address new⟩
  | disconnect _ _ move => exact .inl (old move.caller (by simp) mem)
  | packetPanic | pumpPanic | migrate => exact .inl mem

/-- `backendToClient` keeps the pool discipline over every run and every
interleaving. Replayed over its calls, the discipline never breaks and holds
exactly the buffer in hand: no buffer is used after its `PutBuffer`, none is put
twice. Every buffer got was put back but the one in hand, and once the pump
returned, its `GetBuffer` and `PutBuffer` calls balance. -/
theorem pump_buffers_balanced (reach : s.Reachable pool h ctx) :
    Holding.replay (trace .pump s.log) = s.pump.held ∧
      gets s.log = puts s.log + s.pump.held.count ∧
      ∀ e, s.pump = .returned e → gets s.log = puts s.log := by
  have held := (Sys.reachable_inv reach).pump.held
  have counts := replay_counts (trace .pump s.log) .free
    (show Holding.replay _ ≠ _ from held ▸ s.pump.held_ne_broken)
  rw [← Holding.replay, held, gets_trace, puts_trace] at counts
  refine ⟨held, by simpa [Holding.count] using counts, fun e returned => ?_⟩
  simpa [returned, PumpPC.held, PumpPC.buffer, Holding.count] using counts

/-- The pump that got, read and put one buffer, then returned. -/
theorem pump_buffers_balanced_after_timeout :
    timedOutSys.Reachable minimalPool ⟨0⟩ clientCtx ∧
      (Holding.replay (trace .pump timedOutSys.log) = timedOutSys.pump.held ∧
        gets timedOutSys.log = puts timedOutSys.log + timedOutSys.pump.held.count ∧
        ∀ e, timedOutSys.pump = .returned e → gets timedOutSys.log = puts timedOutSys.log) :=
  ⟨timedOutSys_reachable, pump_buffers_balanced timedOutSys_reachable⟩

/-- Why `backendToClient` returns: a read error (the read deadline included), a
client write error, or the closed flag, which is then set. -/
theorem pump_exit_reasons (reach : s.Reachable pool h ctx) :
    ∀ e, s.pump = .returned e → e = .readError ∨ e = .writeError ∨
      ∃ session, s.ctx.session = some session ∧ session.closed = true := by
  intro e returned
  have closedExit := (Sys.reachable_inv reach).closedExit
  rw [returned] at closedExit
  cases e with
  | closed => exact .inr (.inr (closedExit (.inl rfl)))
  | closedAfterRead => exact .inr (.inr (closedExit (.inr rfl)))
  | readError => exact .inl rfl
  | writeError => exact .inr (.inl rfl)

/-- The only panic of a connection's tasks is `OnPacket`'s `packet[0]` on an
empty `Inbound` datagram: the pump's index never fails. -/
theorem panic_only_on_empty_inbound (reach : s.Reachable pool h ctx) :
    s.panicked = true → s.packet = .logging [] :=
  (Sys.reachable_inv reach).panicked

/-- The connection whose `OnPacket` panicked on an empty datagram. -/
theorem panic_only_on_empty_inbound_after_empty_datagram :
    panickedSys.Reachable minimalPool ⟨0⟩ clientCtx ∧
      (panickedSys.panicked = true → panickedSys.packet = .logging []) :=
  ⟨panickedSys_reachable, panic_only_on_empty_inbound panickedSys_reachable⟩

end

/-! ### Runs that break the contract -/

section
variable {pool : Pool} {s : Sys} {session : Session}

/-- A backend read error ends the pump while the session stays open, from every
reachable state with the pump at its loop and the listen task idle; the expiry
of the five-minute read deadline is such an error. `backendToClient` returns
with the session attached and its closed flag clear, and takes no step again,
so nothing reads the backend's replies, while `OnPacket` still writes every
`Inbound` datagram to the backend. -/
theorem pump_returns_while_open {h : ForwarderHandler} {ctx : Context}
    (reach : s.Reachable pool h ctx) (alive : s.panicked = false)
    (connected : s.connected.isSome) (attached : s.ctx.session = some session)
    (unclosed : session.closed = false) (looping : s.pump = .loop) (idle : s.packet = .idle)
    (b : Nat) (err : String) {p : Bytes} (nonempty : p ≠ []) :
    ∃ s', s.run pool [.pump .check, .pump (.acquire ⟨b, List.replicate pool.size 0⟩),
        .pump (.read (.error err)), .pump .release] = some s' ∧
      s'.Reachable pool h ctx ∧ s'.pump = .returned .readError ∧
      s'.ctx.session = some session ∧ (∀ a, s'.next pool (.pump a) = none) ∧
      s'.run pool [.packet (.call p .Inbound), .packet .touch, .packet .index,
          .packet (.write (.ok ()))] =
        some { s' with packet := .idle, log := s'.log ++ [.touch .onPacket,
          .backendWrite .onPacket session.backendConn p true,
          .packetResult p .Inbound Result.handled] } := by
  have ran : s.run pool _ = _ := pump_stops_on_read_error b err alive connected attached unclosed looping
  refine ⟨_, ran, Sys.run_reachable reach ran, rfl, attached, fun a => ?_,
    inbound_forwarded alive connected attached unclosed idle nonempty⟩
  cases a <;> simp [Sys.next, alive, Option.isSome_iff_ne_none.mp connected, attached,
    ForwarderHandler.backendToClient]

/-- The connection right after `OnConnect`: its backend read times out, and the
client's next datagram `0x01` still goes to the backend. -/
theorem pump_returns_while_open_on_timeout :
    connectedSys.Reachable minimalPool ⟨0⟩ clientCtx ∧ connectedSys.panicked = false ∧
      connectedSys.connected.isSome ∧ connectedSys.ctx.session = some clientSession ∧
      clientSession.closed = false ∧ connectedSys.pump = .loop ∧ connectedSys.packet = .idle ∧
      [(1 : UInt8)] ≠ [] ∧
      ∃ s', connectedSys.run minimalPool [.pump .check,
          .pump (.acquire ⟨0, List.replicate minimalPool.size 0⟩),
          .pump (.read (.error "i/o timeout")), .pump .release] = some s' ∧
        s'.Reachable minimalPool ⟨0⟩ clientCtx ∧ s'.pump = .returned .readError ∧
        s'.ctx.session = some clientSession ∧ (∀ a, s'.next minimalPool (.pump a) = none) ∧
        s'.run minimalPool [.packet (.call [1] .Inbound), .packet .touch, .packet .index,
            .packet (.write (.ok ()))] =
          some { s' with packet := .idle, log := s'.log ++ [.touch .onPacket,
            .backendWrite .onPacket clientSession.backendConn [1] true,
            .packetResult [1] .Inbound Result.handled] } :=
  ⟨connectedSys_reachable, rfl, rfl, rfl, rfl, rfl, rfl, by simp,
    pump_returns_while_open connectedSys_reachable rfl rfl rfl rfl rfl rfl 0 "i/o timeout"
      (by simp)⟩

/-- From any state with the session open and the listen task idle, an empty
`Inbound` datagram panics: `OnPacket` passes the nil and `IsClosed` checks,
touches the session, and indexes `packet[0]` for `debug.Printf`. -/
theorem empty_inbound_panics (alive : s.panicked = false) (connected : s.connected.isSome)
    (attached : s.ctx.session = some session) (unclosed : session.closed = false)
    (idle : s.packet = .idle) :
    s.run pool [.packet (.call [] .Inbound), .packet .touch, .packet .index] =
      some { s with packet := .logging [], log := s.log ++ [.touch .onPacket], panicked := true } := by
  simp [Sys.run, Sys.next, ForwarderHandler.onPacket, alive, Option.isSome_iff_ne_none.mp connected,
    attached, unclosed, idle, Except.map]

/-- The connection right after `OnConnect` receives an empty datagram. -/
theorem empty_inbound_panics_after_connect :
    connectedSys.Reachable minimalPool ⟨0⟩ clientCtx ∧ connectedSys.panicked = false ∧
      connectedSys.connected.isSome ∧ connectedSys.ctx.session = some clientSession ∧
      clientSession.closed = false ∧ connectedSys.packet = .idle ∧
      connectedSys.run minimalPool [.packet (.call [] .Inbound), .packet .touch, .packet .index] =
        some { connectedSys with
          packet := .logging [], log := connectedSys.log ++ [.touch .onPacket], panicked := true } :=
  ⟨connectedSys_reachable, rfl, rfl, rfl, rfl, rfl, empty_inbound_panics rfl rfl rfl rfl rfl⟩

/-- The use-after-close race: from any state with the session open, the listen
task idle and an `OnDisconnect` caller `n` not started, `OnPacket` passes its
`IsClosed` check, `OnDisconnect` wins the compare-and-swap and closes the
backend socket, and `OnPacket` then touches the session and writes the datagram
to the closed socket. -/
theorem write_after_close {p : Bytes} {n : Nat} {e : String} (alive : s.panicked = false)
    (connected : s.connected.isSome) (attached : s.ctx.session = some session)
    (unclosed : session.closed = false) (idle : s.packet = .idle)
    (waiting : s.disconnects n = .idle) (nonempty : p ≠ []) :
    ∃ s', s.run pool [.packet (.call p .Inbound), .disconnect n .call, .disconnect n .close,
        .packet .touch, .packet .index, .packet (.write (.error e))] = some s' ∧
      s'.ctx.session = some { session with closed := true } ∧
      s'.log = s.log ++ [.backendClose (.onDisconnect n) session.backendConn, .touch .onPacket,
        .backendWrite .onPacket session.backendConn p false,
        .packetResult p .Inbound (Result.drop e)] := by
  obtain ⟨x, rest, rfl⟩ := List.exists_cons_of_ne_nil nonempty
  have checked : ForwarderHandler.onPacket (some session) .idle (.call (x :: rest) .Inbound) =
      some (.ok (.touching (x :: rest) .Inbound, [])) := by
    simp [ForwarderHandler.onPacket, unclosed]
  have won : ForwarderHandler.onDisconnect n (some session) .idle .call =
      some (.closing session.backendConn, some { session with closed := true }, []) := by
    simp [ForwarderHandler.onDisconnect, Session.close, unclosed]
  have closed : ForwarderHandler.onDisconnect n (some { session with closed := true })
      (.closing session.backendConn) .close = some (.done, some { session with closed := true },
        [.backendClose (.onDisconnect n) session.backendConn]) := rfl
  have touched : ForwarderHandler.onPacket (some { session with closed := true })
      (.touching (x :: rest) .Inbound) .touch =
      some (.ok (.logging (x :: rest), [.touch .onPacket])) := rfl
  have indexed : ∀ session : Option Session,
      ForwarderHandler.onPacket session (.logging (x :: rest)) .index =
        some (.ok (.writing (x :: rest), [])) := by
    simp [ForwarderHandler.onPacket, Except.map]
  have written : ForwarderHandler.onPacket (some { session with closed := true }) (.writing (x :: rest))
      (.write (.error e)) = some (.ok (.idle,
        [.backendWrite .onPacket session.backendConn (x :: rest) false,
          .packetResult (x :: rest) .Inbound (Result.drop e)])) := rfl
  simp [Sys.run, Sys.next, alive, Option.isSome_iff_ne_none.mp connected, attached, idle, waiting,
    checked, won, closed, touched, indexed, written]

/-- The connection right after `OnConnect` receives the datagram `0x01` while
the idle sweeper disconnects it. -/
theorem write_after_close_after_connect :
    connectedSys.Reachable minimalPool ⟨0⟩ clientCtx ∧ connectedSys.panicked = false ∧
      connectedSys.connected.isSome ∧ connectedSys.ctx.session = some clientSession ∧
      clientSession.closed = false ∧ connectedSys.packet = .idle ∧
      connectedSys.disconnects 0 = .idle ∧ [(1 : UInt8)] ≠ [] ∧
      ∃ s', connectedSys.run minimalPool [.packet (.call [1] .Inbound), .disconnect 0 .call,
          .disconnect 0 .close, .packet .touch, .packet .index,
          .packet (.write (.error "use of closed network connection"))] = some s' ∧
        s'.ctx.session = some { clientSession with closed := true } ∧
        s'.log = connectedSys.log ++ [.backendClose (.onDisconnect 0) clientSession.backendConn,
          .touch .onPacket, .backendWrite .onPacket clientSession.backendConn [1] false,
          .packetResult [1] .Inbound (Result.drop "use of closed network connection")] :=
  ⟨connectedSys_reachable, rfl, rfl, rfl, rfl, rfl, rfl, by simp,
    write_after_close rfl rfl rfl rfl rfl rfl (by simp)⟩

/-- The double close: whenever the initial write fails, `OnConnect` closes the
socket it dialed and returns `Drop` with the session attached and its closed
flag clear; an `OnDisconnect` then wins the compare-and-swap and closes the
same socket again. -/
theorem initial_write_failure_closes_twice {h : ForwarderHandler} {ctx : Context} {a : UDPAddr}
    {c : UDPConn} {e : String} {n : Nat} (routed : ctx.getString "backend" ≠ "")
    (nonempty : ctx.initialPacket ≠ []) :
    ∃ s, (Sys.init h ctx).run pool [.connect ⟨.ok a, .ok c, .error e⟩, .disconnect n .call,
        .disconnect n .close] = some s ∧
      s.connected = some (Result.drop e) ∧
      s.log = [.dial c, .backendWrite .onConnect c ctx.initialPacket false,
        .backendClose .onConnect c, .backendClose (.onDisconnect n) c] := by
  simp [Sys.run, Sys.next, Sys.init, ForwarderHandler.onConnect, ForwarderHandler.onDisconnect,
    Session.close, routed, nonempty, List.length_pos]

/-- `clientCtx` whose backend refuses the initial datagram. -/
theorem initial_write_failure_closes_twice_for_client :
    clientCtx.getString "backend" ≠ "" ∧ clientCtx.initialPacket ≠ [] ∧
      ∃ s, (Sys.init ⟨0⟩ clientCtx).run minimalPool
          [.connect ⟨.ok ⟨"127.0.0.1", 9⟩, .ok ⟨3⟩, .error "connection refused"⟩,
            .disconnect 0 .call, .disconnect 0 .close] = some s ∧
        s.connected = some (Result.drop "connection refused") ∧
        s.log = [.dial ⟨3⟩, .backendWrite .onConnect ⟨3⟩ clientCtx.initialPacket false,
          .backendClose .onConnect ⟨3⟩, .backendClose (.onDisconnect 0) ⟨3⟩] :=
  ⟨by decide, by decide, initial_write_failure_closes_twice (by decide) (by decide)⟩

end
end QuicRelay
