import QuicRelay.Forwarder.Connect

/-!
The life of one session, as an interleaving of the tasks that share it.

After `OnConnect` (one step: the context is not shared before it returns), the
tasks interleave freely: the listen task's `OnPacket` calls, one after another;
any number of `OnDisconnect` calls from other tasks (idle sweeper, shutdown, a
dropped packet), each its own task; the `backendToClient` pump; and the proxy's
`SetClientAddr`. Each task's code is a step function from its program point,
as fine as the code's atomic operations and socket calls: `IsClosed`, the
`Close` compare-and-swap, `Touch`, `GetBuffer`, `PutBuffer`, each socket call,
and the eagerly evaluated index of each `debug.Printf`. The environment picks
every outcome: the bytes a read returns, and the error of every call.

A panic stops the process: `panicked` is set and no step follows.
-/

namespace QuicRelay

/-- Modelled from the spec: the buffer pool's buffers have one fixed size, at
least 65535 bytes (§3 Buffer, §4.2). -/
structure Pool where
  size : Nat
  size_ge : 65535 ≤ size

/-- A pooled buffer: its identity in the pool and its bytes. -/
structure Buffer where
  id : Nat
  data : Bytes
deriving DecidableEq, Repr

/-- Why `backendToClient` returned. -/
inductive PumpExit where
  | closed
  | readError
  | closedAfterRead
  | writeError
deriving DecidableEq, Repr

/-- Program points of `backendToClient`, with the locals live at each. -/
inductive PumpPC where
  | idle
  | loop
  | acquiring
  | reading (buf : Buffer)
  | rechecking (buf : Buffer) (n : Nat)
  | touching (buf : Buffer) (n : Nat)
  | notifying (buf : Buffer) (n : Nat)
  | logging (buf : Buffer) (n : Nat)
  | writing (buf : Buffer) (n : Nat)
  | releasing (buf : Buffer) (exit : Option PumpExit)
  | returned (exit : PumpExit)
deriving DecidableEq, Repr

/-- The pump's next operation, with the environment's answer. -/
inductive PumpAction where
  | check
  | acquire (b : Buffer)
  | read (r : Except String Bytes)
  | recheck
  | touch
  | notify
  | index
  | write (r : Except String Unit)
  | release

/-- One step of `backendToClient` from `pc`: the next program point and the
calls made, `.error` for a panic, `none` when the step cannot be taken. `GetBuffer`
hands out a buffer of the pool's size; `Read` fills at most the whole buffer. -/
def ForwarderHandler.backendToClient (pool : Pool) (session : Session) (proxyConn : Bool) :
    PumpPC → PumpAction → Option (Except Panic (PumpPC × List Event))
  | .loop, .check =>
    some (.ok (if session.closed then (.returned .closed, []) else (.acquiring, [])))
  | .acquiring, .acquire b =>
    if b.data.length = pool.size then some (.ok (.reading b, [.getBuffer b.id])) else none
  | .reading b, .read (.error _) =>
    some (.ok (.releasing b (some .readError), [.readFailed b.id]))
  | .reading b, .read (.ok d) =>
    if d.length ≤ b.data.length then
      some (.ok (.rechecking ⟨b.id, d ++ b.data.drop d.length⟩ d.length, [.backendRead b.id d]))
    else none
  | .rechecking b n, .recheck =>
    some (.ok (if session.closed then (.releasing b (some .closedAfterRead), [])
      else (.touching b n, [])))
  | .touching b n, .touch => some (.ok (.notifying b n, [.touch .pump]))
  | .notifying b n, .notify => some (.ok (.logging b n, [.notify b.id (b.data.take n)]))
  | .logging b n, .index => some ((index b.data 0).map fun _ => (.writing b n, []))
  | .writing b n, .write r =>
    some (.ok (if proxyConn then
      match r with
      | .ok () => (.releasing b none, [.clientWrite b.id (b.data.take n) session.clientAddr true])
      | .error _ =>
        (.releasing b (some .writeError), [.clientWrite b.id (b.data.take n) session.clientAddr false])
      else (.releasing b none, [])))
  | .releasing b exit, .release =>
    some (.ok ((match exit with | none => .loop | some e => .returned e), [.putBuffer b.id]))
  | _, _ => none

/-- Program points of the listen task inside `OnPacket`. -/
inductive PacketPC where
  | idle
  | touching (p : Bytes) (dir : Direction)
  | logging (p : Bytes)
  | writing (p : Bytes)
deriving DecidableEq, Repr

/-- The listen task's next operation in `OnPacket`. -/
inductive PacketAction where
  | call (p : Bytes) (dir : Direction)
  | touch
  | index
  | write (r : Except String Unit)

/-- One step of `OnPacket` on the listen task: the nil check and `IsClosed`,
`Touch`, the `packet[0]` of `debug.Printf`, and the backend `Write`. -/
def ForwarderHandler.onPacket (session : Option Session) :
    PacketPC → PacketAction → Option (Except Panic (PacketPC × List Event))
  | .idle, .call p dir =>
    some (.ok (match session with
      | none => (.idle, [.packetResult p dir (Result.drop "no session")])
      | some s =>
        if s.closed then (.idle, [.packetResult p dir ⟨.Drop, none⟩]) else (.touching p dir, [])))
  | .touching p dir, .touch =>
    some (.ok (match dir with
      | .Inbound => (.logging p, [.touch .onPacket])
      | .Outbound => (.idle, [.touch .onPacket, .packetResult p .Outbound Result.handled])))
  | .logging p, .index => some ((index p 0).map fun _ => (.writing p, []))
  | .writing p, .write r =>
    session.map fun s => .ok (.idle, match r with
      | .ok () => [.backendWrite .onPacket s.backendConn p true,
          .packetResult p .Inbound Result.handled]
      | .error e => [.backendWrite .onPacket s.backendConn p false,
          .packetResult p .Inbound (Result.drop e)])
  | _, _ => none

/-- Program points of one `OnDisconnect` call. -/
inductive DisconnectPC where
  | idle
  | closing (c : UDPConn)
  | done
deriving DecidableEq, Repr

/-- An `OnDisconnect` call's next operation. -/
inductive DisconnectAction where
  | call
  | close

/-- One step of `OnDisconnect` for caller `n`: the nil check and the `Close`
compare-and-swap, then, for the winner, `BackendConn.Close()`. Returns the
program point, the session after the step and the calls made. -/
def ForwarderHandler.onDisconnect (n : Nat) (session : Option Session) :
    DisconnectPC → DisconnectAction → Option (DisconnectPC × Option Session × List Event)
  | .idle, .call =>
    some (match session with
      | none => (.done, none, [])
      | some s =>
        match s.close with
        | (true, s') => (.closing s.backendConn, some s', [])
        | (false, _) => (.done, some s, []))
  | .closing c, .close => some (.done, session, [.backendClose (.onDisconnect n) c])
  | _, _ => none

/-- The state of one connection's session and of every task that touches it. -/
structure Sys where
  handler : ForwarderHandler
  ctx : Context
  connected : Option Result
  packet : PacketPC
  pump : PumpPC
  disconnects : Nat → DisconnectPC
  log : List Event
  panicked : Bool

/-- A new connection's context, before `OnConnect`: no session yet. -/
def Sys.init (h : ForwarderHandler) (ctx : Context) : Sys :=
  ⟨h, { ctx with session := none }, none, .idle, .idle, fun _ => .idle, [], false⟩

/-- A step of some task. -/
inductive Step where
  | connect (o : ConnectOutcome)
  | packet (a : PacketAction)
  | pump (a : PumpAction)
  | disconnect (n : Nat) (a : DisconnectAction)
  | migrate (a : UDPAddr)

/-- The interleaving: `OnConnect` first, then any task's next step. -/
def Sys.next (pool : Pool) (s : Sys) : Step → Option Sys
  | .connect o =>
    if s.panicked ∨ s.connected.isSome then none
    else
      let r := s.handler.onConnect s.ctx o
      some { s with
        handler := r.handler, ctx := r.ctx, connected := some r.result,
        log := s.log ++ r.events, pump := if r.pump then .loop else .idle }
  | .packet a =>
    if s.panicked ∨ s.connected.isNone then none
    else (ForwarderHandler.onPacket s.ctx.session s.packet a).map fun
      | .ok (pc, evs) => { s with packet := pc, log := s.log ++ evs }
      | .error _ => { s with panicked := true }
  | .pump a =>
    if s.panicked ∨ s.connected.isNone then none
    else match s.ctx.session with
      | none => none
      | some session => (ForwarderHandler.backendToClient pool session s.ctx.proxyConn s.pump a).map fun
        | .ok (pc, evs) => { s with pump := pc, log := s.log ++ evs }
        | .error _ => { s with panicked := true }
  | .disconnect n a =>
    if s.panicked ∨ s.connected.isNone then none
    else (ForwarderHandler.onDisconnect n s.ctx.session (s.disconnects n) a).map fun (pc, session, evs) =>
      { s with
        ctx := { s.ctx with session := session },
        disconnects := Function.update s.disconnects n pc, log := s.log ++ evs }
  | .migrate a =>
    if s.panicked ∨ s.connected.isNone then none
    else s.ctx.session.map fun session =>
      { s with ctx := { s.ctx with session := some { session with clientAddr := a } } }

/-- The states one connection can reach. -/
inductive Sys.Reachable (pool : Pool) (h : ForwarderHandler) (ctx : Context) : Sys → Prop
  | init : Sys.Reachable pool h ctx (Sys.init h ctx)
  | step {s s' : Sys} {st : Step} : Sys.Reachable pool h ctx s → s.next pool st = some s' →
      Sys.Reachable pool h ctx s'

/-- Steps in order. -/
def Sys.run (pool : Pool) : Sys → List Step → Option Sys
  | s, [] => some s
  | s, st :: rest => (s.next pool st).bind (Sys.run pool · rest)

theorem Sys.run_reachable {pool : Pool} {h : ForwarderHandler} {ctx : Context} :
    ∀ {s s' : Sys} {steps : List Step}, s.Reachable pool h ctx → s.run pool steps = some s' →
      s'.Reachable pool h ctx
  | s, s', [], reach, ran => by cases ran; exact reach
  | s, s', st :: rest, reach, ran => by
    simp only [Sys.run, Option.bind_eq_some] at ran
    obtain ⟨s₁, step, ran⟩ := ran
    exact Sys.run_reachable (.step reach step) ran

end QuicRelay
