import QuicRelay.Forwarder.Packet

/-!
The invariant of one connection over every interleaving of its tasks.

`SysMove` says what one step of `Sys.next` can do (`Sys.next_move`), in terms
of the moves of each task. `Sys.Inv` holds of every reachable state
(`Sys.reachable_inv`):

* the pump's invariant over its trace (`PumpInv`) and `OnPacket`'s (`PacketInv`);
* the pump leaves its loop for the closed flag only once the flag is set;
* after a `Handled` connect, the datagrams written with success to the backend
  socket are the initial packet and the `Inbound` datagrams `OnPacket` returned
  `Handled` for;
* a panic is `OnPacket`'s index into an empty `Inbound` datagram.
-/

namespace QuicRelay

/-- What one step of the interleaving can do. -/
inductive SysMove (pool : Pool) : Sys → Sys → Prop
  | connect {s : Sys} (o : ConnectOutcome) : s.panicked = false → s.connected = none →
      SysMove pool s { s with
        handler := (s.handler.onConnect s.ctx o).handler, ctx := (s.handler.onConnect s.ctx o).ctx,
        connected := some (s.handler.onConnect s.ctx o).result,
        log := s.log ++ (s.handler.onConnect s.ctx o).events,
        pump := if (s.handler.onConnect s.ctx o).pump then .loop else .idle }
  | packet {s : Sys} {pc : PacketPC} {evs : List Event} : s.panicked = false →
      s.connected.isSome → PacketMove s.ctx.session s.packet pc evs →
      SysMove pool s { s with packet := pc, log := s.log ++ evs }
  | packetPanic {s : Sys} : s.panicked = false → s.connected.isSome → s.packet = .logging [] →
      SysMove pool s { s with panicked := true }
  | pump {s : Sys} {session : Session} {pc : PumpPC} {evs : List Event} : s.panicked = false →
      s.connected.isSome → s.ctx.session = some session →
      PumpMove pool session s.ctx.proxyConn s.pump pc evs →
      SysMove pool s { s with pump := pc, log := s.log ++ evs }
  | pumpPanic {s : Sys} {session : Session} {a : PumpAction} {p : Panic} : s.panicked = false →
      s.connected.isSome → s.ctx.session = some session →
      ForwarderHandler.backendToClient pool session s.ctx.proxyConn s.pump a = some (.error p) →
      SysMove pool s { s with panicked := true }
  | disconnect {s : Sys} {n : Nat} {pc : DisconnectPC} {session : Option Session}
      {evs : List Event} : s.panicked = false → s.connected.isSome →
      DisconnectMove n s.ctx.session (s.disconnects n) pc session evs →
      SysMove pool s { s with
        ctx := { s.ctx with session := session },
        disconnects := Function.update s.disconnects n pc, log := s.log ++ evs }
  | migrate {s : Sys} {session : Session} (a : UDPAddr) : s.panicked = false →
      s.connected.isSome → s.ctx.session = some session →
      SysMove pool s { s with ctx := { s.ctx with session := some { session with clientAddr := a } } }

/-- Every step of the interleaving is a `SysMove`. -/
theorem Sys.next_move {pool : Pool} {s s' : Sys} {st : Step} (step : s.next pool st = some s') :
    SysMove pool s s' := by
  have live : ¬(s.panicked = true ∨ s.connected.isNone = true) →
      s.panicked = false ∧ s.connected.isSome = true := by
    cases s.panicked <;> cases s.connected <;> simp
  cases st
  case connect o =>
    simp only [Sys.next] at step
    split at step
    · cases step
    · rename_i ok
      cases step
      exact .connect o (by simpa using (not_or.mp ok).1) (by simpa using (not_or.mp ok).2)
  -- every other task steps only in a live, connected system
  all_goals
    simp only [Sys.next] at step
    split at step
    · cases step
    rename_i ok
    obtain ⟨alive, connected⟩ := live ok
  case packet a =>
    obtain ⟨r, found, rfl⟩ := Option.map_eq_some'.mp step
    rcases r with p | ⟨pc, evs⟩
    · exact .packetPanic alive connected (onPacket_panic found)
    · exact .packet alive connected (onPacket_move found)
  case pump a =>
    cases session : s.ctx.session with
    | none => simp [session] at step
    | some session' =>
      simp only [session] at step
      obtain ⟨r, found, rfl⟩ := Option.map_eq_some'.mp step
      rcases r with p | ⟨pc, evs⟩
      · exact .pumpPanic alive connected session found
      · exact .pump alive connected session (backendToClient_move found)
  case disconnect n a =>
    obtain ⟨⟨pc, session, evs⟩, found, rfl⟩ := Option.map_eq_some'.mp step
    exact .disconnect alive connected (onDisconnect_move found)
  case migrate a =>
    obtain ⟨session, found, rfl⟩ := Option.map_eq_some'.mp step
    exact .migrate a alive connected found

/-! ### What each task's calls add to the log -/

section
variable {h : ForwarderHandler} {ctx : Context} {o : ConnectOutcome}

theorem onConnect_caller : ∀ e ∈ (h.onConnect ctx o).events, e.caller = .onConnect := by
  rcases onConnect_cases h ctx o with ⟨msg, eq⟩ | ⟨a, c, e, -, -, -, -, eq⟩ | ⟨a, c, -, -, eq⟩ <;>
    rw [eq] <;> simp [Event.caller]

theorem onConnect_proxyConn : (h.onConnect ctx o).ctx.proxyConn = ctx.proxyConn := by
  rcases onConnect_cases h ctx o with ⟨msg, eq⟩ | ⟨a, c, e, -, -, -, -, eq⟩ | ⟨a, c, -, -, eq⟩ <;>
    rw [eq]

/-- The initial writes of `OnConnect`: the initial packet, unless it is empty. -/
def initialWrites (ctx : Context) : List Bytes :=
  if ctx.initialPacket = [] then [] else [ctx.initialPacket]

/-- A `Handled` connect wrote the initial packet, unless empty, to the new
session's socket. -/
theorem onConnect_written (handled : (h.onConnect ctx o).result = Result.handled)
    {session : Session} (attached : (h.onConnect ctx o).ctx.session = some session) :
    backendWritten session.backendConn (h.onConnect ctx o).events = initialWrites ctx ∧
      handledInbound (h.onConnect ctx o).events = [] := by
  rcases onConnect_cases h ctx o with ⟨msg, eq⟩ | ⟨a, c, e, -, -, -, -, eq⟩ | ⟨a, c, -, -, eq⟩ <;>
    rw [eq] at handled attached ⊢
  · cases handled
  · cases handled
  · cases attached
    by_cases empty : ctx.initialPacket = [] <;>
      simp [empty, backendWritten, handledInbound, initialWrites]

end

section
variable {pool : Pool} {session : Session} {proxyConn : Bool} {pc pc' : PumpPC} {evs : List Event}

theorem PumpMove.quiet (move : PumpMove pool session proxyConn pc pc' evs) (c : UDPConn) :
    backendWritten c evs = [] ∧ handledInbound evs = [] := by
  cases move <;> exact ⟨rfl, rfl⟩

theorem DisconnectMove.quiet {n : Nat} {session session' : Option Session} {pc pc' : DisconnectPC}
    (move : DisconnectMove n session pc pc' session' evs) (c : UDPConn) :
    backendWritten c evs = [] ∧ handledInbound evs = [] := by
  cases move <;> exact ⟨rfl, rfl⟩

end

/-! ### The invariant -/

/-- What holds in every reachable state of one connection, from context `ctx`. -/
structure Sys.Inv (pool : Pool) (h : ForwarderHandler) (ctx : Context) (s : Sys) : Prop where
  fresh : s.connected = none → s = Sys.init h ctx
  proxyConn : s.ctx.proxyConn = ctx.proxyConn
  pump : PumpInv pool ctx.proxyConn s.pump (trace .pump s.log)
  packet : PacketInv s.packet (trace .onPacket s.log)
  closedExit : s.pump.exit = some .closed ∨ s.pump.exit = some .closedAfterRead →
    ∃ session, s.ctx.session = some session ∧ session.closed = true
  written : s.connected = some Result.handled → ∀ session, s.ctx.session = some session →
    backendWritten session.backendConn s.log = initialWrites ctx ++ handledInbound s.log
  panicked : s.panicked = true → s.packet = .logging []

section
variable {pool : Pool} {h : ForwarderHandler} {ctx : Context} {s : Sys}

theorem Sys.init_inv : (Sys.init h ctx).Inv pool h ctx where
  fresh _ := rfl
  proxyConn := rfl
  pump := PumpInv.idle pool ctx.proxyConn
  packet := ⟨trivial, trivial⟩
  closedExit := by simp [Sys.init, PumpPC.exit]
  written := by simp [Sys.init]
  panicked := by simp [Sys.init]

theorem trace_of_callers {who who' : Caller} {evs : List Event}
    (all : ∀ e ∈ evs, e.caller = who') (other : who' ≠ who) : trace who evs = [] :=
  trace_of_other fun e mem => all e mem ▸ other

theorem Sys.Inv.connect (inv : s.Inv pool h ctx) (o : ConnectOutcome)
    (fresh : s.connected = none) : Sys.Inv pool h ctx { s with
      handler := (s.handler.onConnect s.ctx o).handler, ctx := (s.handler.onConnect s.ctx o).ctx,
      connected := some (s.handler.onConnect s.ctx o).result,
      log := s.log ++ (s.handler.onConnect s.ctx o).events,
      pump := if (s.handler.onConnect s.ctx o).pump then .loop else .idle } := by
  obtain rfl := inv.fresh fresh
  have quiet : ∀ who, who ≠ .onConnect →
      trace who (h.onConnect { ctx with session := none } o).events = [] :=
    fun who ne => trace_of_callers onConnect_caller ne.symm
  refine ⟨by simp, onConnect_proxyConn, ?_, ?_, ?_, ?_, by simp [Sys.init]⟩
  · simp only [Sys.init, List.nil_append, quiet .pump (by decide)]
    split
    · exact (PumpInv.idle pool ctx.proxyConn).loop
    · exact PumpInv.idle pool ctx.proxyConn
  · simp only [Sys.init, List.nil_append, quiet .onPacket (by decide)]
    exact ⟨trivial, trivial⟩
  · split <;> simp [PumpPC.exit]
  · intro handled session attached
    simp only [Sys.init, List.nil_append] at handled attached ⊢
    have written := onConnect_written (Option.some.inj handled) attached
    rw [written.1, written.2, List.append_nil]
    rfl

theorem Sys.Inv.packet_move {pc : PacketPC} {evs : List Event} (inv : s.Inv pool h ctx)
    (alive : s.panicked = false) (connected : s.connected.isSome)
    (move : PacketMove s.ctx.session s.packet pc evs) :
    Sys.Inv pool h ctx { s with packet := pc, log := s.log ++ evs } where
  fresh none := by simp_all
  proxyConn := inv.proxyConn
  pump := by
    simpa only [trace_append, trace_of_callers move.caller (by decide : Caller.onPacket ≠ .pump),
      List.append_nil] using inv.pump
  packet := by
    simpa only [trace_append, trace_of_caller move.caller] using move.inv inv.packet
  closedExit := inv.closedExit
  written handled session attached := by
    rw [attached] at move
    simp only [backendWritten_append, handledInbound_append, inv.written handled session attached,
      move.backendWritten_eq, List.append_assoc]
  panicked := by simp_all

theorem Sys.Inv.pump_move {session : Session} {pc : PumpPC} {evs : List Event}
    (inv : s.Inv pool h ctx) (connected : s.connected.isSome)
    (attached : s.ctx.session = some session)
    (move : PumpMove pool session s.ctx.proxyConn s.pump pc evs) :
    Sys.Inv pool h ctx { s with pump := pc, log := s.log ++ evs } where
  fresh none := by simp_all
  proxyConn := inv.proxyConn
  pump := by
    rw [inv.proxyConn] at move
    simpa only [trace_append, trace_of_caller move.caller] using move.inv inv.pump
  packet := by
    simpa only [trace_append, trace_of_callers move.caller (by decide : Caller.pump ≠ .onPacket),
      List.append_nil] using inv.packet
  closedExit closedExit := by
    rcases move.exit_closed closedExit with same | closed
    · exact inv.closedExit (same ▸ closedExit)
    · exact ⟨session, attached, closed⟩
  written handled session attached := by
    simp only [backendWritten_append, handledInbound_append, inv.written handled session attached,
      (move.quiet session.backendConn).1, (move.quiet session.backendConn).2, List.append_nil]
  panicked := inv.panicked

theorem Sys.Inv.disconnect_move {n : Nat} {pc : DisconnectPC} {session : Option Session}
    {evs : List Event} (inv : s.Inv pool h ctx) (alive : s.panicked = false)
    (connected : s.connected.isSome)
    (move : DisconnectMove n s.ctx.session (s.disconnects n) pc session evs) :
    Sys.Inv pool h ctx { s with
      ctx := { s.ctx with session := session },
      disconnects := Function.update s.disconnects n pc, log := s.log ++ evs } where
  fresh none := by simp_all
  proxyConn := inv.proxyConn
  pump := by
    simpa only [trace_append, trace_of_callers move.caller (by simp : Caller.onDisconnect n ≠ .pump),
      List.append_nil] using inv.pump
  packet := by
    simpa only [trace_append,
      trace_of_callers move.caller (by simp : Caller.onDisconnect n ≠ .onPacket), List.append_nil]
      using inv.packet
  closedExit closedExit := by
    obtain ⟨old, attached, closed⟩ := inv.closedExit closedExit
    exact (attached ▸ move.keeps).closed closed
  written handled session' attached := by
    obtain rfl : session = some session' := attached
    obtain ⟨old, was, socket⟩ := move.keeps.socket
    simp only [backendWritten_append, handledInbound_append, socket, inv.written handled old was,
      (move.quiet old.backendConn).1, (move.quiet old.backendConn).2, List.append_nil]
  panicked := by simp_all

theorem Sys.Inv.migrate {session : Session} (inv : s.Inv pool h ctx) (a : UDPAddr)
    (alive : s.panicked = false) (connected : s.connected.isSome)
    (attached : s.ctx.session = some session) :
    Sys.Inv pool h ctx
      { s with ctx := { s.ctx with session := some { session with clientAddr := a } } } where
  fresh none := by simp_all
  proxyConn := inv.proxyConn
  pump := inv.pump
  packet := inv.packet
  closedExit closedExit := by
    obtain ⟨old, was, closed⟩ := inv.closedExit closedExit
    rw [attached, Option.some.injEq] at was
    exact ⟨_, rfl, was ▸ closed⟩
  written handled session' now := by
    cases now
    exact inv.written handled session attached
  panicked := by simp_all

theorem Sys.Inv.panic (inv : s.Inv pool h ctx) (connected : s.connected.isSome)
    (empty : s.packet = .logging []) : Sys.Inv pool h ctx { s with panicked := true } :=
  { inv with fresh := fun none => by simp_all, panicked := fun _ => empty }

/-- Every step keeps the invariant. -/
theorem SysMove.inv {s' : Sys} (move : SysMove pool s s') (inv : s.Inv pool h ctx) :
    s'.Inv pool h ctx := by
  cases move with
  | connect o _ fresh => exact inv.connect o fresh
  | packet alive connected move => exact inv.packet_move alive connected move
  | packetPanic _ connected empty => exact inv.panic connected empty
  | pump _ connected attached move => exact inv.pump_move connected attached move
  | pumpPanic _ _ _ step =>
    rw [inv.proxyConn] at step
    exact absurd step inv.pump.no_panic
  | disconnect alive connected move => exact inv.disconnect_move alive connected move
  | migrate a alive connected attached => exact inv.migrate a alive connected attached

/-- Every reachable state satisfies the invariant. -/
theorem Sys.reachable_inv (reach : s.Reachable pool h ctx) : s.Inv pool h ctx := by
  induction reach with
  | init => exact Sys.init_inv
  | step _ step ih => exact (Sys.next_move step).inv ih

end

end QuicRelay
