import QuicRelay.Forwarder.Runs

/-!
What the tasks of a connection can still do once its session is closed.

`Close` sets the flag that `OnPacket` and the pump check, but a task already
past its check carries on with the datagram it holds. From every reachable
state whose session is closed, over every continuation and interleaving:

* `pump_quiesces_after_close` — the pump takes at most six more steps and
  writes to the client at most once more, the datagram it held past its second
  `IsClosed`; unless the process panicked or the pump never started, its own
  steps take it to its return within those six;
* `backend_writes_after_close` — at most one more write reaches the backend
  socket, the `Inbound` datagram `OnPacket` held past its `IsClosed`, and none
  if `OnPacket` was idle.

Both bounds come from measures of a task's program point that each of its moves
lowers once the flag is set (`PumpMove.after_close`, `PacketMove.after_close`)
and no other task's move raises (`SysMove.after_close`).
-/

namespace QuicRelay

/-! ### Measures of the work left -/

/-- The pump's steps still to come once the session is closed: it finishes the
datagram in hand, puts its buffer back and returns at its next check. -/
def PumpPC.remaining : PumpPC → Nat
  | .idle | .returned _ => 0
  | .loop | .releasing _ (some _) => 1
  | .rechecking _ _ | .releasing _ none => 2
  | .reading _ | .writing _ _ => 3
  | .acquiring | .logging _ _ => 4
  | .notifying _ _ => 5
  | .touching _ _ => 6

/-- Whether the pump holds a datagram past its second `IsClosed`, still to be
written to the client. -/
def PumpPC.pendingWrites : PumpPC → Nat
  | .touching _ _ | .notifying _ _ | .logging _ _ | .writing _ _ => 1
  | _ => 0

/-- Whether `OnPacket` holds an `Inbound` datagram past its `IsClosed`, still to
be written to the backend. -/
def PacketPC.pendingWrites : PacketPC → Nat
  | .touching _ .Inbound | .logging _ | .writing _ => 1
  | _ => 0

theorem PumpPC.remaining_le (pc : PumpPC) : pc.remaining ≤ 6 := by
  unfold PumpPC.remaining
  split <;> omega

theorem PumpPC.pendingWrites_le (pc : PumpPC) : pc.pendingWrites ≤ 1 := by
  unfold PumpPC.pendingWrites
  split <;> omega

theorem PacketPC.pendingWrites_le (pc : PacketPC) : pc.pendingWrites ≤ 1 := by
  unfold PacketPC.pendingWrites
  split <;> omega

/-- A started pump with nothing left to do has returned. -/
theorem PumpPC.returned_of_remaining {pc : PumpPC} (started : pc ≠ .idle)
    (done : pc.remaining = 0) : ∃ e, pc = .returned e := by
  cases pc <;> simp_all [PumpPC.remaining]
  rename_i e
  cases e <;> simp [PumpPC.remaining] at done

/-- The client writes of a log, failed ones included. -/
def clientWrites (log : List Event) : Nat :=
  log.countP fun | .clientWrite .. => true | _ => false

/-- The backend writes of a log, failed ones included. -/
def backendWrites (log : List Event) : Nat :=
  log.countP fun | .backendWrite .. => true | _ => false

@[simp] theorem clientWrites_nil : clientWrites [] = 0 := rfl

@[simp] theorem backendWrites_nil : backendWrites [] = 0 := rfl

@[simp] theorem clientWrites_append (log log' : List Event) :
    clientWrites (log ++ log') = clientWrites log + clientWrites log' :=
  List.countP_append _ _ _

@[simp] theorem backendWrites_append (log log' : List Event) :
    backendWrites (log ++ log') = backendWrites log + backendWrites log' :=
  List.countP_append _ _ _

/-- Whether a step is the pump's. -/
def Step.isPump : Step → Bool
  | .pump _ => true
  | _ => false

/-! ### One step -/

section
variable {pool : Pool} {session : Session} {proxyConn : Bool} {evs : List Event}

/-- Once the session is closed, every move of the pump brings it closer to its
return, and a client write uses up the datagram held past the second check. -/
theorem PumpMove.after_close {pc pc' : PumpPC} (move : PumpMove pool session proxyConn pc pc' evs)
    (closed : session.closed = true) :
    pc'.remaining < pc.remaining ∧ clientWrites evs + pc'.pendingWrites ≤ pc.pendingWrites ∧
      backendWrites evs = 0 := by
  cases move
  case checkOpen opened => simp [opened] at closed
  case recheckOpen _ _ opened => simp [opened] at closed
  -- every measure at a constructor is a numeral, every count of a listed call too
  all_goals exact ⟨Nat.le_of_ble_eq_true rfl, Nat.le_of_ble_eq_true rfl, rfl⟩

theorem PumpMove.ne_idle {pc pc' : PumpPC} (move : PumpMove pool session proxyConn pc pc' evs) :
    pc' ≠ .idle := by
  cases move <;> simp

/-- Once the session is closed, `OnPacket` admits no datagram, and a backend
write uses up the one held past the check. -/
theorem PacketMove.after_close {pc pc' : PacketPC} (move : PacketMove (some session) pc pc' evs)
    (closed : session.closed = true) :
    backendWrites evs + pc'.pendingWrites ≤ pc.pendingWrites ∧ clientWrites evs = 0 := by
  cases move
  case admitted _ _ opened => simp [opened] at closed
  all_goals exact ⟨Nat.le_of_ble_eq_true rfl, rfl⟩

theorem DisconnectMove.no_writes {n : Nat} {session₀ session' : Option Session}
    {pc pc' : DisconnectPC} (move : DisconnectMove n session₀ pc pc' session' evs) :
    clientWrites evs = 0 ∧ backendWrites evs = 0 := by
  cases move <;> exact ⟨rfl, rfl⟩

/-- The pump's next operation once the session is closed, with answers the
environment can always give: a buffer of the pool's size, a read that fails on
the closed socket, a write that succeeds. -/
def PumpPC.closingAction (pool : Pool) : PumpPC → PumpAction
  | .acquiring => .acquire ⟨0, List.replicate pool.size 0⟩
  | .reading _ => .read (.error "use of closed network connection")
  | .rechecking _ _ => .recheck
  | .touching _ _ => .touch
  | .notifying _ _ => .notify
  | .logging _ _ => .index
  | .writing _ _ => .write (.ok ())
  | .releasing _ _ => .release
  | _ => .check

/-- Until it returns, the pump can always take its next step: the buffer in
hand has the pool's size, so its index cannot fail. -/
theorem backendToClient_closingAction {pc : PumpPC} (started : pc ≠ .idle) (running : 0 < pc.remaining)
    (sized : ∀ b, pc.buffer = some b → b.data.length = pool.size) :
    ∃ pc' evs, ForwarderHandler.backendToClient pool session proxyConn pc (pc.closingAction pool) =
      some (.ok (pc', evs)) := by
  cases pc with
  | idle => contradiction
  | returned e => simp [PumpPC.remaining] at running
  | acquiring => simp [ForwarderHandler.backendToClient, PumpPC.closingAction]
  | logging b n =>
    obtain ⟨id, _ | ⟨x, rest⟩⟩ := b
    · have empty := sized _ rfl
      have := pool.size_ge
      simp only [List.length_nil] at empty
      omega
    · simp [ForwarderHandler.backendToClient, PumpPC.closingAction, Except.map]
  | writing b n => cases proxyConn <;> simp [ForwarderHandler.backendToClient, PumpPC.closingAction]
  | _ => exact ⟨_, _, rfl⟩

end

section
variable {pool : Pool} {h : ForwarderHandler} {ctx : Context} {s s' : Sys} {session : Session}

/-- A session is attached only after `OnConnect`. -/
theorem Sys.Inv.connected_of_attached (inv : s.Inv pool h ctx)
    (attached : s.ctx.session = some session) : s.connected.isSome := by
  cases connected : s.connected with
  | none =>
    rw [inv.fresh connected] at attached
    cases attached
  | some r => rfl

/-- One step of any task once the session is closed: the session stays closed,
the pump's measure does not grow, and each write uses up one that was
pending. -/
theorem SysMove.after_close (move : SysMove pool s s') (inv : s.Inv pool h ctx)
    (attached : s.ctx.session = some session) (closed : session.closed = true) :
    (∃ session', s'.ctx.session = some session' ∧ session'.closed = true) ∧
    ∃ evs, s'.log = s.log ++ evs ∧ s'.pump.remaining ≤ s.pump.remaining ∧
      clientWrites evs + s'.pump.pendingWrites ≤ s.pump.pendingWrites ∧
      backendWrites evs + s'.packet.pendingWrites ≤ s.packet.pendingWrites := by
  have still : ∃ session', s.ctx.session = some session' ∧ session'.closed = true :=
    ⟨session, attached, closed⟩
  cases move with
  | connect o _ fresh => exact absurd (inv.connected_of_attached attached) (by simp [fresh])
  | packet _ _ move =>
    rw [attached] at move
    obtain ⟨backend, client⟩ := move.after_close closed
    exact ⟨still, _, rfl, le_rfl, by simp [client], backend⟩
  | pump _ _ attached' move =>
    obtain rfl : session = _ := Option.some.inj (attached.symm.trans attached')
    obtain ⟨fewer, client, backend⟩ := move.after_close closed
    exact ⟨still, _, rfl, fewer.le, client, by simp [backend]⟩
  | disconnect _ _ move =>
    obtain ⟨client, backend⟩ := move.no_writes
    exact ⟨(attached ▸ move.keeps).closed closed, _, rfl, le_rfl, by simp [client],
      by simp [backend]⟩
  | migrate a _ _ attached' =>
    obtain rfl : session = _ := Option.some.inj (attached.symm.trans attached')
    exact ⟨⟨_, rfl, closed⟩, [], by simp, le_rfl, by simp, by simp⟩
  | packetPanic | pumpPanic => exact ⟨still, [], by simp, le_rfl, by simp, by simp⟩

/-- A step of the pump in a reachable state is a move of the pump: the
invariant rules out its panic. -/
theorem Sys.next_pump {a : PumpAction} (inv : s.Inv pool h ctx)
    (step : s.next pool (.pump a) = some s') :
    ∃ session pc evs, s.ctx.session = some session ∧
      PumpMove pool session s.ctx.proxyConn s.pump pc evs ∧
      s' = { s with pump := pc, log := s.log ++ evs } := by
  simp only [Sys.next] at step
  split at step
  · cases step
  cases attached : s.ctx.session with
  | none => simp [attached] at step
  | some session =>
    simp only [attached] at step
    obtain ⟨r, found, rfl⟩ := Option.map_eq_some'.mp step
    rcases r with p | ⟨pc, evs⟩
    · rw [inv.proxyConn] at found
      exact absurd found inv.pump.no_panic
    · exact ⟨session, pc, evs, rfl, backendToClient_move found, rfl⟩

/-- Over every continuation of a reachable state with the session closed, the
pump's steps and its measure together never exceed its measure at the start,
and each write uses up one that was pending at the start. -/
theorem Sys.run_after_close : ∀ {s s' : Sys} {steps : List Step} {session : Session},
    s.Reachable pool h ctx → s.ctx.session = some session → session.closed = true →
    s.run pool steps = some s' →
    ∃ evs, s'.log = s.log ++ evs ∧
      steps.countP Step.isPump + s'.pump.remaining ≤ s.pump.remaining ∧
      clientWrites evs + s'.pump.pendingWrites ≤ s.pump.pendingWrites ∧
      backendWrites evs + s'.packet.pendingWrites ≤ s.packet.pendingWrites
  | s, s', [], _, _, _, _, ran => by
    cases ran
    exact ⟨[], by simp, by simp, by simp, by simp⟩
  | s, s', st :: rest, session, reach, attached, closed, ran => by
    simp only [Sys.run, Option.bind_eq_some] at ran
    obtain ⟨s₁, step, ran⟩ := ran
    have inv := Sys.reachable_inv reach
    obtain ⟨⟨session₁, attached₁, closed₁⟩, evs₁, log₁, pump₁, client₁, backend₁⟩ :=
      (Sys.next_move step).after_close inv attached closed
    obtain ⟨evs₂, log₂, pump₂, client₂, backend₂⟩ :=
      Sys.run_after_close (.step reach step) attached₁ closed₁ ran
    -- a step of the pump lowers its measure
    have counted : (if st.isPump then 1 else 0) + s₁.pump.remaining ≤ s.pump.remaining := by
      cases st
      case pump a =>
        obtain ⟨session₀, pc, evs, attached₀, move, rfl⟩ := Sys.next_pump inv step
        obtain rfl : session = session₀ := Option.some.inj (attached.symm.trans attached₀)
        have := (move.after_close closed).1
        show 1 + pc.remaining ≤ s.pump.remaining
        omega
      all_goals simpa [Step.isPump] using pump₁
    refine ⟨evs₁ ++ evs₂, by rw [log₂, log₁, List.append_assoc], ?_, ?_, ?_⟩
    · rw [List.countP_cons]
      omega
    · rw [clientWrites_append]
      omega
    · rw [backendWrites_append]
      omega

/-- From a reachable state with the session closed, the pump alone reaches its
return, in no more steps than its measure. -/
theorem Sys.pump_closing_run {s : Sys} (reach : s.Reachable pool h ctx)
    (attached : s.ctx.session = some session) (closed : session.closed = true)
    (alive : s.panicked = false) (started : s.pump ≠ .idle) :
    ∃ steps s' e, s.run pool steps = some s' ∧ steps.length ≤ s.pump.remaining ∧
      (∀ st ∈ steps, st.isPump) ∧ s'.pump = .returned e := by
  by_cases done : s.pump.remaining = 0
  · obtain ⟨e, returned⟩ := PumpPC.returned_of_remaining started done
    exact ⟨[], s, e, rfl, Nat.zero_le _, by simp, returned⟩
  have inv := Sys.reachable_inv reach
  obtain ⟨pc, evs, found⟩ : ∃ pc evs, ForwarderHandler.backendToClient pool session
      s.ctx.proxyConn s.pump (s.pump.closingAction pool) = some (.ok (pc, evs)) :=
    backendToClient_closingAction started (Nat.pos_of_ne_zero done) inv.pump.sized
  have step : s.next pool (.pump (s.pump.closingAction pool)) =
      some { s with pump := pc, log := s.log ++ evs } := by
    simp [Sys.next, alive, Option.isSome_iff_ne_none.mp (inv.connected_of_attached attached),
      attached, found]
  have move := backendToClient_move found
  have fewer : pc.remaining < s.pump.remaining := (move.after_close closed).1
  obtain ⟨steps, s', e, ran, short, pumps, returned⟩ :=
    Sys.pump_closing_run (.step reach step) attached closed alive move.ne_idle
  exact ⟨.pump (s.pump.closingAction pool) :: steps, s', e, by simp [Sys.run, step, ran],
    by simp only [List.length_cons] at short ⊢; omega, by simpa [Step.isPump] using pumps,
    returned⟩
termination_by s.pump.remaining

end

/-! ### Over every continuation -/

section
variable {pool : Pool} {h : ForwarderHandler} {ctx : Context} {s : Sys} {session : Session}

/-- Once the session is closed, the pump winds down whatever the other tasks
do: every continuation holds at most six more steps of the pump and at most one
more client write, the datagram it held past its second `IsClosed`; and unless
the process panicked or the pump never started, its own steps take it to its
return within those six. -/
theorem pump_quiesces_after_close (reach : s.Reachable pool h ctx)
    (attached : s.ctx.session = some session) (closed : session.closed = true) :
    (∀ steps s', s.run pool steps = some s' →
      steps.countP Step.isPump ≤ 6 ∧ ∃ evs, s'.log = s.log ++ evs ∧ clientWrites evs ≤ 1) ∧
    (s.panicked = false → s.pump ≠ .idle →
      ∃ steps s' e, s.run pool steps = some s' ∧ steps.length ≤ 6 ∧
        (∀ st ∈ steps, st.isPump) ∧ s'.pump = .returned e) := by
  refine ⟨fun steps s' ran => ?_, fun alive started => ?_⟩
  · obtain ⟨evs, log, pumped, client, -⟩ := Sys.run_after_close reach attached closed ran
    have := s.pump.remaining_le
    have := s.pump.pendingWrites_le
    exact ⟨by omega, evs, log, by omega⟩
  · obtain ⟨steps, s', e, ran, short, pumps, returned⟩ :=
      Sys.pump_closing_run reach attached closed alive started
    exact ⟨steps, s', e, ran, short.trans s.pump.remaining_le, pumps, returned⟩

/-- Once the session is closed, at most one more write reaches the backend
socket in any continuation, whatever the tasks do: the `Inbound` datagram
`OnPacket` held past its `IsClosed` check, and none if `OnPacket` was idle. -/
theorem backend_writes_after_close (reach : s.Reachable pool h ctx)
    (attached : s.ctx.session = some session) (closed : session.closed = true) :
    ∀ steps s', s.run pool steps = some s' → ∃ evs, s'.log = s.log ++ evs ∧
      backendWrites evs ≤ 1 ∧ (s.packet = .idle → backendWrites evs = 0) := by
  intro steps s' ran
  obtain ⟨evs, log, -, -, backend⟩ := Sys.run_after_close reach attached closed ran
  have := s.packet.pendingWrites_le
  refine ⟨evs, log, by omega, fun idle => ?_⟩
  rw [idle] at backend
  exact Nat.eq_zero_of_le_zero (Nat.le_of_add_right_le backend)

end

/-! ### A closed connection -/

/-- The connection right after `OnConnect`, once the idle sweeper's
`OnDisconnect` won the compare-and-swap, before it closed the socket. -/
def sweptSys : Sys :=
  { connectedSys with
    ctx := { connectedSys.ctx with session := some { clientSession with closed := true } },
    disconnects := Function.update connectedSys.disconnects 0 (.closing ⟨3⟩) }

theorem sweptSys_reachable : sweptSys.Reachable minimalPool ⟨0⟩ clientCtx :=
  .step connectedSys_reachable
    (rfl : connectedSys.next minimalPool (.disconnect 0 .call) = some sweptSys)

/-- The sweeper closed the session while the pump waited at its loop head. -/
theorem pump_quiesces_after_close_swept :
    sweptSys.Reachable minimalPool ⟨0⟩ clientCtx ∧
      sweptSys.ctx.session = some { clientSession with closed := true } ∧
      ({ clientSession with closed := true } : Session).closed = true ∧
      (∀ steps s', sweptSys.run minimalPool steps = some s' →
        steps.countP Step.isPump ≤ 6 ∧
          ∃ evs, s'.log = sweptSys.log ++ evs ∧ clientWrites evs ≤ 1) ∧
      (sweptSys.panicked = false → sweptSys.pump ≠ .idle →
        ∃ steps s' e, sweptSys.run minimalPool steps = some s' ∧ steps.length ≤ 6 ∧
          (∀ st ∈ steps, st.isPump) ∧ s'.pump = .returned e) :=
  ⟨sweptSys_reachable, rfl, rfl, pump_quiesces_after_close sweptSys_reachable rfl rfl⟩

/-- The same, but `OnPacket` had passed its `IsClosed` check with the datagram
`0x01` when the sweeper won: the use-after-close race. -/
def racingSys : Sys := { sweptSys with packet := .touching [1] .Inbound }

theorem racingSys_reachable : racingSys.Reachable minimalPool ⟨0⟩ clientCtx :=
  have admitted : connectedSys.next minimalPool (.packet (.call [1] .Inbound)) =
      some { connectedSys with packet := .touching [1] .Inbound } := rfl
  have won : ({ connectedSys with packet := .touching [1] .Inbound } : Sys).next minimalPool
      (.disconnect 0 .call) = some racingSys := rfl
  .step (.step connectedSys_reachable admitted) won

/-- `OnPacket` held the datagram `0x01` past its check when the sweeper closed
the session. -/
theorem backend_writes_after_close_racing :
    racingSys.Reachable minimalPool ⟨0⟩ clientCtx ∧
      racingSys.ctx.session = some { clientSession with closed := true } ∧
      ({ clientSession with closed := true } : Session).closed = true ∧
      ∀ steps s', racingSys.run minimalPool steps = some s' →
        ∃ evs, s'.log = racingSys.log ++ evs ∧ backendWrites evs ≤ 1 ∧
          (racingSys.packet = .idle → backendWrites evs = 0) :=
  ⟨racingSys_reachable, rfl, rfl, backend_writes_after_close racingSys_reachable rfl rfl⟩

end QuicRelay
