import QuicRelay.Forwarder.Runs

/-!
Close-once on the success path (spec P1): after a `Handled` `OnConnect`, every
socket is closed at most once, over every interleaving of any number of
`OnDisconnect` calls with `OnPacket`, the pump and client migration
(`backend_closed_at_most_once`).

The compare-and-swap on the closed flag lets one `OnDisconnect` through. The
close of the session's socket goes from `active` (flag clear, nothing closed, no
caller closing) to `winning n` (flag set, caller `n` about to close) to
`closed` (the socket closed once, no caller closing). Every other step leaves
the phase alone (`ClosePhase.Holds.frame`).
-/

namespace QuicRelay

/-- `Close` calls on socket `c` in a log. -/
def closes (c : UDPConn) (log : List Event) : Nat :=
  log.countP fun | .backendClose _ c' => decide (c' = c) | _ => false

@[simp] theorem closes_append (c : UDPConn) (log log' : List Event) :
    closes c (log ++ log') = closes c log + closes c log' := List.countP_append _ _ _

/-- Where the close of the session's socket stands. -/
inductive ClosePhase where
  | active
  | winning (n : Nat)
  | closed

/-- What each phase says of the session, the log and the `OnDisconnect` callers. -/
def ClosePhase.Holds (session : Session) (s : Sys) : ClosePhase → Prop
  | .active => session.closed = false ∧ closes session.backendConn s.log = 0 ∧
      ∀ m c, s.disconnects m ≠ .closing c
  | .winning n => session.closed = true ∧ closes session.backendConn s.log = 0 ∧
      s.disconnects n = .closing session.backendConn ∧
      ∀ m c, s.disconnects m = .closing c → m = n
  | .closed => session.closed = true ∧ closes session.backendConn s.log = 1 ∧
      ∀ m c, s.disconnects m ≠ .closing c

/-- The close discipline of a `Handled` connection: the session's socket is in
some phase, and no other socket is ever closed. -/
def Sys.ClosesOnce (s : Sys) : Prop :=
  s.connected = some Result.handled → ∃ session phase, s.ctx.session = some session ∧
    ClosePhase.Holds session s phase ∧ ∀ c, c ≠ session.backendConn → closes c s.log = 0

/-- A step that keeps the callers, the closes, the socket and the flag keeps the
phase. -/
theorem ClosePhase.Holds.frame {session session' : Session} {s s' : Sys} {phase : ClosePhase}
    (holds : phase.Holds session s) (closed : session'.closed = session.closed)
    (socket : session'.backendConn = session.backendConn)
    (callers : s'.disconnects = s.disconnects) (log : ∀ c, closes c s'.log = closes c s.log) :
    phase.Holds session' s' := by
  cases phase <;> simp_all [ClosePhase.Holds]

section
variable {pool : Pool} {session : Session} {proxyConn : Bool} {evs : List Event}

theorem PumpMove.no_close {pc pc' : PumpPC} (move : PumpMove pool session proxyConn pc pc' evs)
    (c : UDPConn) : closes c evs = 0 := by
  cases move <;> rfl

theorem PacketMove.no_close {session : Option Session} {pc pc' : PacketPC}
    (move : PacketMove session pc pc' evs) (c : UDPConn) : closes c evs = 0 := by
  cases move <;> rfl

end

section
variable {pool : Pool} {h : ForwarderHandler} {ctx : Context} {s s' : Sys}

/-- A step that keeps the callers, every socket's closes, and the session's
socket and flag, keeps the discipline. -/
theorem Sys.ClosesOnce.frame (once : s.ClosesOnce) (connected : s'.connected = s.connected)
    (keep : ∀ session, s.ctx.session = some session → ∃ session', s'.ctx.session = some session' ∧
      session'.closed = session.closed ∧ session'.backendConn = session.backendConn)
    (callers : s'.disconnects = s.disconnects) (log : ∀ c, closes c s'.log = closes c s.log) :
    s'.ClosesOnce := by
  intro handled
  obtain ⟨session, phase, attached, holds, others⟩ := once (connected ▸ handled)
  obtain ⟨session', now, closed, socket⟩ := keep session attached
  exact ⟨session', phase, now, holds.frame closed socket callers log,
    fun c other => (log c).trans (others c (socket ▸ other))⟩

/-- A `Handled` connect starts the discipline: nothing closed, no caller closing. -/
theorem Sys.ClosesOnce.connect (o : ConnectOutcome) :
    ({ Sys.init h ctx with
      handler := ((Sys.init h ctx).handler.onConnect (Sys.init h ctx).ctx o).handler,
      ctx := ((Sys.init h ctx).handler.onConnect (Sys.init h ctx).ctx o).ctx,
      connected := some ((Sys.init h ctx).handler.onConnect (Sys.init h ctx).ctx o).result,
      log := (Sys.init h ctx).log ++ ((Sys.init h ctx).handler.onConnect (Sys.init h ctx).ctx o).events,
      pump := if ((Sys.init h ctx).handler.onConnect (Sys.init h ctx).ctx o).pump then .loop
        else .idle } : Sys).ClosesOnce := by
  intro handled
  simp only [Sys.init, List.nil_append, Option.some.injEq] at handled ⊢
  rcases onConnect_cases h { ctx with session := none } o with
    ⟨msg, eq⟩ | ⟨a, c, e, -, -, -, -, eq⟩ | ⟨a, c, -, -, eq⟩ <;> rw [eq] at handled
  · cases handled
  · cases handled
  · simp only [eq]
    refine ⟨_, .active, rfl, ⟨rfl, ?_, fun _ _ => nofun⟩, fun c' _ => ?_⟩ <;> split <;> simp [closes]

/-- A caller closing after another caller's step ended was closing before it. -/
theorem closing_of_update_done {f : Nat → DisconnectPC} {n m : Nat} {c : UDPConn}
    (now : Function.update f n .done m = .closing c) : m ≠ n ∧ f m = .closing c := by
  by_cases same : m = n
  · subst same
    simp at now
  · exact ⟨same, by simpa only [Function.update_noteq same] using now⟩

/-- `OnDisconnect` moves the phase along: the compare-and-swap winner takes it
from `active` to `winning n`, a loser leaves it, and the winner's close takes it
from `winning n` to `closed`. -/
theorem Sys.ClosesOnce.disconnect {n : Nat} {pc : DisconnectPC} {session' : Option Session}
    {evs : List Event} (once : s.ClosesOnce)
    (move : DisconnectMove n s.ctx.session (s.disconnects n) pc session' evs) :
    ({ s with
      ctx := { s.ctx with session := session' },
      disconnects := Function.update s.disconnects n pc, log := s.log ++ evs } : Sys).ClosesOnce := by
  intro handled
  obtain ⟨session, phase, attached, holds, others⟩ := once handled
  rw [attached] at move
  generalize before : s.disconnects n = pc₀ at move
  cases move with
  | won unclosed =>
    cases phase with
    | active =>
      obtain ⟨-, none, idle⟩ := holds
      refine ⟨_, .winning n, rfl, ⟨rfl, by simpa using none, by simp, fun m c closing => ?_⟩,
        fun c other => by simpa using others c other⟩
      by_contra ne
      simp only [Function.update_noteq ne] at closing
      exact idle m c closing
    | winning m => exact absurd holds.1 (by simp [unclosed])
    | closed => exact absurd holds.1 (by simp [unclosed])
  | lost closed =>
    refine ⟨session, phase, rfl, ?_, fun c other => by simpa using others c other⟩
    cases phase with
    | active => exact absurd holds.1 (by simp [closed])
    | winning m =>
      obtain ⟨flag, none, closing, only⟩ := holds
      have other : m ≠ n := fun same => by simp_all
      exact ⟨flag, by simpa using none, by simpa only [Function.update_noteq other] using closing,
        fun m' c now => only m' c (closing_of_update_done now).2⟩
    | closed =>
      obtain ⟨flag, once, idle⟩ := holds
      exact ⟨flag, by simpa using once, fun m c now => idle m c (closing_of_update_done now).2⟩
  | close =>
    cases phase with
    | active => exact absurd before (holds.2.2 n _)
    | closed => exact absurd before (holds.2.2 n _)
    | winning m =>
      obtain ⟨flag, none, closing, only⟩ := holds
      obtain rfl := only n _ before
      rw [closing] at before
      cases before
      refine ⟨session, .closed, rfl, ⟨flag, by simp only [closes_append, none]; simp [closes],
        fun m' c now => ?_⟩,
        fun c other => by simp only [closes_append, others c other]; simp [closes, Ne.symm other]⟩
      obtain ⟨other, before⟩ := closing_of_update_done now
      exact other (only m' c before)

/-- Every step keeps the discipline. -/
theorem SysMove.closesOnce (move : SysMove pool s s') (inv : s.Inv pool h ctx)
    (once : s.ClosesOnce) : s'.ClosesOnce := by
  have same : ∀ session, s.ctx.session = some session → ∃ session', s.ctx.session = some session' ∧
      session'.closed = session.closed ∧ session'.backendConn = session.backendConn :=
    fun session attached => ⟨session, attached, rfl, rfl⟩
  cases move with
  | connect o _ fresh => obtain rfl := inv.fresh fresh; exact Sys.ClosesOnce.connect o
  | packet _ _ move =>
    exact once.frame rfl same rfl fun c => by simp [move.no_close c]
  | pump _ _ _ move =>
    exact once.frame rfl same rfl fun c => by simp [move.no_close c]
  | disconnect _ _ move => exact once.disconnect move
  | migrate a _ _ attached =>
    refine once.frame rfl (fun session now => ?_) rfl fun _ => rfl
    rw [attached] at now
    cases now
    exact ⟨_, rfl, rfl, rfl⟩
  | packetPanic | pumpPanic => exact once.frame rfl same rfl fun _ => rfl

theorem Sys.reachable_closesOnce (reach : s.Reachable pool h ctx) : s.ClosesOnce := by
  induction reach with
  | init => intro fresh; cases fresh
  | step reach step ih => exact (Sys.next_move step).closesOnce (Sys.reachable_inv reach) ih

/-- Close-once after a `Handled` connect: over every interleaving of any number
of `OnDisconnect` calls with `OnPacket`, the pump and client migration, every
socket is closed at most once. -/
theorem backend_closed_at_most_once (reach : s.Reachable pool h ctx)
    (handled : s.connected = some Result.handled) : ∀ c, closes c s.log ≤ 1 := by
  obtain ⟨session, phase, -, holds, others⟩ := Sys.reachable_closesOnce reach handled
  intro c
  by_cases socket : c = session.backendConn
  · subst socket
    cases phase <;> simp only [ClosePhase.Holds] at holds <;> omega
  · simp [others c socket]

/-- `connectedSys` once the idle sweeper (caller `0`) and the shutdown (caller
`1`) both called `OnDisconnect`: the sweeper won the compare-and-swap and closed
the socket, the shutdown found the flag set. -/
def disconnectedSys : Sys :=
  { connectedSys with
    ctx := { connectedSys.ctx with session := some { clientSession with closed := true } }
    disconnects := Function.update (Function.update
      (Function.update connectedSys.disconnects 0 (.closing ⟨3⟩)) 1 .done) 0 .done
    log := connectedSys.log ++ [.backendClose (.onDisconnect 0) ⟨3⟩] }

theorem disconnectedSys_reachable : disconnectedSys.Reachable minimalPool ⟨0⟩ clientCtx :=
  Sys.run_reachable connectedSys_reachable
    (rfl : connectedSys.run minimalPool [.disconnect 0 .call, .disconnect 1 .call,
      .disconnect 0 .close] = some disconnectedSys)

/-- The connection disconnected by two callers, its socket closed by one. -/
theorem backend_closed_at_most_once_after_two_disconnects :
    disconnectedSys.Reachable minimalPool ⟨0⟩ clientCtx ∧
      disconnectedSys.connected = some Result.handled ∧ ∀ c, closes c disconnectedSys.log ≤ 1 :=
  ⟨disconnectedSys_reachable, rfl, backend_closed_at_most_once disconnectedSys_reachable rfl⟩

end

end QuicRelay
