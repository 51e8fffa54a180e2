import QuicRelay.Forwarder.Pump

/-!
`OnPacket` on the listen task, and `OnDisconnect`.

`PacketMove` and `DisconnectMove` list what one step of each can do
(`onPacket_move`, `onDisconnect_move`). From them:

* every backend write of `OnPacket` comes right after its `Touch`
  (`PacketMove.inv`);
* the datagrams an `OnPacket` step writes to the backend with success are the
  `Inbound` datagrams it returns `Handled` for (`PacketMove.backendWritten_eq`);
* `OnPacket` panics only on the `packet[0]` of an empty `Inbound` datagram
  (`onPacket_panic`);
* an `OnDisconnect` step keeps the session's socket and never clears its closed
  flag (`DisconnectMove.session`).
-/

namespace QuicRelay

/-! ### `OnPacket` -/

/-- The transitions of `OnPacket`, one per operation. -/
inductive PacketMove : Option Session → PacketPC → PacketPC → List Event → Prop
  | noSession {p : Bytes} {dir : Direction} :
      PacketMove none .idle .idle [.packetResult p dir (Result.drop "no session")]
  | closed {s : Session} {p : Bytes} {dir : Direction} : s.closed = true →
      PacketMove (some s) .idle .idle [.packetResult p dir ⟨.Drop, none⟩]
  | admitted {s : Session} {p : Bytes} {dir : Direction} : s.closed = false →
      PacketMove (some s) .idle (.touching p dir) []
  | touchInbound {session : Option Session} {p : Bytes} :
      PacketMove session (.touching p .Inbound) (.logging p) [.touch .onPacket]
  | touchOutbound {session : Option Session} {p : Bytes} :
      PacketMove session (.touching p .Outbound) .idle
        [.touch .onPacket, .packetResult p .Outbound Result.handled]
  | index {session : Option Session} {p : Bytes} : p ≠ [] →
      PacketMove session (.logging p) (.writing p) []
  | written {s : Session} {p : Bytes} :
      PacketMove (some s) (.writing p) .idle
        [.backendWrite .onPacket s.backendConn p true, .packetResult p .Inbound Result.handled]
  | writeFailed {s : Session} {p : Bytes} {e : String} :
      PacketMove (some s) (.writing p) .idle
        [.backendWrite .onPacket s.backendConn p false, .packetResult p .Inbound (Result.drop e)]

section
variable {session : Option Session} {pc pc' : PacketPC} {a : PacketAction} {evs : List Event}

/-- Every step of `ForwarderHandler.onPacket` that does not panic is a `PacketMove`. -/
theorem onPacket_move (step : ForwarderHandler.onPacket session pc a = some (.ok (pc', evs))) :
    PacketMove session pc pc' evs := by
  cases pc <;> cases a <;> simp only [ForwarderHandler.onPacket, Option.some.injEq, reduceCtorEq] at step
  case idle.call p dir =>
    rcases session with _ | s
    · cases step; exact .noSession
    · cases closed : s.closed <;> simp only [closed] at step <;> cases step
      exacts [.admitted closed, .closed closed]
  case touching.touch p dir => cases dir <;> cases step; exacts [.touchInbound, .touchOutbound]
  case logging.index p =>
    rcases p with _ | ⟨x, rest⟩
    · cases step
    · simp only [index_cons_zero, Except.map, Except.ok.injEq, Prod.mk.injEq] at step
      obtain ⟨rfl, rfl⟩ := step
      exact .index (List.cons_ne_nil x rest)
  case writing.write p r =>
    rcases session with _ | s
    · cases step
    · cases r <;> cases step; exacts [.writeFailed, .written]

/-- `OnPacket`'s only index is the `packet[0]` of its `Inbound` branch: it
panics only on an empty `Inbound` datagram. -/
theorem onPacket_panic {p : Panic} (step : ForwarderHandler.onPacket session pc a = some (.error p)) :
    pc = .logging [] := by
  cases pc <;> cases a <;> simp only [ForwarderHandler.onPacket, Option.some.injEq, reduceCtorEq] at step
  case logging.index q =>
    rcases q with _ | ⟨x, rest⟩
    · rfl
    · simp only [index_cons_zero, Except.map, reduceCtorEq] at step
  case writing.write q r =>
    rcases session with _ | s
    · cases step
    · cases r <;> cases step

/-- What must come right before the next call of `OnPacket`: its `Touch`, once
it has touched the session. -/
def PacketLast : PacketPC → Option Event → Prop
  | .logging _, last | .writing _, last => last = some (.touch .onPacket)
  | _, _ => True

/-- `OnPacket`'s invariant over its program point and its trace. -/
structure PacketInv (pc : PacketPC) (tr : List Event) : Prop where
  ordered : Ordered none tr
  last : PacketLast pc tr.getLast?

/-- Every move of `OnPacket` keeps its invariant. -/
theorem PacketMove.inv {tr : List Event} (move : PacketMove session pc pc' evs)
    (inv : PacketInv pc tr) : PacketInv pc' (tr ++ evs) := by
  obtain ⟨ordered, last⟩ := inv
  cases move <;> constructor <;> simp_all [Ordered.snoc, Ordered.append, Ordered, PacketLast, Before]

theorem PacketMove.caller (move : PacketMove session pc pc' evs) :
    ∀ e ∈ evs, e.caller = .onPacket := by
  cases move <;> simp [Event.caller]

end

/-! ### What reaches the backend -/

/-- The datagrams written with success to socket `c`, in order. -/
def backendWritten (c : UDPConn) (log : List Event) : List Bytes :=
  log.filterMap fun
    | .backendWrite _ c' d true => if c' = c then some d else none
    | _ => none

/-- The `Inbound` datagrams `OnPacket` returned `Handled` for, in order. -/
def handledInbound (log : List Event) : List Bytes :=
  log.filterMap fun
    | .packetResult p dir r => if r.action = .Handled ∧ dir = .Inbound then some p else none
    | _ => none

@[simp] theorem backendWritten_append (c : UDPConn) (log log' : List Event) :
    backendWritten c (log ++ log') = backendWritten c log ++ backendWritten c log' :=
  List.filterMap_append _ _ _

@[simp] theorem handledInbound_append (log log' : List Event) :
    handledInbound (log ++ log') = handledInbound log ++ handledInbound log' :=
  List.filterMap_append _ _ _

/-- An `OnPacket` step writes to the session's socket exactly the `Inbound`
datagrams it returns `Handled` for. -/
theorem PacketMove.backendWritten_eq {s : Session} {pc pc' : PacketPC} {evs : List Event}
    (move : PacketMove (some s) pc pc' evs) :
    backendWritten s.backendConn evs = handledInbound evs := by
  cases move
  case written => simp [backendWritten, handledInbound, Result.handled]
  all_goals rfl

/-! ### `OnDisconnect` -/

/-- The transitions of one `OnDisconnect` call: the nil check and the `Close`
compare-and-swap, then the winner's `BackendConn.Close()`. -/
inductive DisconnectMove (n : Nat) :
    Option Session → DisconnectPC → DisconnectPC → Option Session → List Event → Prop
  | noSession : DisconnectMove n none .idle .done none []
  | won {s : Session} : s.closed = false →
      DisconnectMove n (some s) .idle (.closing s.backendConn) (some { s with closed := true }) []
  | lost {s : Session} : s.closed = true → DisconnectMove n (some s) .idle .done (some s) []
  | close {session : Option Session} {c : UDPConn} :
      DisconnectMove n session (.closing c) .done session [.backendClose (.onDisconnect n) c]

/-- A later value of the shared session: still there, on the same socket, and
still closed once closed. -/
def SessionKeeps : Option Session → Option Session → Prop
  | none, none => True
  | some s, some s' => s'.backendConn = s.backendConn ∧ (s.closed = true → s'.closed = true)
  | _, _ => False

@[simp] theorem SessionKeeps.refl : ∀ session, SessionKeeps session session
  | none => trivial
  | some _ => ⟨rfl, id⟩

theorem SessionKeeps.closed {s : Session} {session' : Option Session}
    (keeps : SessionKeeps (some s) session') (closed : s.closed = true) :
    ∃ s', session' = some s' ∧ s'.closed = true := by
  rcases session' with _ | s'
  · cases keeps
  · exact ⟨s', rfl, keeps.2 closed⟩

theorem SessionKeeps.socket {session : Option Session} {s' : Session}
    (keeps : SessionKeeps session (some s')) :
    ∃ s, session = some s ∧ s'.backendConn = s.backendConn := by
  rcases session with _ | s
  · cases keeps
  · exact ⟨s, rfl, keeps.1⟩

section
variable {n : Nat} {session session' : Option Session} {pc pc' : DisconnectPC}
  {evs : List Event}

/-- Every step of `ForwarderHandler.onDisconnect` is a `DisconnectMove`. -/
theorem onDisconnect_move {a : DisconnectAction}
    (step : ForwarderHandler.onDisconnect n session pc a = some (pc', session', evs)) :
    DisconnectMove n session pc pc' session' evs := by
  cases pc <;> cases a <;>
    simp only [ForwarderHandler.onDisconnect, Option.some.injEq, reduceCtorEq] at step
  case idle.call =>
    rcases session with _ | s
    · cases step; exact .noSession
    · cases closed : s.closed <;> simp only [Session.close, closed] at step <;> cases step
      exacts [.won closed, .lost closed]
  case closing.close c => cases step; exact .close

theorem DisconnectMove.keeps (move : DisconnectMove n session pc pc' session' evs) :
    SessionKeeps session session' := by
  cases move with
  | close => exact .refl _
  | _ => simp_all [SessionKeeps]

theorem DisconnectMove.caller (move : DisconnectMove n session pc pc' session' evs) :
    ∀ e ∈ evs, e.caller = .onDisconnect n := by
  cases move <;> simp [Event.caller]

end

end QuicRelay
