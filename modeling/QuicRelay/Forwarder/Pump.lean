import QuicRelay.Forwarder.Session
import QuicRelay.Forwarder.Trace

/-!
`backendToClient` on its own. `PumpMove` lists what one step can do
(`backendToClient_move`); the pump panics only on an empty buffer (`backendToClient_panic`).
`PumpInv` is an invariant of the pump's program point and of the trace of its
calls, kept by every move whatever the other tasks do (`PumpMove.inv`). It says:

* the pool discipline holds, and the buffer in hand is the one got last;
* every client write comes right after the notification of its datagram, and
  every notification right after a `Touch`;
* every buffer in hand has the pool's size, so `(*buf)[0]` never panics
  (`PumpInv.no_panic`), whatever length the read returned;
* with `ProxyConn` set, the datagrams written to the client are the datagrams
  read, in order and unmodified, but for the one in hand or, once the pump
  stopped, the last one read.
-/

namespace QuicRelay

/-! ### What one step of the pump can do -/

/-- The pump's transitions, one per operation of `backendToClient`. -/
inductive PumpMove (pool : Pool) (session : Session) (proxyConn : Bool) :
    PumpPC → PumpPC → List Event → Prop
  | checkClosed : session.closed = true → PumpMove pool session proxyConn .loop (.returned .closed) []
  | checkOpen : session.closed = false → PumpMove pool session proxyConn .loop .acquiring []
  | acquire {b : Buffer} : b.data.length = pool.size →
      PumpMove pool session proxyConn .acquiring (.reading b) [.getBuffer b.id]
  | readFailed {b : Buffer} :
      PumpMove pool session proxyConn (.reading b) (.releasing b (some .readError)) [.readFailed b.id]
  | read {b : Buffer} {d : Bytes} : d.length ≤ b.data.length →
      PumpMove pool session proxyConn (.reading b)
        (.rechecking ⟨b.id, d ++ b.data.drop d.length⟩ d.length) [.backendRead b.id d]
  | recheckClosed {b : Buffer} {n : Nat} : session.closed = true →
      PumpMove pool session proxyConn (.rechecking b n) (.releasing b (some .closedAfterRead)) []
  | recheckOpen {b : Buffer} {n : Nat} : session.closed = false →
      PumpMove pool session proxyConn (.rechecking b n) (.touching b n) []
  | touch {b : Buffer} {n : Nat} :
      PumpMove pool session proxyConn (.touching b n) (.notifying b n) [.touch .pump]
  | notify {b : Buffer} {n : Nat} :
      PumpMove pool session proxyConn (.notifying b n) (.logging b n) [.notify b.id (b.data.take n)]
  | index {b : Buffer} {n : Nat} : b.data ≠ [] →
      PumpMove pool session proxyConn (.logging b n) (.writing b n) []
  | written {b : Buffer} {n : Nat} : proxyConn = true →
      PumpMove pool session proxyConn (.writing b n) (.releasing b none)
        [.clientWrite b.id (b.data.take n) session.clientAddr true]
  | writeFailed {b : Buffer} {n : Nat} : proxyConn = true →
      PumpMove pool session proxyConn (.writing b n) (.releasing b (some .writeError))
        [.clientWrite b.id (b.data.take n) session.clientAddr false]
  | noProxyConn {b : Buffer} {n : Nat} : proxyConn = false →
      PumpMove pool session proxyConn (.writing b n) (.releasing b none) []
  | release {b : Buffer} :
      PumpMove pool session proxyConn (.releasing b none) .loop [.putBuffer b.id]
  | releaseReturn {b : Buffer} {e : PumpExit} :
      PumpMove pool session proxyConn (.releasing b (some e)) (.returned e) [.putBuffer b.id]

section
variable {pool : Pool} {session : Session} {proxyConn : Bool} {pc pc' : PumpPC} {a : PumpAction}
  {evs : List Event}

/-- Every step of `ForwarderHandler.backendToClient` that does not panic is a `PumpMove`. -/
theorem backendToClient_move
    (step : ForwarderHandler.backendToClient pool session proxyConn pc a = some (.ok (pc', evs))) :
    PumpMove pool session proxyConn pc pc' evs := by
  unfold ForwarderHandler.backendToClient at step
  split at step
  next => -- IsClosed at the loop head
    cases closed : session.closed <;> simp only [closed] at step <;> cases step
    exacts [.checkOpen closed, .checkClosed closed]
  next b => -- GetBuffer
    by_cases fits : b.data.length = pool.size <;> simp only [fits] at step <;> cases step
    exact .acquire fits
  next b _ => cases step; exact .readFailed
  next b d => -- a read of `d`
    by_cases fits : d.length ≤ b.data.length <;> simp only [fits] at step <;> cases step
    exact .read fits
  next b n => -- IsClosed after the read
    cases closed : session.closed <;> simp only [closed] at step <;> cases step
    exacts [.recheckOpen closed, .recheckClosed closed]
  next b n => cases step; exact .touch
  next b n => cases step; exact .notify
  next b n => -- the `(*buf)[0]` of `debug.Printf`
    obtain ⟨id, _ | ⟨x, rest⟩⟩ := b
    · cases step
    · simp only [index_cons_zero, Except.map] at step
      cases step
      exact .index (List.cons_ne_nil x rest)
  next b n r => -- the client write
    cases proxyConn <;> cases r <;> cases step
    exacts [.noProxyConn rfl, .noProxyConn rfl, .writeFailed rfl, .written rfl]
  next b e => -- PutBuffer
    cases e <;> cases step
    exacts [.release, .releaseReturn]
  next => cases step

/-- The pump's only index is the `(*buf)[0]` of its `debug.Printf`: it panics
only on an empty buffer. -/
theorem backendToClient_panic {p : Panic}
    (step : ForwarderHandler.backendToClient pool session proxyConn pc a = some (.error p)) :
    ∃ b n, pc = .logging b n ∧ b.data = [] := by
  cases pc <;> cases a <;>
    simp only [ForwarderHandler.backendToClient, Option.some.injEq, reduceCtorEq] at step
  case acquiring.acquire b => split at step <;> cases step
  case reading.read b r =>
    cases r <;> simp only [ForwarderHandler.backendToClient, Option.some.injEq, reduceCtorEq] at step
    split at step <;> cases step
  case logging.index b n =>
    obtain ⟨id, _ | ⟨x, rest⟩⟩ := b
    · exact ⟨_, n, rfl, rfl⟩
    · simp only [index_cons_zero, Except.map, reduceCtorEq] at step

end

/-- The buffer in hand at a program point. -/
def PumpPC.buffer : PumpPC → Option Buffer
  | .reading b | .rechecking b _ | .touching b _ | .notifying b _ | .logging b _
  | .writing b _ | .releasing b _ => some b
  | _ => none

/-- What the pool discipline holds at a program point. -/
def PumpPC.held (pc : PumpPC) : Holding :=
  match pc.buffer with
  | some b => .holds b.id
  | none => .free

/-- Where the pump is leaving its loop, and why. -/
def PumpPC.exit : PumpPC → Option PumpExit
  | .releasing _ e => e
  | .returned e => some e
  | _ => none

/-- The datagrams read from the backend (`backendRead`), in order. -/
def readsOf (log : List Event) : List Bytes :=
  log.filterMap fun | .backendRead _ d => some d | _ => none

/-- The datagrams written to the client with success, in order. -/
def deliveredOf (log : List Event) : List Bytes :=
  log.filterMap fun | .clientWrite _ d _ true => some d | _ => none

/-- What the pump has delivered at a program point: every datagram read, but the
one in hand, or once it stopped, possibly the last one. -/
def Delivery : PumpPC → List Bytes → List Bytes → Prop
  | .rechecking b n, reads, sent | .touching b n, reads, sent | .notifying b n, reads, sent
  | .logging b n, reads, sent | .writing b n, reads, sent => reads = sent ++ [b.data.take n]
  | .releasing _ (some _), reads, sent | .returned _, reads, sent =>
    ∃ rest, reads = sent ++ rest ∧ rest.length ≤ 1
  | _, reads, sent => reads = sent

theorem PumpPC.held_ne_broken (pc : PumpPC) : pc.held ≠ .broken := by
  unfold PumpPC.held
  split <;> simp

/-- The pump's last call at a program point: its `Touch` before the
notification, the notification before the index and the write. -/
def PumpLast : PumpPC → Option Event → Prop
  | .notifying _ _, last => last = some (.touch .pump)
  | .logging b n, last | .writing b n, last => last = some (.notify b.id (b.data.take n))
  | _, _ => True

/-- The pump's invariant, over its program point and its trace. -/
structure PumpInv (pool : Pool) (proxyConn : Bool) (pc : PumpPC) (tr : List Event) : Prop where
  held : Holding.replay tr = pc.held
  ordered : Ordered none tr
  last : PumpLast pc tr.getLast?
  sized : ∀ b, pc.buffer = some b → b.data.length = pool.size
  delivery : proxyConn = true → Delivery pc (readsOf tr) (deliveredOf tr)

theorem PumpInv.idle (pool : Pool) (proxyConn : Bool) : PumpInv pool proxyConn .idle [] :=
  ⟨rfl, trivial, trivial, fun _ none => (by cases none), fun _ => rfl⟩

theorem PumpInv.loop {pool : Pool} {proxyConn : Bool} {tr : List Event}
    (inv : PumpInv pool proxyConn .idle tr) : PumpInv pool proxyConn .loop tr :=
  ⟨inv.held, inv.ordered, trivial, fun _ none => (by cases none), inv.delivery⟩

@[simp] theorem replay_append (tr evs : List Event) :
    Holding.replay (tr ++ evs) = evs.foldl Holding.after (Holding.replay tr) :=
  List.foldl_append _ _ _ _

@[simp] theorem readsOf_append (tr evs : List Event) :
    readsOf (tr ++ evs) = readsOf tr ++ readsOf evs := List.filterMap_append _ _ _

theorem readsOf_single (e : Event) :
    readsOf [e] = match e with | .backendRead _ d => [d] | _ => [] := by
  cases e <;> rfl

theorem deliveredOf_single (e : Event) :
    deliveredOf [e] = match e with | .clientWrite _ d _ true => [d] | _ => [] := by
  cases e <;> try rfl
  rename_i ok; cases ok <;> rfl

@[simp] theorem deliveredOf_append (tr evs : List Event) :
    deliveredOf (tr ++ evs) = deliveredOf tr ++ deliveredOf evs := List.filterMap_append _ _ _

theorem Ordered.snoc {tr : List Event} {e : Event} (ordered : Ordered none tr)
    (before : Before e tr.getLast?) : Ordered none (tr ++ [e]) :=
  Ordered.append.mpr ⟨ordered, by simpa [Ordered] using before⟩

section
variable {pool : Pool} {session : Session} {proxyConn : Bool} {pc pc' : PumpPC}
  {tr evs : List Event}

theorem PumpMove.held (move : PumpMove pool session proxyConn pc pc' evs)
    (held : Holding.replay tr = pc.held) : Holding.replay (tr ++ evs) = pc'.held := by
  cases move <;> simp_all [PumpPC.held, PumpPC.buffer, Holding.after, Event.uses]

theorem PumpMove.ordered (move : PumpMove pool session proxyConn pc pc' evs)
    (ordered : Ordered none tr) (last : PumpLast pc tr.getLast?) :
    Ordered none (tr ++ evs) ∧ PumpLast pc' (tr ++ evs).getLast? := by
  cases move <;> simp_all [Ordered.snoc, PumpLast, Before]

theorem PumpMove.sized (move : PumpMove pool session proxyConn pc pc' evs)
    (sized : ∀ b, pc.buffer = some b → b.data.length = pool.size) :
    ∀ b, pc'.buffer = some b → b.data.length = pool.size := by
  cases move <;> simp_all [PumpPC.buffer]

theorem PumpMove.delivery (move : PumpMove pool session proxyConn pc pc' evs)
    (delivery : proxyConn = true → Delivery pc (readsOf tr) (deliveredOf tr)) :
    proxyConn = true → Delivery pc' (readsOf (tr ++ evs)) (deliveredOf (tr ++ evs)) := by
  intro proxy
  have before := delivery proxy
  cases move <;> simp only [Delivery, readsOf_append, deliveredOf_append, readsOf_single,
    deliveredOf_single, List.append_nil] at before ⊢ <;> simp_all [List.take_left']

/-- Every call of the pump is tagged with it. -/
theorem PumpMove.caller (move : PumpMove pool session proxyConn pc pc' evs) :
    ∀ e ∈ evs, e.caller = .pump := by
  cases move <;> simp [Event.caller]

/-- Every client write goes to the session's client address at the time. -/
theorem PumpMove.client_address (move : PumpMove pool session proxyConn pc pc' evs)
    {b : Nat} {d : Bytes} {addr : UDPAddr} {ok : Bool} (mem : .clientWrite b d addr ok ∈ evs) :
    addr = session.clientAddr := by
  cases move <;> simp_all

/-- The pump leaves its loop for the closed flag only when the flag is set. -/
theorem PumpMove.exit_closed (move : PumpMove pool session proxyConn pc pc' evs)
    (closedExit : pc'.exit = some .closed ∨ pc'.exit = some .closedAfterRead) :
    pc.exit = pc'.exit ∨ session.closed = true := by
  cases move <;> simp_all [PumpPC.exit]

/-- Every move of the pump keeps its invariant. -/
theorem PumpMove.inv (move : PumpMove pool session proxyConn pc pc' evs)
    (inv : PumpInv pool proxyConn pc tr) : PumpInv pool proxyConn pc' (tr ++ evs) :=
  have order := move.ordered inv.ordered inv.last
  ⟨move.held inv.held, order.1, order.2, move.sized inv.sized, move.delivery inv.delivery⟩

/-- With the invariant the pump never panics: the buffer in hand has the pool's
size, whatever length the read returned. -/
theorem PumpInv.no_panic {a : PumpAction} {p : Panic} (inv : PumpInv pool proxyConn pc tr) :
    ForwarderHandler.backendToClient pool session proxyConn pc a ≠ some (.error p) := fun step => by
  obtain ⟨b, n, rfl, empty⟩ := backendToClient_panic step
  have sized := inv.sized b rfl
  have := pool.size_ge
  simp only [empty, List.length_nil] at sized
  omega

end

end QuicRelay
