import QuicRelay.Handler
import Mathlib.Algebra.Group.Nat.Basic
import Mathlib.Data.List.Nodup

/-!
`ForwarderHandler.OnConnect` and the calls the forwarder makes.

`Event` lists the socket calls, atomic operations and pool operations of the
forwarder, each tagged with the code that made it (`Caller`); the session model
in `QuicRelay.Forwarder.Session` appends them to a log in the order they happen.
The outcomes of `net.ResolveUDPAddr`, `net.DialUDP` and the initial `Write` are
an input, `ConnectOutcome`, so every result here holds for every outcome.

* `onConnect_cases` — the three ways a call ends: dropped before dialing, with
  the context as it was; dropped after a failed initial write; or handled, with
  a fresh session attached and the pump started.
* `onConnect_initial_write_failure` — when the initial write fails, the call
  returns `Drop` with the new session still attached to the context.
* `session_ids_sequential` — from `NewForwarderHandler`, the sessions of
  successive connections are numbered `1, 2, 3, …` modulo `2^64`.
-/

namespace QuicRelay

/-- The code that made a call. -/
inductive Caller where
  | onConnect
  | onPacket
  | pump
  | onDisconnect (n : Nat)
deriving DecidableEq, Repr

/-- The forwarder's calls, in the order they happen. Buffers are named by their
pool identity. -/
inductive Event where
  | dial (c : UDPConn)
  | backendWrite (who : Caller) (c : UDPConn) (d : Bytes) (ok : Bool)
  | backendClose (who : Caller) (c : UDPConn)
  | touch (who : Caller)
  | packetResult (p : Bytes) (dir : Direction) (res : Result)
  | getBuffer (b : Nat)
  | backendRead (b : Nat) (d : Bytes)
  | readFailed (b : Nat)
  | notify (b : Nat) (d : Bytes)
  | clientWrite (b : Nat) (d : Bytes) (a : UDPAddr) (ok : Bool)
  | putBuffer (b : Nat)
deriving DecidableEq, Repr

/-- `ForwarderHandler`: the counter that numbers sessions. -/
structure ForwarderHandler where
  sessionCounter : UInt64
deriving DecidableEq, Repr

/-- The answers of `net.ResolveUDPAddr`, `net.DialUDP` and the initial `Write`. -/
structure ConnectOutcome where
  resolve : Except String UDPAddr
  dial : Except String UDPConn
  write : Except String Unit

/-- What `OnConnect` returns and leaves behind: the handler, the context, the
result, its calls, and whether it started `backendToClient`. -/
structure Connected where
  handler : ForwarderHandler
  ctx : Context
  result : Result
  events : List Event
  pump : Bool

/-- `ForwarderHandler.OnConnect`. -/
def ForwarderHandler.onConnect (h : ForwarderHandler) (ctx : Context) (o : ConnectOutcome) :
    Connected :=
  let backend := ctx.getString "backend"
  if backend = "" then ⟨h, ctx, Result.drop "no backend address", [], false⟩
  else match o.resolve with
    | .error e => ⟨h, ctx, Result.drop e, [], false⟩
    | .ok backendAddr =>
      match o.dial with
      | .error e => ⟨h, ctx, Result.drop e, [], false⟩
      | .ok backendConn =>
        let h' : ForwarderHandler := ⟨h.sessionCounter + 1⟩
        let session : Session :=
          ⟨h'.sessionCounter, backendAddr, backendConn, ctx.clientAddr, false⟩
        let ctx' := { ctx with session := some session }
        let handled (written : List Event) : Connected :=
          ⟨h', { ctx' with initialPacket := [] }, Result.handled,
            .dial backendConn :: written, true⟩
        if ctx.initialPacket.length > 0 then
          match o.write with
          | .error e => ⟨h', ctx', Result.drop e,
              [.dial backendConn, .backendWrite .onConnect backendConn ctx.initialPacket false,
                .backendClose .onConnect backendConn], false⟩
          | .ok () => handled [.backendWrite .onConnect backendConn ctx.initialPacket true]
        else handled []

/-- The three ways `OnConnect` can end: before dialing, after dialing with the
initial write failed, or handled. -/
theorem onConnect_cases (h : ForwarderHandler) (ctx : Context) (o : ConnectOutcome) :
    (∃ msg, h.onConnect ctx o = ⟨h, ctx, Result.drop msg, [], false⟩) ∨
    (∃ a c e, o.resolve = .ok a ∧ o.dial = .ok c ∧ o.write = .error e ∧
      ctx.initialPacket ≠ [] ∧
      h.onConnect ctx o = ⟨⟨h.sessionCounter + 1⟩,
        { ctx with session := some ⟨h.sessionCounter + 1, a, c, ctx.clientAddr, false⟩ },
        Result.drop e, [.dial c, .backendWrite .onConnect c ctx.initialPacket false,
          .backendClose .onConnect c], false⟩) ∨
    (∃ a c, o.resolve = .ok a ∧ o.dial = .ok c ∧
      h.onConnect ctx o = ⟨⟨h.sessionCounter + 1⟩,
        { ctx with session := some ⟨h.sessionCounter + 1, a, c, ctx.clientAddr, false⟩,
                   initialPacket := [] },
        Result.handled,
        .dial c :: (if ctx.initialPacket = [] then []
          else [.backendWrite .onConnect c ctx.initialPacket true]), true⟩) := by
  by_cases nob : ctx.getString "backend" = ""
  · exact .inl ⟨"no backend address", by simp [ForwarderHandler.onConnect, nob]⟩
  cases res : o.resolve with
  | error e => exact .inl ⟨e, by simp [ForwarderHandler.onConnect, nob, res]⟩
  | ok a =>
    cases dialed : o.dial with
    | error e => exact .inl ⟨e, by simp [ForwarderHandler.onConnect, nob, res, dialed]⟩
    | ok c =>
      by_cases empty : ctx.initialPacket = []
      · exact .inr (.inr ⟨a, c, rfl, rfl, by
          simp [ForwarderHandler.onConnect, nob, res, dialed, empty]⟩)
      · cases written : o.write with
        | error e => exact .inr (.inl ⟨a, c, e, rfl, rfl, rfl, empty, by
            simp [ForwarderHandler.onConnect, nob, res, dialed, written, List.length_pos, empty]⟩)
        | ok u => exact .inr (.inr ⟨a, c, rfl, rfl, by
            simp [ForwarderHandler.onConnect, nob, res, dialed, written, List.length_pos, empty]⟩)

/-- The initial write fails: `OnConnect` drops the connection, yet `ctx.Session`
holds the new session, closed flag clear, whose socket it has just closed. -/
theorem onConnect_initial_write_failure :
    let ctx : Context := ⟨⟨"203.0.113.7", 40000⟩, [0xC0], none,
      fun k => if k = "backend" then some (.string "127.0.0.1:9") else none, true, none⟩
    let r := (⟨0⟩ : ForwarderHandler).onConnect ctx
      ⟨.ok ⟨"127.0.0.1", 9⟩, .ok ⟨3⟩, .error "connection refused"⟩
    r.result = Result.drop "connection refused" ∧
      r.ctx.session = some ⟨1, ⟨"127.0.0.1", 9⟩, ⟨3⟩, ⟨"203.0.113.7", 40000⟩, false⟩ ∧
      Event.backendClose .onConnect ⟨3⟩ ∈ r.events := by
  decide

/-! ### Sessions across connections -/

/-- `NewForwarderHandler`: it reads no configuration, and its counter starts at
zero. -/
def newForwarderHandler : ForwarderHandler := ⟨0⟩

/-- `OnConnect` for one new connection after another on one forwarder, each
call finding the counter the calls before it left: the sessions the calls
leave attached, in order, and the handler after the last. -/
def ForwarderHandler.connectAll (h : ForwarderHandler) :
    List (Context × ConnectOutcome) → List Session × ForwarderHandler
  | [] => ([], h)
  | (ctx, o) :: rest =>
    let r := h.onConnect ctx o
    (r.ctx.session.toList ++ (r.handler.connectAll rest).1, (r.handler.connectAll rest).2)

/-- On a context with no session, a call attaches none and leaves the counter,
or attaches the session it numbered with the counter's next value and leaves
that value behind. -/
theorem onConnect_numbers (h : ForwarderHandler) (ctx : Context) (o : ConnectOutcome)
    (fresh : ctx.session = none) :
    ((h.onConnect ctx o).ctx.session = none ∧ (h.onConnect ctx o).handler = h) ∨
      ∃ s, (h.onConnect ctx o).ctx.session = some s ∧ s.id = h.sessionCounter + 1 ∧
        (h.onConnect ctx o).handler = ⟨h.sessionCounter + 1⟩ := by
  rcases onConnect_cases h ctx o with ⟨msg, eq⟩ | ⟨a, c, e, -, -, -, -, eq⟩ | ⟨a, c, -, -, eq⟩ <;>
    rw [eq]
  · exact .inl ⟨fresh, rfl⟩
  all_goals exact .inr ⟨_, rfl, rfl, rfl⟩

theorem toNat_succ_wrap (c : UInt64) : (c + 1).toNat = (c.toNat + 1) % 2 ^ 64 := rfl

/-- Over connections that come with no session, the calls number their
sessions on from the counter, one by one modulo `2^64`, and leave the counter
at the last number. -/
theorem ForwarderHandler.connectAll_ids : ∀ (h : ForwarderHandler)
    (conns : List (Context × ConnectOutcome)), (∀ c ∈ conns, c.1.session = none) →
    (h.connectAll conns).1.map (fun s => s.id.toNat) =
        (List.range (h.connectAll conns).1.length).map
          (fun j => (h.sessionCounter.toNat + j + 1) % 2 ^ 64) ∧
      (h.connectAll conns).2.sessionCounter.toNat =
        (h.sessionCounter.toNat + (h.connectAll conns).1.length) % 2 ^ 64
  | h, [], _ => by
    simp [connectAll, Nat.mod_eq_of_lt (UInt64.toNat_lt_size h.sessionCounter)]
  | h, (ctx, o) :: rest, fresh => by
    have ih := connectAll_ids (h.onConnect ctx o).handler rest
      fun c mem => fresh c (List.mem_cons_of_mem _ mem)
    rcases onConnect_numbers h ctx o (fresh _ (List.mem_cons_self _ _)) with
      ⟨none, same⟩ | ⟨s, attached, numbered, next⟩
    · simpa only [connectAll, none, same, Option.toList, List.nil_append] using ih
    · simp only [connectAll, attached, next, Option.toList, List.singleton_append] at ih ⊢
      obtain ⟨ids, counter⟩ := ih
      refine ⟨?_, ?_⟩
      · rw [List.map_cons, ids, List.length_cons, List.range_succ_eq_map, List.map_cons, List.map_map,
          numbered, toNat_succ_wrap]
        congr 1
        apply List.map_congr_left
        intro j _
        simp only [Function.comp, toNat_succ_wrap]
        omega
      · rw [counter, toNat_succ_wrap, List.length_cons]
        omega

/-- From `NewForwarderHandler`, over any sequence of new connections, the calls
number their sessions `1, 2, 3, …` in the order they attach them, modulo
`2^64`: no ID repeats before `2^64` sessions. -/
theorem session_ids_sequential (conns : List (Context × ConnectOutcome))
    (fresh : ∀ c ∈ conns, c.1.session = none) :
    (newForwarderHandler.connectAll conns).1.map (fun s => s.id.toNat) =
        (List.range (newForwarderHandler.connectAll conns).1.length).map
          (fun j => (j + 1) % 2 ^ 64) ∧
      ((newForwarderHandler.connectAll conns).1.length < 2 ^ 64 →
        ((newForwarderHandler.connectAll conns).1.map Session.id).Nodup) := by
  have ids := (newForwarderHandler.connectAll_ids conns fresh).1
  have zero : newForwarderHandler.sessionCounter.toNat = 0 := rfl
  simp only [zero, Nat.zero_add] at ids
  refine ⟨ids, fun few => ?_⟩
  apply List.Nodup.of_map UInt64.toNat
  rw [List.map_map, Function.comp_def, ids]
  apply (List.nodup_range _).map_on
  intro i mem j mem' same
  simp only [List.mem_range] at mem mem'
  omega

/-- A dial that fails, then two that succeed: sessions `1` and `2`. -/
theorem session_ids_sequential_three_clients :
    let ctx : Context := ⟨⟨"203.0.113.7", 40000⟩, [0xC0], none,
      fun k => if k = "backend" then some (.string "127.0.0.1:9") else none, true, none⟩
    let conns : List (Context × ConnectOutcome) :=
      [(ctx, ⟨.ok ⟨"127.0.0.1", 9⟩, .error "network is unreachable", .ok ()⟩),
        (ctx, ⟨.ok ⟨"127.0.0.1", 9⟩, .ok ⟨3⟩, .ok ()⟩),
        (ctx, ⟨.ok ⟨"127.0.0.1", 9⟩, .ok ⟨4⟩, .ok ()⟩)]
    (∀ c ∈ conns, c.1.session = none) ∧
      ((newForwarderHandler.connectAll conns).1.map (fun s => s.id.toNat) =
          (List.range (newForwarderHandler.connectAll conns).1.length).map
            (fun j => (j + 1) % 2 ^ 64) ∧
        ((newForwarderHandler.connectAll conns).1.length < 2 ^ 64 →
          ((newForwarderHandler.connectAll conns).1.map Session.id).Nodup)) :=
  ⟨by decide, session_ids_sequential _ (by decide)⟩

end QuicRelay
