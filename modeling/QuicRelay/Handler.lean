import Mathlib.Logic.Function.Basic
import Mathlib.Data.List.Basic

/-!
Vocabulary shared by every handler of `internal/handler`: the chain actions and
results, packet directions, the Go runtime panics a handler can raise, and the
per-connection `Context` and `Session` that handlers read and write.

`Context` and `Session` are declared in the part of the handler package that is
not among the sources; their fields and methods are taken from the spec (§3,
§4.4, §5) and keep only what the modelled handlers use. Atomic fields are plain
fields here: every atomic operation is one step of the task models built on top
(`Lean` sees each step as indivisible, as the hardware sees the atomic).
-/

namespace QuicRelay

/-- A datagram, as the `[]byte` the handlers pass around. -/
abbrev Bytes := List UInt8

/-- What a handler tells the chain (`Continue`, `Handled`, `Drop`). -/
inductive Action where
  | Continue
  | Handled
  | Drop
deriving DecidableEq, Repr

/-- `Result{Action, Error}`; the error is its text, `none` for `nil`. -/
structure Result where
  action : Action
  error : Option String
deriving DecidableEq, Repr

/-- `Result{Action: Drop, Error: errors.New(msg)}`. -/
def Result.drop (msg : String) : Result := ⟨.Drop, some msg⟩

/-- `Result{Action: Continue}`. -/
def Result.cont : Result := ⟨.Continue, none⟩

/-- `Result{Action: Handled}`. -/
def Result.handled : Result := ⟨.Handled, none⟩

/-- Which way a datagram travels through a session. -/
inductive Direction where
  | Inbound
  | Outbound
deriving DecidableEq, Repr

/-- The Go runtime panics a handler can raise. -/
inductive Panic where
  | indexOutOfRange (index length : Nat)
  | integerDivideByZero
deriving DecidableEq, Repr

/-- `xs[i]` with Go's bounds check. -/
def index {α : Type} (xs : List α) (i : Nat) : Except Panic α :=
  match xs[i]? with
  | some x => .ok x
  | none => .error (.indexOutOfRange i xs.length)

theorem index_of_lt {α : Type} {xs : List α} {i : Nat} (h : i < xs.length) :
    index xs i = .ok (xs.get ⟨i, h⟩) := by
  simp [index, List.getElem?_eq_getElem h]

theorem index_of_le {α : Type} {xs : List α} {i : Nat} (h : xs.length ≤ i) :
    index xs i = .error (.indexOutOfRange i xs.length) := by
  simp [index, List.getElem?_eq_none h]

@[simp] theorem index_nil {α : Type} (i : Nat) :
    index ([] : List α) i = .error (.indexOutOfRange i 0) := rfl

@[simp] theorem index_cons_zero {α : Type} (x : α) (xs : List α) : index (x :: xs) 0 = .ok x := by
  simp [index]

/-- Peeling one `do` step of an `Except` computation that succeeded. -/
theorem bind_eq_ok {ε α β : Type} {x : Except ε α} {f : α → Except ε β} {b : β} :
    x >>= f = .ok b ↔ ∃ a, x = .ok a ∧ f a = .ok b := by
  cases x <;> simp [bind, Except.bind]

/-- A UDP address (`*net.UDPAddr`). -/
structure UDPAddr where
  host : String
  port : Nat
deriving DecidableEq, Repr

/-- A dialed backend socket (`*net.UDPConn`), by identity. -/
structure UDPConn where
  fd : Nat
deriving DecidableEq, Repr

/-- The parsed ClientHello (`*ClientHello`); the handlers read only its SNI. -/
structure ClientHello where
  sni : String
deriving DecidableEq, Repr

/-- A value of the context's key-value bag (`ctx.Set` takes `any`; the handlers
store strings and `int64`s). -/
inductive Value where
  | string (s : String)
  | int64 (n : Int)
deriving DecidableEq, Repr

/-- Modelled from the spec: `Session` (§3), one live client-backend mapping. The
closed flag is the atomic boolean that `Close` sets by compare-and-swap and
`IsClosed` loads; the client address is the atomic one `SetClientAddr` replaces.
Creation and activity timestamps are read by no modelled code and are left out;
`Touch` is an event of the task models. -/
structure Session where
  id : UInt64
  backendAddr : UDPAddr
  backendConn : UDPConn
  clientAddr : UDPAddr
  closed : Bool
deriving DecidableEq, Repr

/-- Modelled from the spec: `Session.Close`, the compare-and-swap of the closed
flag from `false` to `true`; it reports whether this call won. -/
def Session.close (s : Session) : Bool × Session :=
  if s.closed then (false, s) else (true, { s with closed := true })

/-- Modelled from the spec: `Context` (§3), the per-connection scratch carried
through the chain. `proxyConn` says whether `ProxyConn` is non-nil. -/
structure Context where
  clientAddr : UDPAddr
  initialPacket : Bytes
  hello : Option ClientHello
  values : String → Option Value
  proxyConn : Bool
  session : Option Session

/-- Modelled from the spec: `ctx.Set(key, value)`. -/
def Context.set (ctx : Context) (key : String) (v : Value) : Context :=
  { ctx with values := Function.update ctx.values key (some v) }

/-- Modelled from the spec: `ctx.GetString(key)`, `""` when absent or not a string. -/
def Context.getString (ctx : Context) (key : String) : String :=
  match ctx.values key with
  | some (.string s) => s
  | _ => ""

/-- Modelled from the spec: `ctx.GetInt64(key)`, `0` when absent or not an `int64`. -/
def Context.getInt64 (ctx : Context) (key : String) : Int :=
  match ctx.values key with
  | some (.int64 n) => n
  | _ => 0

@[simp] theorem Context.set_values (ctx : Context) (key : String) (v : Value) :
    (ctx.set key v).values = Function.update ctx.values key (some v) := rfl

@[simp] theorem Context.set_session (ctx : Context) (key : String) (v : Value) :
    (ctx.set key v).session = ctx.session := rfl

@[simp] theorem Context.set_initialPacket (ctx : Context) (key : String) (v : Value) :
    (ctx.set key v).initialPacket = ctx.initialPacket := rfl

@[simp] theorem Context.getString_set (ctx : Context) (key s : String) :
    (ctx.set key (.string s)).getString key = s := by
  simp [Context.getString]

@[simp] theorem Context.getInt64_set (ctx : Context) (key : String) (n : Int) :
    (ctx.set key (.int64 n)).getInt64 key = n := by
  simp [Context.getInt64]

@[simp] theorem Context.getString_session (ctx : Context) (session : Option Session) (key : String) :
    ({ ctx with session := session } : Context).getString key = ctx.getString key := rfl

end QuicRelay
