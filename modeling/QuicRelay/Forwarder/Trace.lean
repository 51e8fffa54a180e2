import QuicRelay.Forwarder.Connect

/-!
Reading a session's log: which code made each call, what the pump held from
the pool, and what each datagram had to follow.

* `Holding.replay` replays the pool discipline over the pump's calls: `Get` only
  with no buffer held, `Put` and every use only of the buffer held. A replay
  that does not end in `broken` gets and puts in balance (`replay_counts`).
* `Ordered` says every call of a trace follows what `Before` asks of it; cut at
  any call, the trace ends with what `Before` named (`Ordered.before`).
-/

namespace QuicRelay

/-- The code that made a call. -/
def Event.caller : Event → Caller
  | .dial _ => .onConnect
  | .backendWrite who _ _ _ => who
  | .backendClose who _ => who
  | .touch who => who
  | .packetResult _ _ _ => .onPacket
  | .getBuffer _ | .backendRead _ _ | .readFailed _ | .notify _ _ | .clientWrite _ _ _ _
  | .putBuffer _ => .pump

/-- The calls one caller made, in order. -/
def trace (who : Caller) (log : List Event) : List Event :=
  log.filter fun e => decide (e.caller = who)

@[simp] theorem trace_append (who : Caller) (log log' : List Event) :
    trace who (log ++ log') = trace who log ++ trace who log' := List.filter_append _ _

theorem trace_of_caller {who : Caller} {evs : List Event} (all : ∀ e ∈ evs, e.caller = who) :
    trace who evs = evs := List.filter_eq_self.mpr fun e mem => by simp [all e mem]

theorem trace_of_other {who : Caller} {evs : List Event} (none : ∀ e ∈ evs, e.caller ≠ who) :
    trace who evs = [] := List.filter_eq_nil_iff.mpr fun e mem => by simp [none e mem]

/-! ### The pool discipline -/

/-- The buffer a pump call reads or writes. -/
def Event.uses : Event → Option Nat
  | .backendRead b _ | .readFailed b | .notify b _ | .clientWrite b _ _ _ => some b
  | _ => none

/-- What the pump holds from the pool. -/
inductive Holding where
  | free
  | holds (b : Nat)
  | broken
deriving DecidableEq, Repr

/-- One call against the pool discipline; a violation breaks it for good. -/
def Holding.after (h : Holding) (e : Event) : Holding :=
  match e, h with
  | .getBuffer b, .free => .holds b
  | .getBuffer _, _ => .broken
  | .putBuffer b, .holds b' => if b = b' then .free else .broken
  | .putBuffer _, _ => .broken
  | e, h =>
    match e.uses, h with
    | none, h => h
    | some b, .holds b' => if b = b' then h else .broken
    | some _, _ => .broken

/-- The discipline replayed over a trace, from no buffer held. -/
def Holding.replay (log : List Event) : Holding := log.foldl Holding.after .free

/-- Buffers held: one or none. -/
def Holding.count : Holding → Nat
  | .holds _ => 1
  | _ => 0

/-- `GetBuffer` calls in a log. -/
def gets (log : List Event) : Nat := log.countP fun | .getBuffer _ => true | _ => false

/-- `PutBuffer` calls in a log. -/
def puts (log : List Event) : Nat := log.countP fun | .putBuffer _ => true | _ => false

theorem Holding.foldl_broken : ∀ log : List Event, log.foldl Holding.after .broken = .broken
  | [] => rfl
  | e :: rest => by
    have : Holding.after .broken e = .broken := by cases e <;> rfl
    rw [List.foldl_cons, this, Holding.foldl_broken rest]

theorem Holding.after_counts {h : Holding} {e : Event} (alive : h.after e ≠ .broken) :
    gets [e] + h.count = puts [e] + (h.after e).count := by
  cases e
  case getBuffer b => cases h <;> simp_all [Holding.after, Holding.count, gets, puts]
  case putBuffer b => cases h <;> simp_all [Holding.after, Holding.count, gets, puts]
  -- a call that uses no buffer keeps what is held
  case dial | backendWrite | backendClose | touch | packetResult => rfl
  -- a use of the buffer held keeps it
  all_goals
    cases h <;> simp_all [Holding.after, Event.uses, gets, puts]

/-- While the discipline holds, every buffer got was put back, except the one
held. -/
theorem replay_counts : ∀ (log : List Event) (h : Holding),
    log.foldl Holding.after h ≠ .broken →
      gets log + h.count = puts log + (log.foldl Holding.after h).count
  | [], h, _ => by simp [gets, puts]
  | e :: rest, h, ok => by
    have alive : Holding.after h e ≠ .broken := fun broke => ok (by
      rw [List.foldl_cons, broke, Holding.foldl_broken])
    have first := Holding.after_counts alive
    have ih := replay_counts rest (Holding.after h e) ok
    have split : ∀ f : Event → Bool, (e :: rest).countP f = [e].countP f + rest.countP f := by
      intro f; simp [List.countP_cons]; omega
    simp only [gets, puts, List.foldl_cons] at *
    rw [split, split]
    omega

/-- Only the pump gets and puts buffers. -/
theorem gets_trace (log : List Event) : gets (trace .pump log) = gets log := by
  simp only [gets, trace, List.countP_filter]
  exact List.countP_congr fun e _ => by cases e <;> simp [Event.caller]

theorem puts_trace (log : List Event) : puts (trace .pump log) = puts log := by
  simp only [puts, trace, List.countP_filter]
  exact List.countP_congr fun e _ => by cases e <;> simp [Event.caller]

/-! ### Call order -/

/-- What must come right before a call in its caller's trace (`none` is the
start): the notification of the same datagram before a client write, the pump's
`Touch` before a notification, and `OnPacket`'s `Touch` before its backend write. -/
def Before : Event → Option Event → Prop
  | .clientWrite b d _ _, prev => prev = some (.notify b d)
  | .notify _ _, prev => prev = some (.touch .pump)
  | .backendWrite .onPacket _ _ _, prev => prev = some (.touch .onPacket)
  | _, _ => True

/-- Every call of a trace comes after what `Before` asks for it. -/
def Ordered : Option Event → List Event → Prop
  | _, [] => True
  | prev, e :: rest => Before e prev ∧ Ordered (some e) rest

theorem Ordered.append : ∀ {prev : Option Event} {l m : List Event},
    Ordered prev (l ++ m) ↔ Ordered prev l ∧ Ordered (l.getLast?.or prev) m
  | prev, [], m => by simp [Ordered]
  | prev, e :: l, m => by
    have last : (e :: l).getLast?.or prev = l.getLast?.or (some e) := by
      cases l with
      | nil => rfl
      | cons x l =>
        rw [List.getLast?_cons_cons, List.getLast?_eq_getLast _ (List.cons_ne_nil x l)]
        rfl
    show (Before e prev ∧ Ordered (some e) (l ++ m)) ↔ (Before e prev ∧ Ordered (some e) l) ∧ _
    rw [Ordered.append, last, and_assoc]

/-- Cut at any call, an ordered trace ends with what `Before` asks of the call. -/
theorem Ordered.before {pre post : List Event} {e : Event}
    (ordered : Ordered none (pre ++ e :: post)) : Before e pre.getLast? := by
  have := (Ordered.append.mp ordered).2
  simp only [Ordered, Option.or_none] at this
  exact this.1

/-- In an ordered trace, a call comes right after the call `Before` asks for. -/
theorem Ordered.after {pre post : List Event} {e x : Event}
    (ordered : Ordered none (pre ++ e :: post)) (asks : Before e pre.getLast? → pre.getLast? = some x) :
    ∃ pre', pre = pre' ++ [x] :=
  List.getLast?_eq_some_iff.mp (asks ordered.before)

/-- In an ordered trace, a client write comes right after the pump's `Touch`
and the notification of the same datagram. -/
theorem Ordered.clientWrite {pre post : List Event} {b : Nat} {d : Bytes} {a : UDPAddr}
    {ok : Bool} (ordered : Ordered none (pre ++ .clientWrite b d a ok :: post)) :
    ∃ pre', pre = pre' ++ [.touch .pump, .notify b d] := by
  obtain ⟨pre, rfl⟩ := ordered.after id
  rw [List.append_assoc, List.singleton_append] at ordered
  obtain ⟨pre, rfl⟩ := ordered.after id
  exact ⟨pre, by simp⟩

/-- In an ordered trace, `OnPacket`'s backend write comes right after its `Touch`. -/
theorem Ordered.backendWrite {pre post : List Event} {c : UDPConn} {d : Bytes} {ok : Bool}
    (ordered : Ordered none (pre ++ .backendWrite .onPacket c d ok :: post)) :
    ∃ pre', pre = pre' ++ [.touch .onPacket] :=
  ordered.after id

end QuicRelay
