import LinkedTables.Host.Session

/-!
# The pool of remote sessions

Sessions are acquired by target and released again. With sharing, the tables of one target use one
session, which is closed when the last of them releases it, or when one of them releases it by
force because it seems broken. Each target has a breaker before its connects.
-/

namespace LinkedTables.Action

/-- The connector of a target, made when it is first needed. -/
def connectorFor (key : LinkKey) : Action Remote.Url := do
  let pool := (← get).pool
  match pool.connectors.value? key with
  | some url => return url
  | none =>
    let url ← ofExcept (Remote.Url.ofKey key)
    note (.connectorMade url pool.prePing)
    -- A connector that cannot be made is not kept, and the next connect tries again.
    ofExcept (← fromScript Remote.Script.connector)
    revisePool fun pool => { pool with connectors := pool.connectors.put key url }
    return url

/-- The name of the breaker of an address. -/
def breakerName (url : Remote.Url) : String := "LINK_BREAKER[" ++ url.text true ++ "]"

/-- The breaker of a target, made when it is first needed. -/
def breakerFor (key : LinkKey) : Action Remote.Breaker := do
  let pool := (← get).pool
  match pool.breakers.value? key with
  | some breaker => return breaker
  | none =>
    let url ← ofExcept (Remote.Url.read key.url)
    let breaker := Remote.Breaker.make (breakerName url) pool.failMax pool.resetTimeout
    revisePool fun pool => { pool with breakers := pool.breakers.put key breaker }
    return breaker

/-- Keeps the breaker of a target. -/
def keepBreaker (key : LinkKey) (breaker : Remote.Breaker) : Action Unit :=
  revisePool fun pool => { pool with breakers := pool.breakers.put key breaker }

/-- Connects once and gives the connection its number. -/
def connectOnce : Action (Except Fault Nat) := do
  let n := (← get).connects + 1
  let r ← fromScript Remote.Script.connect
  modify fun h => { h with connects := n }
  note (.connected n r.toBool)
  return r.map fun _ => n

/-- Connects to a target through its breaker. -/
def connectGuarded (key : LinkKey) : Action Nat := do
  let breaker ← breakerFor key
  let (breaker, notices) ← ofExcept breaker.allow
  keepBreaker key breaker
  reportAll notices
  let r ← connectOnce
  -- Every fault of a connect counts.
  let (r, breaker, notices) := breaker.settle (fun _ => true) r
  keepBreaker key breaker
  reportAll notices
  ofExcept r

/-- The shared session of a target that is open. -/
def sharedSession? (h : Host) (key : LinkKey) : Option Nat :=
  if h.pool.shares then (h.pool.shared.value? key).filter fun s => !(h.session s).closed else none

/-- Opens a session on a new connection, for a single user. -/
def openSession (key : LinkKey) : Action Nat := do
  let url ← connectorFor key
  let n ← connectGuarded key
  note (.setToCommit n)
  let s := (← get).sessions.next
  modify fun h => { h with
    sessions := h.sessions.join
      ⟨key, n, url.dialect, Dialect.Vendor.ofUrl key.url, Dialect.Flags.none, 1, false, []⟩ }
  revisePool fun pool =>
    if pool.shares then { pool with shared := pool.shared.put key s } else pool
  report ⟨.debug, "Opened remote session for " ++ url.text true⟩
  return s

/-- A connected session for a target. -/
def acquire (key : LinkKey) : Action Nat := do
  match sharedSession? (← get) key with
  | some s =>
    reviseSession s fun session => { session with useCount := session.useCount + 1 }
    return s
  | none => openSession key

/-- Gives a session back. It is closed when nobody uses it any more, or by force. -/
def release (s : Nat) (force : Bool) : Action Unit := do
  reviseSession s fun session => { session with useCount := session.useCount - 1 }
  let session := (← get).session s
  -- By force a session is closed under its other users as well.
  if !force && 0 < session.useCount then return
  revisePool fun pool =>
    if pool.shared.value? session.key = some s then
      { pool with shared := pool.shared.drop session.key }
    else pool
  discard s force

/-- Closes the shared sessions and disposes of the connectors. -/
def closePool : Action Unit := do
  let pool := (← get).pool
  revisePool fun pool => { pool with shared := [], connectors := [] }
  pool.shared.forM fun (_, s) => discard s false
  pool.connectors.forM fun (_, url) => note (.disposed url)

end LinkedTables.Action
