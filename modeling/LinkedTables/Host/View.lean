import LinkedTables.Host.Operation

/-!
# Views of the host

What a host shows of its tables, sessions and breakers. Looking changes nothing.
-/

namespace LinkedTables

/-- Names in the order of their characters. -/
def sorted (names : List String) : List String := names.mergeSort fun a b => a ≤ b

/-- Flags by name. -/
def flagFields (flags : Dialect.Flags) : Schema.Entries :=
  flags.toList.map fun (name, b) => (name, .bool b)

/-- The fields of the shape of a table, with the flags that were read along with it. -/
def Shape.view (shape : Shape) : Schema.Entries :=
  shape.toFields ++ [("flags", .dict (flagFields shape.flags)),
    ("session_flags", .dict (flagFields shape.flags)), ("scan_first", .bool true)]

namespace Host

/-- The texts of the idle statements of a session. -/
def idleTexts (h : Host) (s : Nat) : Value :=
  .list ((sorted ((h.session s).cache.map (·.1))).map .text)

/-- The idle statements of the session of a table. -/
def idleTextsOf? (h : Host) (table : LinkedTable) : Value :=
  (table.session.map h.idleTexts).getD .null

/-- The session of a table. -/
def sessionText? (h : Host) (table : LinkedTable) : Value :=
  .ofText? (table.session.map fun s => (h.session s).shown)

/-- Whether a table holds a session that is open. -/
def isConnected (h : Host) (table : LinkedTable) : Bool :=
  (table.session.map fun s => !(h.session s).closed).getD false

/-- The state of a table. -/
def tableView (h : Host) (table : LinkedTable) : Schema.Entries :=
  [("repr", .text table.shown), ("id", .int table.id),
    ("columns", .list (table.columns.map fun c => .dict c.toFields)),
    ("indexes", .list (table.indexes.map fun index => .dict index.toFields)),
    ("index_reprs", .list (table.indexes.map fun index => .text index.shown)),
    ("qualified_name", .text table.qualifiedName), ("vendor", .text table.vendor.name),
    ("flags", .dict (flagFields table.flags)), ("read_only", .bool table.readOnly),
    ("fetch_size", .int table.fetchSize), ("global_temporary", .bool table.globalTemporary),
    ("comment", .ofText? table.comment), ("has_definition", .bool table.valid),
    ("capabilities",
      .list ((Capability.ofLinked table.readOnly).map fun c => .text c.name)),
    ("connect_failure",
      (table.failure.map fun f => Value.dict (Fault.link f).toFields).getD .null),
    ("session", h.sessionText? table), ("connected", .bool (h.isConnected table)),
    ("cached", h.idleTextsOf? table)]

/-- The largest number of a modification; the data may have been modified by others. -/
def maxModificationId : Nat := Nat.pow 2 63 - 1

/-- What is known of a table without asking the remote side: its rows can be counted, it can be
dropped, rows can be inserted unless it is read only, and its content is not fixed by local
changes. -/
def tableFacts (table : LinkedTable) : List Value :=
  [.bool true, .bool true, .bool !table.readOnly, .bool false, .int maxModificationId, .null,
    .bool (table.vendor == .oracle), .int Action.assumedRowCount, .text TableKind.linked.name,
    .text table.name]

/-- The state of a session. -/
def sessionView (h : Host) (s : Nat) : List Value :=
  let session := h.session s
  [.text session.shown, .text session.dialect, .int session.useCount,
    .dict (flagFields session.flags), h.idleTexts s]

/-- The state of the breaker of a target. -/
def breakerView (h : Host) (breaker : Remote.Breaker) : List Value :=
  [.bool h.pool.shares, .text breaker.name, .int breaker.failMax, .int breaker.resetTimeout,
    .text breaker.state.name, .int breaker.failures]

/-- The undo log of a client. -/
def undoView (h : Host) (client : Nat) : List Value :=
  ((h.clients.at? client).getD default).undo.map fun r =>
    .list [.text r.table, .text r.change.name, .list r.row]

end Host

end LinkedTables
