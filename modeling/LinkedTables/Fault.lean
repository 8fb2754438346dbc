import LinkedTables.Value

/-!
# Faults

What can go wrong with a linked table, by cause. A `LinkFault` is a failure the link itself
reports, with the statement and the remote text where there are any; a `RemoteFault` comes from
the remote side; the other causes are those of values, keys and files. `Fault.remoteMessage` is
the remote driver's own text, and `wrapped` puts a fault into the failure of a statement.
-/

namespace LinkedTables

/-- The kinds of failure a link reports. -/
inductive LinkFaultKind where
  | general
  | connectFailure
  | ambiguousRemoteObject
  | objectNotFound
  | unsupportedOperation
  | readOnlyViolation
  | remoteExecutionFailure
  | valueConversion
  | tableClosed
  | queryCancelled
deriving DecidableEq, Repr, Inhabited

namespace LinkFaultKind

/-- The code reported with a failure. -/
def code : LinkFaultKind → String
  | general => "REMOTE_EXECUTION_FAILED"
  | connectFailure => "CONNECT_FAILED"
  | ambiguousRemoteObject => "AMBIGUOUS_REMOTE_OBJECT"
  | objectNotFound => "OBJECT_NOT_FOUND"
  | unsupportedOperation => "UNSUPPORTED_OPERATION"
  | readOnlyViolation => "READ_ONLY_VIOLATION"
  | remoteExecutionFailure => "REMOTE_EXECUTION_FAILED"
  | valueConversion => "VALUE_CONVERSION_FAILED"
  | tableClosed => "TABLE_CLOSED"
  | queryCancelled => "CANCELLED"

/-- The class under which a failure is reported. -/
def className : LinkFaultKind → String
  | general => "LinkError"
  | connectFailure => "ConnectFailure"
  | ambiguousRemoteObject => "AmbiguousRemoteObject"
  | objectNotFound => "ObjectNotFound"
  | unsupportedOperation => "UnsupportedOperation"
  | readOnlyViolation => "ReadOnlyViolation"
  | remoteExecutionFailure => "RemoteExecutionFailure"
  | valueConversion => "ValueConversionError"
  | tableClosed => "TableClosed"
  | queryCancelled => "QueryCancelled"

/-- The failures that are tried again: those of connecting and of executing. -/
def retryable (k : LinkFaultKind) : Bool :=
  k.code == "CONNECT_FAILED" || k.code == "REMOTE_EXECUTION_FAILED"

/-- The failures after which connecting again cannot help: the remote object itself is unusable. -/
def isFinal : LinkFaultKind → Bool
  | ambiguousRemoteObject | objectNotFound => true
  | _ => false

end LinkFaultKind

/-- A failure reported by a link. -/
structure LinkFault where
  kind : LinkFaultKind
  message : String
  sql : Option String
  remoteMessage : Option String
  details : Option Value
deriving Inhabited

/-- A failure with a message and nothing else. -/
def LinkFault.plain (kind : LinkFaultKind) (message : String) : LinkFault :=
  ⟨kind, message, none, none, none⟩

/-- The kinds of failure on the remote side. -/
inductive RemoteFaultKind where
  | operational
  | general
  | argument
  | noRow
  | manyRows
  | closedResource
deriving DecidableEq, Repr, Inhabited

/-- A failure of the remote side: its whole text, and the driver's own words when it wraps them. -/
structure RemoteFault where
  kind : RemoteFaultKind
  text : String
  driverText : Option String
deriving DecidableEq, Repr, Inhabited

/-- The class under which a remote failure is reported. -/
def RemoteFaultKind.className : RemoteFaultKind → String
  | operational => "OperationalError"
  | general => "SQLAlchemyError"
  | argument => "ArgumentError"
  | noRow => "NoResultFound"
  | manyRows => "MultipleResultsFound"
  | closedResource => "ResourceClosedError"

/-- A step on the way to a field: the name of a field or the index of an item. -/
inductive Step where
  | field (name : String)
  | item (index : Nat)
deriving DecidableEq, Repr, Inhabited

/-- What is wrong with a field, and where the field is. -/
structure FieldFault where
  path : List Step
  problem : String
deriving DecidableEq, Repr, Inhabited

/-- A step as a value. -/
def Step.toValue : Step → Value
  | field name => .text name
  | item i => .int i

/-- The fields of a field fault. -/
def FieldFault.toFields (f : FieldFault) : List (String × Value) :=
  [("loc", .list (f.path.map Step.toValue)), ("type", .text f.problem)]

/-- The causes of failure. The ones without a message are found by readers and operations on plain
values, which name only the class of the failure. -/
inductive Fault where
  | link (fault : LinkFault)
  | remote (fault : RemoteFault)
  | breaker (message : String)
  | notSupported (message : String)
  | internal (message : String)
  | badValue (message : String)
  | wrongType (message : String)
  | unknownKey (message : String)
  | missingFile (message : String)
  | invalidFields (faults : List FieldFault)
  /-- A file of links, given by its path, that cannot be read. -/
  | unreadableLinks (path : String)
  /-- A file that can be read, but does not declare links. -/
  | invalidLinks (faults : List FieldFault)
  | malformed
  | mismatch
  /-- A place outside a list, which was to be read or written. -/
  | outOfRange (writing : Bool)
  | missingKey
  | overflow
deriving Inhabited

namespace Fault

/-- The class under which a fault is reported. -/
def className : Fault → String
  | link f => f.kind.className
  | remote f => f.kind.className
  | breaker _ => "CircuitBreakerError"
  | notSupported _ => "NotImplementedError"
  | internal _ => "RuntimeError"
  | badValue _ | unreadableLinks _ | invalidLinks _ | malformed => "ValueError"
  | wrongType _ | mismatch => "TypeError"
  | unknownKey _ | missingKey => "KeyError"
  | missingFile _ => "FileNotFoundError"
  | invalidFields _ => "ValidationError"
  | outOfRange _ => "IndexError"
  | overflow => "OverflowError"

/-- The message of a fault, where it has one. -/
def message? : Fault → Option String
  | link f => some f.message
  | remote f => some f.text
  | breaker m | notSupported m | internal m | badValue m | wrongType m | unknownKey m
  | missingFile m => some m
  | unreadableLinks path => some ("Failed to parse YAML from " ++ path)
  | invalidLinks _ => some "Link Configuration Invalid"
  | _ => none

/-- The text of a fault: its message; a key stands in quotes, and a fault without a message is
named by its class. -/
def text : Fault → String
  | unknownKey m => Text.quoted m
  | outOfRange writing => if writing then "list assignment index out of range" else "list index out of range"
  | f => f.message?.getD ("<" ++ f.className ++ ">")

/-- The remote driver's own text for a fault: what a link failure carries if it is not empty, the
driver's words of a remote failure, and otherwise the text of the fault. -/
def remoteMessage : Fault → String
  | link f => match f.remoteMessage with
    | some m => if m.isEmpty then f.message else m
    | none => f.message
  | remote f => f.driverText.getD f.text
  | f => f.text

/-- The faults of fields, under the name that lists them. -/
def errorsField (faults : List FieldFault) : String × Value :=
  ("errors", .list (faults.map fun f => .dict f.toFields))

/-- What a fault tells beside its class. -/
def detailFields : Fault → List (String × Value)
  | link f =>
    [("message", .text f.message), ("code", .text f.kind.code), ("sql", .ofText? f.sql),
      ("remote", .ofText? f.remoteMessage), ("retryable", .bool f.kind.retryable),
      ("details", f.details.getD .null)]
  | remote f => [("message", .text (remote f).remoteMessage)]
  | invalidFields faults => [errorsField faults]
  | f =>
    let message := match f.message? with
      | some m => [("message", .text m)]
      | none => []
    match f with
    | invalidLinks faults => message ++ [errorsField faults]
    | _ => message

/-- The fields of a fault: its class, and what it tells beside. -/
def toFields (f : Fault) : List (String × Value) := ("error", .text f.className) :: f.detailFields

/-- The faults of the remote side. -/
def isRemote : Fault → Bool
  | remote _ => true
  | _ => false

/-- The faults that say that something is not supported. -/
def isUnsupported : Fault → Bool
  | notSupported _ => true
  | _ => false

/-- The faults of values: text that cannot be read, and values that do not fit. -/
def isBadValue : Fault → Bool
  | badValue _ | malformed | invalidFields _ | unreadableLinks _ | invalidLinks _ => true
  | _ => false

end Fault

/-- The failure of a statement: its text, and the remote text of the cause. -/
def wrapped (sql : String) (cause : Fault) : LinkFault :=
  let text := cause.remoteMessage
  ⟨.remoteExecutionFailure,
    "Error accessing linked table with SQL statement " ++ sql ++ ", cause: " ++ text,
    some sql, some text, none⟩

end LinkedTables
