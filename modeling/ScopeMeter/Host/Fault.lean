import ScopeMeter.Host.CallFault

/-!
# Planned faults

A machine fails calls by plan. A rule names a kind of call and, if it likes, the thread, the
family and the code of the counter concerned; it lets so many calls pass and then meets so many.
`FaultRule.fire` finds the rule that meets a call and counts down the rules on the way to it.
-/

namespace ScopeMeter

/-- The kinds of calls that can fail. -/
inductive CallKind
  | opening
  | control (control : Control)
  | reading
  deriving DecidableEq, Repr

/-- What a rule does to a call. -/
inductive FaultEffect
  | fail (number : Errno)
  /-- A read is cut to so many bytes and tells another count of values; other calls succeed. -/
  | distort (bytes : Option Nat) (count : Option UInt64)
  deriving DecidableEq, Repr

/-- The counter that a call is about. -/
structure Subject where
  tid : Int32
  type : UInt32
  config : UInt64
  deriving DecidableEq, Repr

structure FaultRule where
  call : CallKind
  tid : Option Int32 := none
  type : Option UInt32 := none
  config : Option UInt64 := none
  /-- How many calls pass before the rule applies. -/
  skip : Nat := 0
  /-- How many calls the rule applies to. -/
  times : Nat := 1
  effect : FaultEffect
  deriving DecidableEq, Repr

namespace FaultRule

/-- Whether a rule is about a call and has not run out. -/
def concerns (r : FaultRule) (call : CallKind) (subject : Subject) : Bool :=
  r.call = call && r.tid.all (· = subject.tid) && r.type.all (· = subject.type) &&
    r.config.all (· = subject.config) && r.times != 0

/-- The effect of the first rule that meets a call, and the rules after the call. -/
def fire (call : CallKind) (subject : Subject) :
    List FaultRule → Option FaultEffect × List FaultRule
  | [] => (none, [])
  | r :: rules =>
    if r.concerns call subject then
      if r.skip = 0 then (some r.effect, { r with times := r.times - 1 } :: rules)
      else
        let (effect, rules) := fire call subject rules
        (effect, { r with skip := r.skip - 1 } :: rules)
    else
      let (effect, rules) := fire call subject rules
      (effect, r :: rules)

end FaultRule

end ScopeMeter
