import PureService.Diagnostic.Basic
import PureService.Sorting

/-!
# Collected diagnostics

A collector keeps diagnostics in the order in which they arrive. A report shows them in the order
of their places; findings that this order does not tell apart stay in order of arrival.
-/

namespace PureService

/-- Diagnostics in order of arrival. -/
structure Collector where
  arrived : List Diagnostic
  deriving DecidableEq, Repr

namespace Collector

def empty : Collector := ⟨[]⟩

def emit (collector : Collector) (diagnostic : Diagnostic) : Collector :=
  ⟨collector.arrived ++ [diagnostic]⟩

def emitAll (collector : Collector) (diagnostics : List Diagnostic) : Collector :=
  ⟨collector.arrived ++ diagnostics⟩

/-- The diagnostics in report order. -/
def sorted (collector : Collector) : List Diagnostic :=
  Sorting.sort Diagnostic.precedes collector.arrived

def size (collector : Collector) : Nat :=
  collector.arrived.length

def isEmpty (collector : Collector) : Bool :=
  collector.arrived.isEmpty

def errorCount (collector : Collector) : Nat :=
  collector.arrived.countP Diagnostic.isError

def contains (collector : Collector) (rule : Rule) : Bool :=
  collector.arrived.any fun diagnostic => diagnostic.rule == rule

end Collector

end PureService
