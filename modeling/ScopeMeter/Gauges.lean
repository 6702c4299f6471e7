import ScopeMeter.Binary64.Shortest
import ScopeMeter.Binding

/-!
# Gauges

The latest round of every binding is shown as gauges: for each event one value under the labels
device, series, thread and thread number. A gauge keeps its value until it is set again. The
gauges are listed in the order of their labels.

A gauge is known by a mark of its labels and keeps the labels under which it was set first. The
mark in use is the fingerprint of the labels run together, so labels that spell the same text when
they are run together share one gauge. Setting gauges takes the mark as a parameter; where labels
are their own mark, each of them has a gauge of its own.
-/

namespace ScopeMeter.Text

/-!
## Fingerprints

A fingerprint is a word that stands for a text. The bytes of the text are mixed into it one after
the other, so the fingerprint of two texts run together goes on from that of the first. Where one
text ends and the next begins leaves no trace in it.
-/

/-- The fingerprint of the empty text. -/
def emptyFingerprint : UInt64 := 0xCBF29CE484222325

/-- Mixes a byte into a fingerprint. -/
def mixByte (mark : UInt64) (byte : UInt8) : UInt64 := (mark ^^^ byte.toUInt64) * 0x100000001B3

/-- Mixes a text into a fingerprint. -/
def mixText (mark : UInt64) (s : String) : UInt64 := s.toUTF8.data.toList.foldl mixByte mark

/-- The fingerprint of a text. -/
def fingerprint (s : String) : UInt64 := mixText emptyFingerprint s

theorem mixText_append (mark : UInt64) (s t : String) :
    mixText mark (s ++ t) = mixText (mixText mark s) t := by
  simp [mixText]

/-- The fingerprint of two texts run together goes on from that of the first. -/
theorem fingerprint_append (s t : String) :
    fingerprint (s ++ t) = mixText (fingerprint s) t :=
  mixText_append emptyFingerprint s t

end ScopeMeter.Text

namespace ScopeMeter

/-- The labels of a gauge, in the order in which they are compared and shown. -/
structure GaugeLabels where
  device : String
  series : String
  thread : String
  tid : String
  deriving DecidableEq, Repr

namespace GaugeLabels

/-- The labels as a list of texts. -/
def toList (l : GaugeLabels) : List String := [l.device, l.series, l.thread, l.tid]

/-- The labels run together. -/
def joined (l : GaugeLabels) : String := l.thread ++ l.tid ++ l.device ++ l.series

/-- What the gauge of the labels is known by. -/
def fingerprint (l : GaugeLabels) : UInt64 := Text.fingerprint l.joined

theorem fingerprint_eq_of_joined_eq {l m : GaugeLabels} (same : l.joined = m.joined) :
    l.fingerprint = m.fingerprint := congrArg Text.fingerprint same

end GaugeLabels

/-- The labels of an event of a binding. -/
def Binding.gaugeLabels (b : Binding) (event : String) : GaugeLabels where
  device := b.device.label
  series := event
  thread := b.name
  tid := match b.tid with
    | some tid => toString tid.toInt
    | none => "all"

/-- The gauges set so far, by their labels. -/
abbrev Gauges := List (GaugeLabels × Int64)

namespace Gauges

/-- Adds a gauge at the place of its labels. -/
def add (labels : GaugeLabels) (value : Int64) : Gauges → Gauges
  | [] => [(labels, value)]
  | (l, v) :: rest =>
    if labels.toList < l.toList then (labels, value) :: (l, v) :: rest
    else (l, v) :: add labels value rest

variable {κ : Type} [DecidableEq κ] (mark : GaugeLabels → κ)

/-- Gives a value to the gauge with the mark of some labels. -/
def change (labels : GaugeLabels) (value : Int64) (g : Gauges) : Gauges :=
  g.map fun e => if mark e.1 = mark labels then (e.1, value) else e

/-- Whether a gauge has the mark of some labels. -/
def knows (labels : GaugeLabels) (g : Gauges) : Bool := g.any fun e => mark e.1 = mark labels

/-- Sets the gauge of some labels. -/
def set (labels : GaugeLabels) (value : Int64) (g : Gauges) : Gauges :=
  if g.knows mark labels then g.change mark labels value else g.add labels value

/-- The value of the gauge that shows some labels. -/
def get? (labels : GaugeLabels) : Gauges → Option Int64
  | [] => none
  | (l, v) :: rest => if l = labels then some v else get? labels rest

/-- Sets the gauge of one event of a binding, if its series has a value. -/
def observeEvent (b : Binding) (g : Gauges) (event : String) : Gauges :=
  match (b.results.get? event).bind Series.last? with
  | some value => g.set mark (b.gaugeLabels event) value
  | none => g

/-- Sets the gauges of the events of a binding whose series have a value. -/
def observeBy (g : Gauges) (b : Binding) : Gauges := b.eventNames.foldl (observeEvent mark b) g

/-- Sets the gauges of a binding, known by their fingerprints. -/
def observe (g : Gauges) (b : Binding) : Gauges := g.observeBy GaugeLabels.fingerprint b

/-- One character of a label. -/
def labelChar (c : Char) : List Char :=
  match c with
  | '\\' => ['\\', '\\']
  | '\n' => ['\\', 'n']
  | '\"' => ['\\', '\"']
  | c => [c]

/-- A label with its name. -/
def labelText (name value : String) : String :=
  name ++ "=\"" ++ String.ofList (value.toList.flatMap labelChar) ++ "\""

/-- The value of a gauge: the nearest double, without an exponent. -/
def valueText (value : Int64) : String :=
  match Binary64.ofInt? value.toInt with
  | some x => x.plainText
  | none => toString value.toInt

/-- The name under which the gauges are published. -/
def metricName : String := "perfscope_counter_delta"

/-- The line of a gauge. -/
def line (labels : GaugeLabels) (value : Int64) : String :=
  metricName ++ "\x7b" ++
    ",".intercalate
      [labelText "device" labels.device, labelText "series" labels.series,
       labelText "thread" labels.thread, labelText "tid" labels.tid] ++
    "\x7d " ++ valueText value

/-- The lines that publish the gauges; none before the first gauge is set. -/
def lines (g : Gauges) : List String :=
  if g.isEmpty then []
  else
    ("# HELP " ++ metricName ++ " Counter delta over the latest collection round") ::
      ("# TYPE " ++ metricName ++ " gauge") :: g.map fun e => line e.1 e.2

end Gauges

end ScopeMeter
