/-! The journal of what happened while the machine worked. -/

namespace AdventureVm

/-- How urgent a record is, most urgent first. -/
inductive Level where
  | error
  | warn
  | info
  | debug
  | trace
deriving Repr, DecidableEq, Inhabited

namespace Level

/-- The position of a level, counted from the most urgent one. -/
def rank : Level → Nat
  | error => 0
  | warn => 1
  | info => 2
  | debug => 3
  | trace => 4

/-- The word that opens a written record. -/
def label : Level → String
  | error => "ERROR"
  | warn => "WARN"
  | info => "INFO"
  | debug => "DEBUG"
  | trace => "TRACE"

end Level

/--
One record of the journal.

A record that arises while the text of another one is put together is written only together with
that other one, so it also carries the level of the record it serves.
-/
structure Record where
  /-- How urgent the record is. -/
  level : Level
  /-- The level of the record whose text needed this one, or the record's own level. -/
  serves : Level
  /-- What happened. -/
  text : String
deriving Repr, DecidableEq, Inhabited

/-- The records of a stretch of work, oldest first. -/
abbrev Journal := Array Record

namespace Record

/-- A record that serves no other one. -/
def plain (level : Level) (text : String) : Record :=
  ⟨level, level, text⟩

/-- The same record, written only when a record of the given level is. -/
def serving (record : Record) (level : Level) : Record :=
  { record with serves := level }

/-- A reader who asks for records down to the threshold sees this one. -/
def isShown (threshold : Level) (record : Record) : Bool :=
  record.level.rank ≤ threshold.rank && record.serves.rank ≤ threshold.rank

/-- The written form: the level's word, a blank and the text. -/
def line (record : Record) : String :=
  record.level.label ++ " " ++ record.text

end Record

/-- The written records that a reader sees who asks for them down to the threshold. -/
def Journal.lines (journal : Journal) (threshold : Level) : List String :=
  (journal.toList.filter (·.isShown threshold)).map Record.line

end AdventureVm
